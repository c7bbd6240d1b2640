import MailTriage.Number.Shortest

/-!
# Scripts as trees

The part of JavaScript that rule scripts are written in: expressions over numbers, texts, arrays and
objects, calls, and a few statements.
-/

namespace MailTriage.Script

/-- An operation on two values. -/
inductive BinaryOp
  | add
  | sub
  | mul
  | div
  | rem
  | less
  | greater
  | atMost
  | atLeast
  | same
  | notSame
  | equal
  | notEqual
  | and
  | or
  deriving DecidableEq

/-- An operation on one value. -/
inductive UnaryOp
  | not
  | negate
  | toNumber
  | typeOf
  | discard
  deriving DecidableEq

inductive Expr
  | number (x : Binary64)
  | text (s : String)
  | bool (b : Bool)
  | null
  | name (s : String)
  | array (items : List Expr)
  | object (fields : List (String × Expr))
  | member (target : Expr) (key : String)
  | index (target key : Expr)
  | call (callee : Expr) (arguments : List Expr)
  | construct (callee : Expr) (arguments : List Expr)
  | unary (op : UnaryOp) (e : Expr)
  | binary (op : BinaryOp) (a b : Expr)
  | remove (target : Expr)
  | assign (op : Option BinaryOp) (target value : Expr)
  /-- Counts a place up or down; `before` tells whether the new value is the result. -/
  | count (up before : Bool) (target : Expr)
  | choose (test yes no : Expr)
  deriving Inhabited

inductive Statement
  | nothing
  | declare (bindings : List (String × Option Expr))
  | run (e : Expr)
  | block (body : List Statement)
  | branch (test : Expr) (yes : Statement) (no : Option Statement)
  | loop (start : Statement) (test update : Option Expr) (body : Statement)
  | give (e : Option Expr)
  | raise (e : Expr)
  deriving Inhabited

def Expr.source : Expr → String
  | name s => s
  | member target key => target.source ++ "." ++ key
  | index target (.number x) => target.source ++ "[" ++ x.text .report ++ "]"
  | index target (.text s) => target.source ++ "." ++ s
  | index target key => target.source ++ "[" ++ key.source ++ "]"
  | call callee _ => callee.source ++ "(...)"
  | _ => "(intermediate value)"

mutual

def Statement.declared : Statement → List String
  | .declare bindings => bindings.map Prod.fst
  | .block body => declaredIn body
  | .branch _ yes (some no) => yes.declared ++ no.declared
  | .branch _ yes none => yes.declared
  | .loop start _ _ body => start.declared ++ body.declared
  | _ => []

def declaredIn : List Statement → List String
  | [] => []
  | statement :: rest => statement.declared ++ declaredIn rest

end

end MailTriage.Script

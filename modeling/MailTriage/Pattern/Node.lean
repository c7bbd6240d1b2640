/-!
# Patterns

The tree of a search pattern. A leaf takes one character or looks at a position; the rest combine
trees. Code points are plain numbers, since a pattern may name one that no text contains.
-/

namespace MailTriage

namespace Pattern

/-- The switches of a pattern, or of a part of it. -/
structure Flags where
  ignoreCase : Bool := false
  multiLine : Bool := false
  dotAll : Bool := false
  verbose : Bool := false
  ascii : Bool := false
  unicode : Bool := false
  template : Bool := false
  deriving DecidableEq, Inhabited

namespace Flags

def union (a b : Flags) : Flags :=
  { ignoreCase := a.ignoreCase || b.ignoreCase
    multiLine := a.multiLine || b.multiLine
    dotAll := a.dotAll || b.dotAll
    verbose := a.verbose || b.verbose
    ascii := a.ascii || b.ascii
    unicode := a.unicode || b.unicode
    template := a.template || b.template }

def without (a b : Flags) : Flags :=
  { ignoreCase := a.ignoreCase && !b.ignoreCase
    multiLine := a.multiLine && !b.multiLine
    dotAll := a.dotAll && !b.dotAll
    verbose := a.verbose && !b.verbose
    ascii := a.ascii && !b.ascii
    unicode := a.unicode && !b.unicode
    template := a.template && !b.template }

def isEmpty (a : Flags) : Bool := a = {}

/-- Whether the switches name a character repertoire. -/
def namesRepertoire (a : Flags) : Bool := a.ascii || a.unicode

def meets (a b : Flags) : Bool :=
  (a.ignoreCase && b.ignoreCase) || (a.multiLine && b.multiLine) || (a.dotAll && b.dotAll) ||
    (a.verbose && b.verbose) || (a.ascii && b.ascii) || (a.unicode && b.unicode) ||
    (a.template && b.template)

/-- The switches inside a group that turns some on and some off; a repertoire replaces the other. -/
def inside (outer on off : Flags) : Flags :=
  let base := if on.namesRepertoire then { outer with ascii := false, unicode := false } else outer
  (base.union on).without off

end Flags

/-- A class of characters with a name. -/
inductive Family
  | digit
  | space
  | word
  deriving DecidableEq

/-- A member of a character set. -/
inductive Item
  | single (code : Nat)
  | span (first last : Nat)
  | family (family : Family) (negated : Bool)
  deriving DecidableEq

/-- A condition on a position. -/
inductive Anchor
  | lineStart
  | lineEnd
  | textStart
  | textEnd
  | wordEdge
  | wordInside
  deriving DecidableEq

/-- How many times a repetition prefers to run, and whether it gives any run back. -/
inductive Appetite
  | greedy
  | lazy
  | possessive
  deriving DecidableEq

inductive Node
  | empty
  | literal (negated : Bool) (code : Nat)
  | any
  | oneOf (negated : Bool) (items : List Item)
  | anchor (anchor : Anchor)
  | seq (first second : Node)
  | alt (first second : Node)
  | group (index : Nat) (body : Node)
  | switched (on off : Flags) (body : Node)
  | atomic (body : Node)
  | ahead (negated : Bool) (body : Node)
  | behind (negated : Bool) (least most : Nat) (body : Node)
  | sameAs (group : Nat)
  | ifGroup (group : Nat) (yes no : Node)
  | repeated (appetite : Appetite) (least : Nat) (most : Option Nat) (body : Node)
  deriving Inhabited

namespace Node

def ofList : List Node → Node
  | [] => empty
  | [node] => node
  | node :: rest => seq node (ofList rest)

/-- One of several, the first preferred. -/
def oneOfNodes : List Node → Node
  | [] => empty
  | [node] => node
  | node :: rest => alt node (oneOfNodes rest)

def isAnchor : Node → Bool
  | anchor _ => true
  | _ => false

def isRepeated : Node → Bool
  | repeated .. => true
  | _ => false

/-- The characters of a text, one after another. -/
def ofText (s : String) : Node :=
  ofList (s.toList.map fun c => literal false c.toNat)

def widthLimit : Nat := 18446744073709551616

def capWidth (width : Nat × Nat) : Nat × Nat :=
  (min width.1 widthLimit, min width.2 widthLimit)

/-- The least and greatest number of characters that a node takes, given those of the groups. -/
def width (groups : Nat → Nat × Nat) : Node → Nat × Nat
  | empty => (0, 0)
  | literal .. => (1, 1)
  | any => (1, 1)
  | oneOf .. => (1, 1)
  | anchor _ => (0, 0)
  | seq a b =>
    let x := a.width groups
    let y := b.width groups
    capWidth (x.1 + y.1, x.2 + y.2)
  | alt a b =>
    let x := a.width groups
    let y := b.width groups
    (min x.1 y.1, max x.2 y.2)
  | group _ body => body.width groups
  | switched _ _ body => body.width groups
  | atomic body => body.width groups
  | ahead .. => (0, 0)
  | behind .. => (0, 0)
  | sameAs index => groups index
  | ifGroup _ yes no =>
    let x := yes.width groups
    let y := no.width groups
    (min x.1 y.1, max x.2 y.2)
  | repeated _ least most body =>
    let x := body.width groups
    match most with
    | some n => capWidth (x.1 * least, x.2 * n)
    | none => capWidth (x.1 * least, if x.2 = 0 then 0 else widthLimit)

end Node

end Pattern

/-- A pattern ready to be searched for. -/
structure Pattern where
  root : Pattern.Node
  flags : Pattern.Flags
  /-- The number of groups that capture. -/
  groups : Nat
  deriving Inhabited

end MailTriage

import MailTriage.Script.Token
import MailTriage.Script.Tree
import MailTriage.Text.Quoted

/-!
# The grammar of scripts

Reading the words of a script as statements. Operators bind in the usual order; a statement ends at
a semicolon, before a closing brace or at a line break.
-/

namespace MailTriage.Script

/-- Reads from the words that are left, or fails with a message. -/
abbrev Grammar := StateT (List Lexeme) (Except String)

namespace Grammar

def reserved : List String :=
  ["var", "if", "else", "for", "return", "throw", "new", "typeof", "delete", "void", "function",
   "while", "do", "switch", "case", "default", "break", "continue", "try", "catch", "finally", "in",
   "instanceof", "with", "this", "class", "const", "export", "import", "extends",
     "super", "debugger",
   "enum", "null", "true", "false"]

/-- The message for a word that may not stand where it stands. -/
def unexpected (lexemes : List Lexeme) : String :=
  match lexemes with
  | [] => "Unexpected end of input"
  | ⟨.name s, _⟩ :: _ =>
    if reserved.contains s then "Unexpected token '" ++ s ++ "'"
    else "Unexpected identifier '" ++ s ++ "'"
  | ⟨.number _, _⟩ :: _ => "Unexpected number"
  | ⟨.text _, _⟩ :: _ => "Unexpected string"
  | ⟨.sign s, _⟩ :: _ => "Unexpected token '" ++ s ++ "'"

def refuse {α : Type} : Grammar α := do
  throw (unexpected (← get))

def peek : Grammar (Option Token) := do
  return (← get).head?.map Lexeme.token

def advance : Grammar Unit := modify List.tail

def isNext (s : String) : Grammar Bool := do
  return (← peek) = some (.sign s)

def accept (s : String) : Grammar Bool := do
  if ← isNext s then
    advance
    return true
  else return false

def expect (s : String) : Grammar Unit := do
  unless ← accept s do refuse

def isWord (s : String) : Grammar Bool := do
  return (← peek) = some (.name s)

def acceptWord (s : String) : Grammar Bool := do
  if ← isWord s then
    advance
    return true
  else return false

/-- Whether a line break stands before the next word. -/
def atLineBreak : Grammar Bool := do
  return (← get).head?.all Lexeme.newLine

def identifier : Grammar String := do
  match ← peek with
  | some (.name s) =>
    if reserved.contains s then refuse
    else advance
    return s
  | _ => refuse

/-- Operators on two values with the tightness of their hold. -/
def binaryOps : List (String × Nat × BinaryOp) :=
  [("||", 1, .or), ("&&", 2, .and), ("===", 3, .same), ("!==", 3, .notSame), ("==", 3, .equal),
   ("!=", 3, .notEqual), ("<", 4, .less), (">", 4, .greater), ("<=", 4, .atMost),
   (">=", 4, .atLeast), ("+", 5, .add), ("-", 5, .sub), ("*", 6, .mul), ("/", 6, .div),
   ("%", 6, .rem)]

/-- Signs of assignments, with the operation that they apply first. -/
def assignments : List (String × Option BinaryOp) :=
  [("=", none), ("+=", some .add), ("-=", some .sub), ("*=", some .mul), ("/=", some .div),
   ("%=", some .rem)]

def isPlace : Expr → Bool
  | .name _ => true
  | .member .. => true
  | .index .. => true
  | _ => false

def key? : Token → Option String
  | .name s => some s
  | .text s => some s
  | .number x => some (x.text .script)
  | .sign _ => none

mutual

def expression : (fuel : Nat) → Grammar Expr
  | 0 => refuse
  | fuel + 1 => do
    let left ← conditional fuel
    match ← peek with
    | some (.sign s) =>
      match assignments.lookup s with
      | some op =>
        unless isPlace left do throw "Invalid left-hand side in assignment"
        advance
        return .assign op left (← expression fuel)
      | none => return left
    | _ => return left

/-- A choice between two values, or none. -/
def conditional : (fuel : Nat) → Grammar Expr
  | 0 => refuse
  | fuel + 1 => do
    let test ← operand fuel
    let test ← operations 1 test fuel
    if ← accept "?" then
      let yes ← expression fuel
      expect ":"
      return .choose test yes (← expression fuel)
    else return test

/-- The operations that follow a value and hold at least as tightly as `level`. -/
def operations (level : Nat) (left : Expr) : (fuel : Nat) → Grammar Expr
  | 0 => refuse
  | fuel + 1 => do
    match ← peek with
    | some (.sign s) =>
      match binaryOps.lookup s with
      | some (tightness, op) =>
        if level ≤ tightness then
          advance
          let right ← operand fuel
          let right ← operations (tightness + 1) right fuel
          operations level (.binary op left right) fuel
        else return left
      | none => return left
    | _ => return left

/-- A value with the signs and words in front of it. -/
def operand : (fuel : Nat) → Grammar Expr
  | 0 => refuse
  | fuel + 1 => do
    if ← accept "!" then return .unary .not (← operand fuel)
    else if ← accept "-" then return .unary .negate (← operand fuel)
    else if ← accept "+" then return .unary .toNumber (← operand fuel)
    else if ← acceptWord "typeof" then return .unary .typeOf (← operand fuel)
    else if ← acceptWord "void" then return .unary .discard (← operand fuel)
    else if ← acceptWord "delete" then return .remove (← operand fuel)
    else if ← accept "++" then return .count true true (← place fuel)
    else if ← accept "--" then return .count false true (← place fuel)
    else
      let value ← chain (← primary fuel) fuel
      if ← atLineBreak then return value
      else if (← isNext "++") && isPlace value then
        advance
        return .count true false value
      else if (← isNext "--") && isPlace value then
        advance
        return .count false false value
      else return value

/-- What a counting sign stands in front of. -/
def place : (fuel : Nat) → Grammar Expr
  | 0 => refuse
  | fuel + 1 => do
    let value ← operand fuel
    unless isPlace value do throw "Invalid left-hand side expression in prefix operation"
    return value

/-- The members, indexes and calls that follow a value. -/
def chain (value : Expr) : (fuel : Nat) → Grammar Expr
  | 0 => refuse
  | fuel + 1 => do
    if ← accept "." then
      match ← peek with
      | some (.name s) =>
        advance
        chain (.member value s) fuel
      | _ => refuse
    else if ← accept "[" then
      let key ← expression fuel
      expect "]"
      chain (.index value key) fuel
    else if ← accept "(" then
      let arguments ← items ")" fuel
      chain (.call value arguments) fuel
    else return value

/-- Expressions with commas between them, up to a closing sign. -/
def items (close : String) : (fuel : Nat) → Grammar (List Expr)
  | 0 => refuse
  | fuel + 1 => do
    if ← accept close then return []
    else
      let first ← expression fuel
      if ← accept "," then return first :: (← items close fuel)
      else if ← accept close then return [first]
      else if close = ")" then throw "missing ) after argument list"
      else refuse

/-- Fields of an object, up to the closing brace. -/
def fields : (fuel : Nat) → Grammar (List (String × Expr))
  | 0 => refuse
  | fuel + 1 => do
    if ← accept "\x7d" then return []
    else
      match (← peek).bind key? with
      | none => refuse
      | some key =>
        advance
        let value ← if ← accept ":" then expression fuel else pure (.name key)
        if ← accept "," then return (key, value) :: (← fields fuel)
        else
          expect "\x7d"
          return [(key, value)]

def primary : (fuel : Nat) → Grammar Expr
  | 0 => refuse
  | fuel + 1 => do
    match ← peek with
    | some (.number x) => advance; return .number x
    | some (.text s) => advance; return .text s
    | some (.sign "(") =>
      advance
      let value ← expression fuel
      expect ")"
      return value
    | some (.sign "[") => advance; return .array (← items "]" fuel)
    | some (.sign "\x7b") => advance; return .object (← fields fuel)
    | some (.name "true") => advance; return .bool true
    | some (.name "false") => advance; return .bool false
    | some (.name "null") => advance; return .null
    | some (.name "new") =>
      advance
      let callee := Expr.name (← identifier)
      if ← accept "(" then return .construct callee (← items ")" fuel)
      else return .construct callee []
    | some (.name _) => return .name (← identifier)
    | _ => refuse

end

def endStatement : Grammar Unit := do
  if ← accept ";" then return
  else if ← isNext "\x7d" then return
  else if ← atLineBreak then return
  else refuse

/-- Declared names with their first values. -/
def bindings : (fuel : Nat) → Grammar (List (String × Option Expr))
  | 0 => refuse
  | fuel + 1 => do
    let name ← identifier
    let value ← if ← accept "=" then some <$> expression fuel else pure none
    if ← accept "," then return (name, value) :: (← bindings fuel)
    else return [(name, value)]

/-- An expression, unless a sign follows at once. -/
def unless? (close : String) (fuel : Nat) : Grammar (Option Expr) := do
  if ← isNext close then return none
  else return some (← expression fuel)

mutual

def statement : (fuel : Nat) → Grammar Statement
  | 0 => refuse
  | fuel + 1 => do
    if ← accept ";" then return .nothing
    else if ← accept "\x7b" then return .block (← body fuel)
    else if ← acceptWord "var" then
      let declared ← bindings fuel
      endStatement
      return .declare declared
    else if ← acceptWord "if" then
      expect "("
      let test ← expression fuel
      expect ")"
      let yes ← statement fuel
      if ← acceptWord "else" then return .branch test yes (some (← statement fuel))
      else return .branch test yes none
    else if ← acceptWord "for" then
      expect "("
      let start ← loopStart fuel
      expect ";"
      let test ← unless? ";" fuel
      expect ";"
      let update ← unless? ")" fuel
      expect ")"
      return .loop start test update (← statement fuel)
    else if ← acceptWord "return" then
      if (← isNext ";") || (← isNext "\x7d") || (← atLineBreak) then
        endStatement
        return .give none
      else
        let value ← expression fuel
        endStatement
        return .give (some value)
    else if ← acceptWord "throw" then
      let value ← expression fuel
      endStatement
      return .raise value
    else
      let value ← expression fuel
      endStatement
      return .run value

def loopStart : (fuel : Nat) → Grammar Statement
  | 0 => refuse
  | fuel + 1 => do
    if ← isNext ";" then return .nothing
    else if ← acceptWord "var" then return .declare (← bindings fuel)
    else return .run (← expression fuel)

def body : (fuel : Nat) → Grammar (List Statement)
  | 0 => refuse
  | fuel + 1 => do
    if ← accept "\x7d" then return []
    else
      let first ← statement fuel
      return first :: (← body fuel)

end

/-- The statements of a script, which stands between braces and these between parentheses. -/
def script (fuel : Nat) : Grammar (List Statement) := do
  let statements ← body fuel
  expect ")"
  unless (← get).isEmpty do refuse
  return statements

end Grammar

/-- The words that close the place where a script stands. -/
def closing : List Lexeme := [⟨.sign "\x7d", true⟩, ⟨.sign ")", false⟩]

def read (code : String) : Except String (List Statement) :=
  match lexemes true code.toList (code.length + 1) with
  | none => .error "Invalid or unexpected token"
  | some words =>
    match (Grammar.script (8 * words.length + 32)).run (words ++ closing) with
    | .ok (statements, _) => .ok statements
    | .error message => .error message

end MailTriage.Script

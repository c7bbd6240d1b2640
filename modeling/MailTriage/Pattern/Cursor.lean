import MailTriage.Pattern.Fault
import MailTriage.Pattern.Node

/-!
# Reading position in a pattern

The reader of patterns holds one token ahead: a character, or a backslash with the character after
it. A backslash at the very end is refused as soon as it comes into view.
-/

namespace MailTriage.Pattern

/-- A character, or a backslash and a character. -/
abbrev Token := List Char

/-- What the reader of a pattern knows. -/
structure Progress where
  text : Array Char
  /-- The index just after the token ahead. -/
  index : Nat := 0
  ahead : Option Token := none
  flags : Flags := {}
  /-- The groups with a name. -/
  names : List (String × Nat) := []
  /-- The widths of the groups; none while a group is open. Group zero is the whole match. -/
  widths : Array (Option (Nat × Nat)) := #[none]
  /-- The number of groups when the outermost lookbehind being read began. -/
  lookbehind : Option Nat := none
  /-- The group numbers that conditions ask about, with their positions. -/
  conditions : List (Nat × Nat) := []

abbrev Reader := StateT Progress (Except Refusal)

namespace Reader

def refuseAt {α : Type} (cause : Cause) (position : Nat) : Reader α :=
  throw (.malformed ⟨cause, some position⟩)

def position : Reader Nat := do
  let s ← get
  return s.index - (s.ahead.map List.length).getD 0

/-- Refuses the pattern at a distance before the token ahead. -/
def refuse {α : Type} (cause : Cause) (back : Nat) : Reader α := do
  refuseAt cause ((← position) - back)

/-- Brings the next token into view. -/
def advance : Reader Unit := do
  let s ← get
  match s.text[s.index]? with
  | none => set { s with ahead := none }
  | some '\\' =>
    match s.text[s.index + 1]? with
    | none => refuseAt .danglingBackslash (s.text.size - 1)
    | some c => set { s with ahead := some ['\\', c], index := s.index + 2 }
  | some c => set { s with ahead := some [c], index := s.index + 1 }

def peek : Reader (Option Token) := do
  return (← get).ahead

def take : Reader (Option Token) := do
  let token ← peek
  advance
  return token

/-- Takes the token ahead if it is the given character. -/
def accept (c : Char) : Reader Bool := do
  if (← peek) = some [c] then
    advance
    return true
  else
    return false

/-- Goes back to an earlier position. -/
def seek (index : Nat) : Reader Unit := do
  modify fun s => { s with index := index }
  advance

/-- Takes at most `count` characters that satisfy `p`. -/
def takeWhile (p : Char → Bool) : (count : Nat) → Reader (List Char)
  | 0 => return []
  | count + 1 => do
    match ← peek with
    | some [c] =>
      if p c then
        advance
        return c :: (← takeWhile p count)
      else
        return []
    | _ => return []

/-- Takes tokens up to a terminator, which is dropped; `what` names them in messages. -/
def takeUntil (terminator : Char) (what : String) (taken : List Char) : (fuel : Nat) → Reader String
  | 0 => refuse .tooDeep 0
  | fuel + 1 => do
    match ← take with
    | none =>
      if taken.isEmpty then refuse (.missingName what) 0
      else refuse (.unterminatedName terminator) taken.length
    | some token =>
      if token = [terminator] then
        if taken.isEmpty then refuse (.missingName what) 1
        else return String.ofList taken
      else takeUntil terminator what (taken ++ token) fuel

def nameUntil (terminator : Char) (what : String) : Reader String := do
  takeUntil terminator what [] ((← get).text.size + 1)

/-- The number of groups so far, the whole match included. -/
def groupCount : Reader Nat := do
  return (← get).widths.size

def isClosed (group : Nat) : Reader Bool := do
  return (((← get).widths[group]?).getD none).isSome

/-- Refuses a reference that a lookbehind cannot make. -/
def checkLookbehind (group : Nat) : Reader Unit := do
  match (← get).lookbehind with
  | none => return ()
  | some outside =>
    if !(← isClosed group) then refuse .openGroup 0
    if outside ≤ group then refuse .lookbehindGroup 0

def openGroup (name : Option String) : Reader Nat := do
  let s ← get
  let index := s.widths.size
  set { s with widths := s.widths.push none }
  match name with
  | none => return index
  | some name =>
    match s.names.find? fun entry => entry.1 == name with
    | some entry => refuse (.redefinedGroup name index entry.2) (name.length + 1)
    | none =>
      modify fun s => { s with names := s.names ++ [(name, index)] }
      return index

def groupWidths (s : Progress) (group : Nat) : Nat × Nat :=
  ((s.widths[group]?).getD none).getD (0, 0)

def closeGroup (index : Nat) (body : Node) : Reader Unit :=
  modify fun s =>
    { s with widths := s.widths.setIfInBounds index (some (body.width (groupWidths s))) }

end Reader

end MailTriage.Pattern

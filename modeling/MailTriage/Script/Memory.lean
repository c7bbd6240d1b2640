import MailTriage.Number.Reading
import MailTriage.Number.Shortest
import MailTriage.Text.Part
import MailTriage.Text.Quoted
import MailTriage.Value

/-!
# The memory of a script

The values that a script works with. Arrays, objects and errors live in a heap and are told apart by
their place there, so that two names can stand for one object; everything else is its own value. A
thing in the heap may be frozen, and then it stays as it is.
-/

namespace MailTriage.Script

/-- What the script can call. -/
inductive Service
  | log (level : String)
  | openPage
  | extract
  | failure (name : String)
  deriving DecidableEq

/-- A value of a script. -/
inductive Datum
  | undefined
  | null
  | bool (b : Bool)
  | number (x : Binary64)
  | text (s : String)
  | service (s : Service)
  | thing (place : Nat)
  deriving DecidableEq, Inhabited

/-- What a thing in the heap is. -/
inductive Nature
  | plain
  | array (length : Nat)
  | failure (name message : String)
  deriving DecidableEq

/-- A thing in the heap. -/
structure Thing where
  nature : Nature
  fields : List (String × Datum) := []
  frozen : Bool := false

/-- The state of a running script. -/
structure Machine where
  heap : Array Thing := #[]
  locals : List (String × Datum) := []
  globals : List (String × Datum) := []
  logs : List (String × String) := []
  opened : List String := []

/-- A step of a script: it goes on from a state, or ends with the text of what was thrown. -/
abbrev Run := StateT Machine (Except String)

namespace Datum

def ofNat (n : Nat) : Datum := number (Binary64.ofInt n)

end Datum

def fail {α : Type} (name message : String) : Run α :=
  throw (name ++ ": " ++ message)

def failureText (name message : String) : String :=
  if message.isEmpty then name else name ++ ": " ++ message

/-- Sets the value of a name in a list, in its place or at the end. -/
def put (key : String) (value : Datum) : List (String × Datum) → List (String × Datum)
  | [] => [(key, value)]
  | (k, v) :: rest => if k = key then (k, value) :: rest else (k, v) :: put key value rest

def allocate (thing : Thing) : Run Datum := do
  let place := (← get).heap.size
  modify fun m => { m with heap := m.heap.push thing }
  return .thing place

def thingAt (place : Nat) : Run Thing := do
  return ((← get).heap[place]?).getD ⟨.plain, [], true⟩

def natText (n : Nat) : String := String.ofList (Nat.toDigits 10 n)

def indexOf? (key : String) : Option Nat :=
  let digits := key.toList
  if !digits.isEmpty && digits.all Char.isDigit && digits.length < 16 then
    let n := Number.ofDigits digits
    if natText n = key then some n else none
  else none

/-- Fields in the order in which they are listed: indexes first, in increasing order. -/
def listed (fields : List (String × Datum)) : List (String × Datum) :=
  let indexed := fields.filterMap fun (key, value) => (indexOf? key).map fun n => (n, key, value)
  (indexed.mergeSort fun a b => a.1 ≤ b.1).map Prod.snd
    ++ fields.filter fun entry => (indexOf? entry.1).isNone

mutual

def load : Value → Run Datum
  | .null => pure .null
  | .bool b => pure (.bool b)
  | .int n => pure (.number (Binary64.ofInt n))
  | .float x => pure (.number x)
  | .text s => pure (.text s)
  | .list items => do allocate ⟨.array items.length, ← loadItems 0 items, false⟩
  | .object fields => do allocate ⟨.plain, ← loadFields fields, false⟩

/-- Puts the items of a list into the heap, each under its index. -/
def loadItems (index : Nat) : List Value → Run (List (String × Datum))
  | [] => pure []
  | item :: rest => do
    let first ← load item
    return (natText index, first) :: (← loadItems (index + 1) rest)

/-- Puts the members of an object into the heap. -/
def loadFields : List (String × Value) → Run (List (String × Datum))
  | [] => pure []
  | (key, value) :: rest => do
    let first ← load value
    return (key, first) :: (← loadFields rest)

end

def units (s : String) : List Nat :=
  s.toList.flatMap fun c =>
    let n := c.toNat
    if n < 0x10000 then [n] else [0xd800 + (n - 0x10000) / 0x400, 0xdc00 + (n - 0x10000) % 0x400]

/-- Whether a list of units comes before another in the dictionary. -/
def unitsBefore : List Nat → List Nat → Bool
  | _, [] => false
  | [], _ :: _ => true
  | a :: as, b :: bs => a < b || (a == b && unitsBefore as bs)

/-- Whether a value counts as true. -/
def Datum.truth : Datum → Bool
  | undefined => false
  | null => false
  | bool b => b
  | number x => !(x.isNaN || x.eq Binary64.zero)
  | text s => !s.isEmpty
  | service _ => true
  | thing _ => true

def Datum.plainText : Datum → String
  | undefined => "undefined"
  | null => "null"
  | bool true => "true"
  | bool false => "false"
  | number x => x.text .script
  | text s => s
  | service _ => "function () \x7b [native code] \x7d"
  | thing _ => "[object Object]"

/-- The text of a value. Inside an array that it is part of itself, an array has none. -/
def textOf (heap : Array Thing) (around : List Nat) : (fuel : Nat) → Datum → String
  | fuel + 1, .thing place =>
    match heap[place]? with
    | some ⟨.array length, fields, _⟩ =>
      if around.contains place then ""
      else
        ",".intercalate ((List.range length).map fun index =>
          match fields.lookup (natText index) with
          | none | some .undefined | some .null => ""
          | some value => textOf heap (place :: around) fuel value)
    | some ⟨.failure name message, _, _⟩ => failureText name message
    | _ => "[object Object]"
  | _, value => value.plainText

def asText (value : Datum) : Run String := do
  let heap := (← get).heap
  return textOf heap [] (heap.size + 1) value

/-- The number that a text spells, blanks around it left out. -/
def numberOfText (s : String) : Binary64 :=
  let cs := (Text.strip s).toList
  match cs with
  | [] => Binary64.zero
  | _ =>
    let (negative, digits) := Number.signed cs
    if digits = "Infinity".toList then Binary64.infinity negative
    else if digits.all fun c => c.isDigit || c = '.' || c = 'e' || c = 'E' || c =
      '+' || c = '-' then
      (Number.decimal? negative digits).getD .nan
    else .nan

def asNumber : Datum → Run Binary64
  | .undefined => pure .nan
  | .null => pure Binary64.zero
  | .bool true => pure (Binary64.ofInt 1)
  | .bool false => pure Binary64.zero
  | .number x => pure x
  | .text s => pure (numberOfText s)
  | .service _ => pure .nan
  | .thing place => do return numberOfText (← asText (.thing place))

def primitive : Datum → Run Datum
  | .thing place => do return .text (← asText (.thing place))
  | value => pure value

/-- One character inside a quoted text of a document. -/
def quotedChar (c : Char) : List Char :=
  if c = '"' then ['\\', '"']
  else if c = '\\' then ['\\', '\\']
  else if c = '\n' then ['\\', 'n']
  else if c = '\r' then ['\\', 'r']
  else if c = '\t' then ['\\', 't']
  else if c.toNat = 8 then ['\\', 'b']
  else if c.toNat = 12 then ['\\', 'f']
  else if c.toNat < 32 then '\\' :: 'u' :: Text.hexDigits 4 c.toNat
  else [c]

def quotedText (s : String) : String :=
  String.ofList ('"' :: (s.toList.flatMap quotedChar ++ ['"']))

def numberText (x : Binary64) : String :=
  if x.isFinite then x.text .script else "null"

/-- An object written from its members, those without a text left out. -/
def objectText (members : List (String × Option String)) : String :=
  "\x7b" ++ ",".intercalate (members.filterMap fun (key, value) =>
    value.map fun text => quotedText key ++ ":" ++ text) ++ "\x7d"

def circular : String := "TypeError: Converting circular structure to JSON"

/-- The document of a value: none for what has no place in documents, an error for what holds
itself. -/
def documentOf (heap : Array Thing) (around : List Nat) :
    (fuel : Nat) → Datum → Except String (Option String)
  | 0, _ => .error circular
  | fuel + 1, value =>
    match value with
    | .undefined => .ok none
    | .service _ => .ok none
    | .null => .ok (some "null")
    | .bool b => .ok (some (if b then "true" else "false"))
    | .number x => .ok (some (numberText x))
    | .text s => .ok (some (quotedText s))
    | .thing place =>
      if around.contains place then .error circular
      else
        match heap[place]? with
        | some ⟨.array length, fields, _⟩ => do
          let items ← (List.range length).mapM fun index =>
            documentOf heap (place :: around) fuel ((fields.lookup (natText index)).getD .undefined)
          return some ("[" ++ ",".intercalate (items.map fun item => item.getD "null") ++ "]")
        | some ⟨_, fields, _⟩ => do
          let members ← (listed fields).mapM fun (key, value) => do
            return (key, ← documentOf heap (place :: around) fuel value)
          return some (objectText members)
        | none => .ok (some (objectText []))

def document (value : Datum) : Run (Option String) := do
  let heap := (← get).heap
  documentOf heap [] (heap.size + 1) value

end MailTriage.Script

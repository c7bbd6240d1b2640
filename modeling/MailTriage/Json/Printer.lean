import MailTriage.Number.Reading
import MailTriage.Number.Shortest
import MailTriage.Text.Quoted
import MailTriage.Value

/-!
# JSON documents

Writing a value as a JSON document, on one line or indented. Everything beyond ASCII is escaped, in
UTF-16 units, and a floating number always shows a point or an exponent, so that reading the
document gives the value back. A whole number that is too long to be read is not written either.
-/

namespace MailTriage.Json

open MailTriage.Text

def unitEscape (unit : Nat) : List Char :=
  '\\' :: 'u' :: hexDigits 4 unit

/-- The UTF-16 units of a character beyond the basic plane, high unit first. -/
def surrogates (n : Nat) : Nat × Nat :=
  (0xd800 + (n - 0x10000) / 0x400, 0xdc00 + (n - 0x10000) % 0x400)

def encodeChar (c : Char) : List Char :=
  if c = '"' then ['\\', '"']
  else if c = '\\' then ['\\', '\\']
  else if c = '\n' then ['\\', 'n']
  else if c = '\r' then ['\\', 'r']
  else if c = '\t' then ['\\', 't']
  else if c.toNat = 8 then ['\\', 'b']
  else if c.toNat = 12 then ['\\', 'f']
  else if 32 ≤ c.toNat ∧ c.toNat < 127 then [c]
  else if c.toNat < 0x10000 then unitEscape c.toNat
  else unitEscape (surrogates c.toNat).1 ++ unitEscape (surrogates c.toNat).2

def encodeText (s : String) : List Char :=
  '"' :: (s.toList.flatMap encodeChar ++ ['"'])

def encodeInt (n : Int) : List Char :=
  if n < 0 then '-' :: Nat.toDigits 10 n.natAbs else Nat.toDigits 10 n.natAbs

def encodeScalar : Value → List Char
  | .null => "null".toList
  | .bool true => "true".toList
  | .bool false => "false".toList
  | .int n => encodeInt n
  | .float x => (x.text .document).toList
  | .text s => encodeText s
  | .list _ => ['[', ']']
  | .object _ => ['\x7b', '\x7d']

mutual

/-- A value on one line, with a blank after each comma and colon. -/
def encodeLine : Value → List Char
  | .list items => '[' :: (encodeItems items ++ [']'])
  | .object fields => '\x7b' :: (encodeMembers fields ++ ['\x7d'])
  | .null => encodeScalar .null
  | .bool b => encodeScalar (.bool b)
  | .int n => encodeScalar (.int n)
  | .float x => encodeScalar (.float x)
  | .text s => encodeScalar (.text s)

def encodeItems : List Value → List Char
  | [] => []
  | [item] => encodeLine item
  | item :: rest => encodeLine item ++ ',' :: ' ' :: encodeItems rest

def encodeMembers : List (String × Value) → List Char
  | [] => []
  | [(key, value)] => encodeText key ++ ':' :: ' ' :: encodeLine value
  | (key, value) :: rest =>
    encodeText key ++ ':' :: ' ' :: (encodeLine value ++ ',' :: ' ' :: encodeMembers rest)

end

/-- A line break and the blanks of a level, two for each. -/
def newLine (level : Nat) : List Char :=
  '\n' :: List.replicate (2 * level) ' '

mutual

/-- A value over several lines; `level` is the depth of the line it begins on. -/
def encodePage (level : Nat) : Value → List Char
  | .list [] => ['[', ']']
  | .list items => '[' :: (encodePageItems (level + 1) items ++ newLine level ++ [']'])
  | .object [] => ['\x7b', '\x7d']
  | .object fields => '\x7b' :: (encodePageMembers (level + 1) fields ++ newLine level ++ ['\x7d'])
  | .null => encodeScalar .null
  | .bool b => encodeScalar (.bool b)
  | .int n => encodeScalar (.int n)
  | .float x => encodeScalar (.float x)
  | .text s => encodeScalar (.text s)

def encodePageItems (level : Nat) : List Value → List Char
  | [] => []
  | [item] => newLine level ++ encodePage level item
  | item :: rest => newLine level ++ encodePage level item ++ ',' :: encodePageItems level rest

def encodePageMembers (level : Nat) : List (String × Value) → List Char
  | [] => []
  | [(key, value)] => newLine level ++ encodeText key ++ ':' :: ' ' :: encodePage level value
  | (key, value) :: rest =>
    newLine level ++ encodeText key ++ ':' :: ' ' ::
      (encodePage level value ++ ',' :: encodePageMembers level rest)

end

mutual

/-- Whether no whole number in a value is too long to be written. -/
def isWritable : Value → Bool
  | .int n => Number.isReadable n
  | .list items => allWritable items
  | .object fields => membersWritable fields
  | .null => true
  | .bool _ => true
  | .float _ => true
  | .text _ => true

def allWritable : List Value → Bool
  | [] => true
  | item :: rest => isWritable item && allWritable rest

/-- Whether the values of all members can be written. -/
def membersWritable : List (String × Value) → Bool
  | [] => true
  | (_, value) :: rest => isWritable value && membersWritable rest

end

/-- The wording for a whole number that is too long to be written. -/
def overlongMessage : String :=
  "Exceeds the limit (" ++ String.ofList (Nat.toDigits 10 Number.digitLimit) ++
    " digits) for integer string conversion; use sys.set_int_max_str_digits() to increase the limit"

/-- Why a value is not written. -/
inductive WriteFault
  | numberTooLong
  deriving DecidableEq

def line (v : Value) : String :=
  String.ofList (encodeLine v)

/-- The document of a value, indented by two blanks a level. -/
def page (v : Value) : String :=
  String.ofList (encodePage 0 v)

end MailTriage.Json

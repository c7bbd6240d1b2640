import MailTriage.Number.Reading
import MailTriage.Value

/-!
# Reading JSON documents

The reader accepts the JSON grammar and the three non-finite numbers. A document that it refuses is
refused with the kind of fault and the place where reading stopped. A run of digits past the limit
of integer texts is a failure of its own.
-/

namespace MailTriage.Json

open MailTriage.Number

/-- What is wrong with a document. -/
inductive Fault
  | byteOrderMark
  | extraData
  | expectingValue
  | expectingName
  | expectingColon
  | expectingComma
  | unterminatedString
  | controlCharacter
  | badEscape
  | badUnitEscape
  deriving DecidableEq

/-- Why reading failed. The place of a fault is given by the number of characters left there. -/
inductive Failure
  | malformed (fault : Fault) (left : Nat)
  | tooManyDigits (count : Nat)
  deriving DecidableEq

abbrev Reading (α : Type) := Except Failure (α × List Char)

def Fault.message : Fault → String
  | byteOrderMark => "Unexpected UTF-8 BOM (decode using utf-8-sig)"
  | extraData => "Extra data"
  | expectingValue => "Expecting value"
  | expectingName => "Expecting property name enclosed in double quotes"
  | expectingColon => "Expecting ':' delimiter"
  | expectingComma => "Expecting ',' delimiter"
  | unterminatedString => "Unterminated string starting at"
  | controlCharacter => "Invalid control character at"
  | badEscape => "Invalid \\escape"
  | badUnitEscape => "Invalid \\uXXXX escape"

def isSpace (c : Char) : Bool :=
  c = ' ' || c = '\t' || c = '\n' || c = '\r'

def skipSpace (cs : List Char) : List Char :=
  cs.dropWhile isSpace

def unit? (a b c d : Char) : Option Nat :=
  if [a, b, c, d].all Text.isAsciiHexDigit then some (Text.hexNumber [a, b, c, d]) else none

def shortEscape? (c : Char) : Option Char :=
  if c = '"' ∨ c = '\\' ∨ c = '/' then some c
  else if c = 'b' then some (Char.ofNat 8)
  else if c = 'f' then some (Char.ofNat 12)
  else if c = 'n' then some '\n'
  else if c = 'r' then some '\r'
  else if c = 't' then some '\t'
  else none

def isHighUnit (n : Nat) : Bool := 0xd800 ≤ n && n < 0xdc00

def isLowUnit (n : Nat) : Bool := 0xdc00 ≤ n && n < 0xe000

/-- The character of a unit on its own; half a pair has none, and shows as the replacement
character. -/
def unitChar (n : Nat) : Char :=
  if 0xd800 ≤ n ∧ n < 0xe000 then Char.ofNat 0xfffd else Char.ofNat n

def pairChar (high low : Nat) : Char :=
  Char.ofNat (0x10000 + (high - 0xd800) * 0x400 + (low - 0xdc00))

/-- Reads a string after its opening quote; `opened` is the number of characters left at that quote.
A unit escape is only read with something after it. -/
def readText (opened : Nat) : List Char → Reading (List Char)
  | [] => .error (.malformed .unterminatedString opened)
  | '"' :: rest => .ok ([], rest)
  | ['\\'] => .error (.malformed .unterminatedString opened)
  | '\\' :: 'u' :: a :: b :: c :: d :: '\\' :: 'u' :: a' :: b' :: c' :: d' :: next :: rest =>
    match unit? a b c d with
    | none => .error (.malformed .badUnitEscape (rest.length + 12))
    | some high =>
      if isHighUnit high then
        match unit? a' b' c' d' with
        | none => .error (.malformed .badUnitEscape (rest.length + 6))
        | some low =>
          if isLowUnit low then
            match readText opened (next :: rest) with
            | .ok (text, rest) => .ok (pairChar high low :: text, rest)
            | .error e => .error e
          else
            match readText opened ('\\' :: 'u' :: a' :: b' :: c' :: d' :: next :: rest) with
            | .ok (text, rest) => .ok (unitChar high :: text, rest)
            | .error e => .error e
      else
        match readText opened ('\\' :: 'u' :: a' :: b' :: c' :: d' :: next :: rest) with
        | .ok (text, rest) => .ok (unitChar high :: text, rest)
        | .error e => .error e
  | '\\' :: 'u' :: a :: b :: c :: d :: next :: rest =>
    match unit? a b c d with
    | none => .error (.malformed .badUnitEscape (rest.length + 6))
    | some n =>
      match readText opened (next :: rest) with
      | .ok (text, rest) => .ok (unitChar n :: text, rest)
      | .error e => .error e
  | '\\' :: 'u' :: rest => .error (.malformed .badUnitEscape (rest.length + 1))
  | '\\' :: c :: rest =>
    match shortEscape? c with
    | none => .error (.malformed .badEscape (rest.length + 2))
    | some escaped =>
      match readText opened rest with
      | .ok (text, rest) => .ok (escaped :: text, rest)
      | .error e => .error e
  | c :: rest =>
    if c.toNat < 32 then .error (.malformed .controlCharacter (rest.length + 1))
    else
      match readText opened rest with
      | .ok (text, rest) => .ok (c :: text, rest)
      | .error e => .error e

/-- The digits of a whole number: a single zero, or a run that begins with none. -/
def wholeDigits? : List Char → Option (List Char × List Char)
  | '0' :: rest => some (['0'], rest)
  | c :: rest =>
    if c.isDigit then some (c :: rest.takeWhile Char.isDigit, rest.dropWhile Char.isDigit) else none
  | [] => none

def fractionDigits : List Char → List Char × List Char
  | '.' :: c :: rest =>
    if c.isDigit then (c :: rest.takeWhile Char.isDigit, rest.dropWhile Char.isDigit)
    else ([], '.' :: c :: rest)
  | cs => ([], cs)

def exponentPart : List Char → Option Int × List Char
  | [] => (none, [])
  | mark :: rest =>
    if mark = 'e' ∨ mark = 'E' then
      let (negative, digits) := signed rest
      let run := digits.takeWhile Char.isDigit
      if run = [] then (none, mark :: rest)
      else (some (withSign negative (ofDigits run)), digits.dropWhile Char.isDigit)
    else (none, mark :: rest)

/-- Reads a number after its sign: an integer when it has neither fraction nor exponent. -/
def readNumber (negative : Bool) (start : Nat) (cs : List Char) : Reading Value :=
  match wholeDigits? cs with
  | none => .error (.malformed .expectingValue start)
  | some (whole, rest) =>
    let (fraction, rest) := fractionDigits rest
    let (exponent, rest) := exponentPart rest
    if fraction = [] ∧ exponent = none then
      if digitLimit < whole.length then .error (.tooManyDigits whole.length)
      else .ok (.int (withSign negative (ofDigits whole)), rest)
    else
      let scale := exponent.getD 0 - (fraction.length : Int)
      .ok (.float (Binary64.ofDecimal negative (ofDigits (whole ++ fraction)) scale), rest)

def dropWord? (word : List Char) (cs : List Char) : Option (List Char) :=
  if word.isPrefixOf cs then some (cs.drop word.length) else none

/-- Reads a value that has no parts, other than a string. -/
def readScalar (cs : List Char) : Reading Value :=
  let start := cs.length
  match cs with
  | '-' :: rest =>
    match dropWord? "Infinity".toList rest with
    | some rest => .ok (.float (Binary64.infinity true), rest)
    | none => readNumber true start rest
  | _ =>
    match dropWord? "null".toList cs, dropWord? "true".toList cs, dropWord? "false".toList cs with
    | some rest, _, _ => .ok (.null, rest)
    | _, some rest, _ => .ok (.bool true, rest)
    | _, _, some rest => .ok (.bool false, rest)
    | none, none, none =>
      match dropWord? "NaN".toList cs, dropWord? "Infinity".toList cs with
      | some rest, _ => .ok (.float .nan, rest)
      | _, some rest => .ok (.float (Binary64.infinity false), rest)
      | none, none => readNumber false start cs

mutual

/-- Reads one value. The fuel bounds the number of values and members still to be read. -/
def readValue : (fuel : Nat) → List Char → Reading Value
  | 0, cs => .error (.malformed .expectingValue cs.length)
  | fuel + 1, cs =>
    match cs with
    | '"' :: rest =>
      match readText cs.length rest with
      | .ok (text, rest) => .ok (.text (String.ofList text), rest)
      | .error e => .error e
    | '[' :: rest =>
      match skipSpace rest with
      | ']' :: rest => .ok (.list [], rest)
      | rest =>
        match readItems fuel rest with
        | .ok (items, rest) => .ok (.list items, rest)
        | .error e => .error e
    | '\x7b' :: rest =>
      match skipSpace rest with
      | '\x7d' :: rest => .ok (.object [], rest)
      | rest =>
        match readMembers fuel rest with
        | .ok (members, rest) => .ok (.object (Fields.ofEntries members), rest)
        | .error e => .error e
    | _ => readScalar cs

/-- Reads the items of a list up to its closing bracket. -/
def readItems : (fuel : Nat) → List Char → Reading (List Value)
  | 0, cs => .error (.malformed .expectingValue cs.length)
  | fuel + 1, cs =>
    match readValue fuel cs with
    | .error e => .error e
    | .ok (item, rest) =>
      match skipSpace rest with
      | ']' :: rest => .ok ([item], rest)
      | ',' :: rest =>
        match readItems fuel (skipSpace rest) with
        | .ok (items, rest) => .ok (item :: items, rest)
        | .error e => .error e
      | rest => .error (.malformed .expectingComma rest.length)

/-- Reads the members of an object up to its closing brace. -/
def readMembers : (fuel : Nat) → List Char → Reading (List (String × Value))
  | 0, cs => .error (.malformed .expectingValue cs.length)
  | fuel + 1, cs =>
    match cs with
    | '"' :: rest =>
      match readText cs.length rest with
      | .error e => .error e
      | .ok (key, rest) =>
        match skipSpace rest with
        | ':' :: rest =>
          match readValue fuel (skipSpace rest) with
          | .error e => .error e
          | .ok (value, rest) =>
            match skipSpace rest with
            | '\x7d' :: rest => .ok ([(String.ofList key, value)], rest)
            | ',' :: rest =>
              match readMembers fuel (skipSpace rest) with
              | .ok (members, rest) => .ok ((String.ofList key, value) :: members, rest)
              | .error e => .error e
            | rest => .error (.malformed .expectingComma rest.length)
        | rest => .error (.malformed .expectingColon rest.length)
    | _ => .error (.malformed .expectingName cs.length)

end

def readDocument (cs : List Char) : Except Failure Value :=
  match cs with
  | '\ufeff' :: _ => .error (.malformed .byteOrderMark cs.length)
  | _ =>
    match readValue (2 * cs.length + 2) (skipSpace cs) with
    | .error e => .error e
    | .ok (value, rest) =>
      match skipSpace rest with
      | [] => .ok value
      | left => .error (.malformed .extraData left.length)

def parse (text : String) : Except Failure Value :=
  readDocument text.toList

/-- A fault with its line, column and offset in the document. -/
def Failure.message (text : String) : Failure → String
  | tooManyDigits count =>
    s!"Exceeds the limit ({digitLimit} digits) for integer string conversion: value has {count} " ++
      "digits; use sys.set_int_max_str_digits() to increase the limit"
  | malformed fault left =>
    let cs := text.toList
    let position := cs.length - left
    let before := cs.take position
    let line := before.count '\n' + 1
    let column := (before.reverse.takeWhile (· ≠ '\n')).length + 1
    s!"{fault.message}: line {line} column {column} (char {position})"

end MailTriage.Json

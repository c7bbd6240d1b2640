import MailTriage.Form.Gather
import MailTriage.Number.Reading

/-!
# Texts, booleans and numbers in forms

A form may come from an editor that sends every input as a text. A boolean is also read from zero
and one and from a few words, a number also from a boolean or a text, an integer also from a
floating number without a fraction. A text is read from a text alone.
-/

namespace MailTriage.Form

open Number

def text : Reader String
  | .text s => pure s
  | _ => .refuse .notText

def someText : Reader String := fun value =>
  (text value).andThen fun s => if s.isEmpty then .error (.tooShort 1) else .ok s

/-- Words for true, without regard to the case of ASCII letters. -/
def trueWords : List String := ["1", "on", "t", "true", "y", "yes"]

def falseWords : List String := ["0", "off", "f", "false", "n", "no"]

def booleanOfInt (n : Int) : Except Fault Bool :=
  if n = 0 then .ok false
  else if n = 1 then .ok true
  else if fitsWord n then .error .unclearBoolean
  else .error .notBoolean

/-- The integer that a floating number is, within 64 bits; the least one is left out. -/
def integerOfFloat (x : Binary64) : Except Fault Int :=
  match x.truncate? with
  | none => .error .notFinite
  | some n =>
    if !x.isInteger then .error .fractional
    else if fitsWord n && n ≠ -wordBound then .ok n
    else .error .oversizedInteger

def boolean : Reader Bool
  | .bool b => pure b
  | .int n => .ofExcept (booleanOfInt n)
  | .float x =>
    match integerOfFloat x with
    | .ok n => .ofExcept (booleanOfInt n)
    | .error _ => .refuse .notBoolean
  | .text s =>
    let word := String.ofList (s.toList.map Char.toLower)
    if trueWords.contains word then pure true
    else if falseWords.contains word then pure false
    else .refuse .unclearBoolean
  | _ => .refuse .notBoolean

def integer : Reader Int
  | .bool b => pure (if b then 1 else 0)
  | .int n => pure n
  | .float x => .ofExcept (integerOfFloat x)
  | .text s =>
    match formInteger s.toList with
    | .ok n => pure n
    | .error .unreadable => .refuse .unreadableInteger
    | .error .oversized => .refuse .oversizedInteger
  | _ => .refuse .notInteger

def natural : Reader Nat := fun value =>
  (integer value).andThen fun n => if n < 0 then .error (.belowMinimum 0) else .ok n.toNat

def positive : Reader Nat := fun value =>
  (integer value).andThen fun n => if n ≤ 0 then .error (.notAbove 0) else .ok n.toNat

def number : Reader Binary64
  | .bool b => pure (Binary64.ofInt (if b then 1 else 0))
  | .int n =>
    match Binary64.ofInt? n with
    | some x => pure x
    | none => .refuse .notNumber
  | .float x => pure x
  | .text s =>
    match formNumber? s.toList with
    | some x => pure x
    | none => .refuse .unreadableNumber
  | _ => .refuse .notNumber

def finiteNumber : Reader Binary64 := fun value =>
  (number value).andThen fun x => if x.isFinite then .ok x else .error .notFinite

def lookUp? {α : Type} (options : List (String × α)) : Value → Option α
  | .text s => options.lookup s
  | _ => none

def among {α : Type} (options : List (String × α)) : Reader α := fun value =>
  match lookUp? options value with
  | some a => pure a
  | none => .refuse (.notAmong (options.map Prod.fst))

def constant {α : Type} (options : List (String × α)) : Reader α := fun value =>
  match lookUp? options value with
  | some a => pure a
  | none => .refuse (.notConstant (options.map Prod.fst))

end MailTriage.Form

import MailTriage.Catalog.Kind
import MailTriage.Pattern.Matcher
import MailTriage.Pattern.Reader
import MailTriage.Template
import MailTriage.Text.Part

/-!
# Comparisons

An operator compares the value of a field with the value of a condition. Booleans are compared as
booleans, numbers as numbers where both sides have one, and everything else as text, as templates
show it. Three things can keep a comparison from being made: an integer past the range of floating
numbers, an integer with more digits than are written, and a pattern whose numbers are out of
bounds. A pattern that is merely malformed matches nothing.
-/

namespace MailTriage

open Text

/-- Why a comparison cannot be made. -/
inductive ComparisonFailure
  | numberTooLarge
  | numberTooLong
  | unusablePattern (refusal : Pattern.Refusal)
  deriving DecidableEq

def ComparisonFailure.message (pattern : String) : ComparisonFailure → String
  | numberTooLarge => "int too large to convert to float"
  | numberTooLong => Json.overlongMessage
  | unusablePattern refusal => refusal.message pattern

namespace Value

def isAbsent : Value → Bool
  | null => true
  | text s => s.isEmpty
  | _ => false

def isNull : Value → Bool
  | null => true
  | _ => false

def isBool : Value → Bool
  | bool _ => true
  | _ => false

def isNumber : Value → Bool
  | int _ => true
  | float _ => true
  | _ => false

def ordered? (x : Binary64) : Option Binary64 :=
  if x.isNaN then none else some x

def asNumber : Value → Except ComparisonFailure (Option Binary64)
  | int n =>
    match Binary64.ofInt? n with
    | some x => .ok (some x)
    | none => .error .numberTooLarge
  | float x => .ok (ordered? x)
  | text s => .ok ((Number.freeNumber? s.toList).bind ordered?)
  | _ => .ok none

def trueWords : List String := ["true", "yes", "1"]

/-- Words that count as false; the empty text does. -/
def falseWords : List String := ["false", "no", "0", ""]

def asBool : Value → Option Bool
  | bool b => some b
  | int n => some (n ≠ 0)
  | float x => some (!x.eq Binary64.zero)
  | text s =>
    let word := lower (strip s)
    if trueWords.contains word then some true
    else if falseWords.contains word then some false
    else none
  | _ => none

def comparable (caseSensitive : Bool) (v : Value) : String :=
  if caseSensitive then v.spelled else foldCase v.spelled

/-- Makes a test of the texts of two values, if both can be written. -/
def testTexts (test : String → String → Bool) (caseSensitive : Bool) (a b : Value) :
    Except ComparisonFailure Bool :=
  if Json.isWritable a && Json.isWritable b then
    .ok (test (a.comparable caseSensitive) (b.comparable caseSensitive))
  else .error .numberTooLong

def sameText (caseSensitive : Bool) (a b : Value) : Except ComparisonFailure Bool :=
  testTexts (fun x y => x = y) caseSensitive a b

def same (caseSensitive : Bool) (a b : Value) : Except ComparisonFailure Bool :=
  if a.isBool || b.isBool then
    match a.asBool with
    | some x => .ok (b.asBool = some x)
    | none => .ok false
  else if a.isNumber || b.isNumber then do
    let x ← a.asNumber
    let y ← b.asNumber
    match x, y with
    | some x, some y => .ok (x.eq y)
    | _, _ => sameText caseSensitive a b
  else sameText caseSensitive a b

def isBelow (a b : Value) : Except ComparisonFailure Bool := do
  let x ← a.asNumber
  let y ← b.asNumber
  match x, y with
  | some x, some y => .ok (x.lt y)
  | _, _ => .ok false

def isAbove (a b : Value) : Except ComparisonFailure Bool := do
  let x ← a.asNumber
  let y ← b.asNumber
  match x, y with
  | some x, some y => .ok (y.lt x)
  | _, _ => .ok false

/-- Looks for a pattern in the text of a value, the pattern being the text of another. -/
def matchesPattern (caseSensitive : Bool) (value pattern : Value) : Except ComparisonFailure Bool :=
  if Json.isWritable value && Json.isWritable pattern then
    match Pattern.read pattern.spelled (!caseSensitive) with
    | .ok compiled => .ok (compiled.occursIn value.spelled)
    | .error (.malformed _) => .ok false
    | .error refusal => .error (.unusablePattern refusal)
  else .error .numberTooLong

end Value

namespace Operator

/-- Compares two values, neither of them null. -/
def compare (operator : Operator) (caseSensitive : Bool) (actual expected : Value) :
    Except ComparisonFailure Bool :=
  match operator with
  | present => .ok (!actual.isAbsent)
  | absent => .ok actual.isAbsent
  | greaterThan => actual.isAbove expected
  | lessThan => actual.isBelow expected
  | equals => actual.same caseSensitive expected
  | regexMatch => actual.matchesPattern caseSensitive expected
  | contains => Value.testTexts Text.contains caseSensitive actual expected
  | startsWith => Value.testTexts beginsWith caseSensitive actual expected
  | endsWith => Value.testTexts Text.endsWith caseSensitive actual expected

/-- Compares a field with a value. Only the tests for presence apply to null. -/
def apply (operator : Operator) (caseSensitive : Bool) (actual expected : Value) :
    Except ComparisonFailure Bool :=
  match operator with
  | present => .ok (!actual.isAbsent)
  | absent => .ok actual.isAbsent
  | other =>
    if actual.isNull || expected.isNull then .ok false
    else other.compare caseSensitive actual expected

end Operator

end MailTriage

import MailTriage.Proofs.Matching.Order

/-!
# Conditions on missing fields

A field that is missing reads as null or as the empty text, and the tests for presence take both for
absent. The other operators tell them apart: they find nothing in null, but the empty text is a text
to them. It counts as false, it is the same as the empty text and contains it, and it has whatever
patterns nothing is enough for. These are the only values that an operator other than the test for
absence finds in a missing field.
-/

namespace MailTriage

/-! ## Texts that are empty -/

namespace Text

end Text

namespace Value

end Value

/-! ## What operators find in nothing -/

/-- The values that an operator finds in the empty text. -/
def Operator.FindsInEmpty (operator : Operator) (caseSensitive : Bool) (expected : Value) : Prop :=
  match operator with
  | equals => expected = .bool false ∨ expected = .text ""
  | contains | startsWith | endsWith => expected = .text ""
  | regexMatch =>
    expected.isNull = false ∧ Json.isWritable expected = true ∧
      ∃ pattern, Pattern.read expected.spelled (!caseSensitive) = .ok pattern ∧
        pattern.occursIn "" = true
  | greaterThan | lessThan | present => False
  | absent => True

namespace Operator

variable {operator : Operator} {caseSensitive : Bool} {expected : Value}

/-- Whatever an operator other than a test for absence finds in the empty text can be written. -/
theorem FindsInEmpty.isWritable (h : operator.FindsInEmpty caseSensitive expected)
    (hoperator : operator ≠ absent) :
    Json.isWritable expected = true := by
  cases operator with
  | equals => rcases h with rfl | rfl <;> rfl
  | contains | startsWith | endsWith =>
    obtain rfl : expected = .text "" := h
    rfl
  | regexMatch => exact h.2.1
  | greaterThan | lessThan | present => exact h.elim
  | absent => exact absurd rfl hoperator

/-- The empty text is no, as far as yes and no go. -/
example : equals.Holds false (.text "") (.bool false) := by decide

end Operator

/-! ## Conditions -/

namespace Condition

variable {condition : Condition} {context : Context} {subject : Subject}

end Condition

end MailTriage

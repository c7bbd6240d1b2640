import MailTriage.Proofs.Number.Range
import MailTriage.Proofs.Validation

/-!
# What can be compared and checked

A comparison has an answer unless one of three things keeps it from being made: a whole number past
the range of the floating numbers, a whole number too long to be written, and a pattern that the
reader gives up on. A pattern that is merely malformed does not: it matches nothing in a comparison,
and a check reports it. Which of them matters depends on the operator, so each operator is given the
values that it can take, and the check of a rule the patterns that it can read. Both conditions are
exact.
-/

namespace MailTriage

/-! ## What keeps a comparison from being made -/

/-- A whole number that has a nearest floating number. Every other value has one, or none is asked
for. -/
def Value.InRange : Value → Prop
  | .int n => n.natAbs < Binary64.overflow
  | _ => True

/-- Two values whose texts can be written. -/
def Value.BothWritable (a b : Value) : Prop :=
  Json.isWritable a = true ∧ Json.isWritable b = true

namespace Value

theorem exists_asNumber_iff (value : Value) : (∃ x, value.asNumber = .ok x) ↔ value.InRange := by
  cases value with
  | int n =>
    have hrange := Binary64.ofInt?_eq_none_iff (n := n)
    rw [asNumber, InRange]
    cases hnumber : Binary64.ofInt? n with
    | none => simpa using hrange.mp hnumber
    | some x => simpa [hnumber] using hrange
  | null | bool | float | text | list | object => simp [asNumber, InRange]

theorem inRange_of_isNumber_eq_false {value : Value} (h : value.isNumber = false) :
    value.InRange := by
  cases value with
  | int n => exact nomatch h
  | null | bool | float | text | list | object => trivial

theorem isWritable_of_asNumber {value : Value} {x : Binary64} (h : value.asNumber = .ok (some x)) :
    Json.isWritable value = true := by
  cases value with
  | int n => exact Number.isReadable_of_lt_overflow ((exists_asNumber_iff (int n)).mp ⟨_, h⟩)
  | null | bool | float | text => rfl
  | list | object => exact nomatch h

/-- Both sides are read as numbers, and then compared in a way that always has an answer. -/
theorem exists_numbers_iff (a b : Value)
    {next : Option Binary64 → Option Binary64 → Except ComparisonFailure Bool}
    (hnext : ∀ x y, ∃ answer, next x y = .ok answer) :
    (∃ answer, (do next (← a.asNumber) (← b.asNumber)) = .ok answer) ↔ a.InRange ∧ b.InRange := by
  rw [exists_bind_eq_ok_iff, ← exists_asNumber_iff, ← exists_asNumber_iff]
  constructor
  · rintro ⟨x, hx, hrest⟩
    obtain ⟨y, hy, -⟩ := exists_bind_eq_ok_iff.mp hrest
    exact ⟨⟨x, hx⟩, y, hy⟩
  · rintro ⟨⟨x, hx⟩, y, hy⟩
    exact ⟨x, hx, exists_bind_eq_ok_iff.mpr ⟨y, hy, hnext x y⟩⟩

theorem exists_isAbove_iff (a b : Value) :
    (∃ answer, a.isAbove b = .ok answer) ↔ a.InRange ∧ b.InRange := by
  apply exists_numbers_iff
  intro x y
  split
  · exact ⟨_, rfl⟩
  · exact ⟨_, rfl⟩

theorem exists_testTexts_iff {test : String → String → Bool} {caseSensitive : Bool} {a b : Value} :
    (∃ answer, testTexts test caseSensitive a b = .ok answer) ↔ a.BothWritable b := by
  rw [BothWritable, ← Bool.and_eq_true_iff, testTexts]
  split
  · next hwritable => simp [hwritable]
  · next hoverlong => simp [hoverlong]

end Value

namespace Value

theorem exists_sameText_iff {caseSensitive : Bool} {a b : Value} :
    (∃ answer, sameText caseSensitive a b = .ok answer) ↔ a.BothWritable b :=
  exists_testTexts_iff

/-- Booleans can always be compared for equality, other values when both are in range and can be
written. -/
theorem exists_same_iff {caseSensitive : Bool} {a b : Value} :
    (∃ answer, a.same caseSensitive b = .ok answer) ↔
      a.isBool = true ∨ b.isBool = true ∨ (a.InRange ∧ b.InRange ∧ a.BothWritable b) := by
  unfold same
  rw [← or_assoc, ← Bool.or_eq_true_iff]
  split
  · next hbool =>
    refine iff_of_true ?_ (.inl hbool)
    split
    · exact ⟨_, rfl⟩
    · exact ⟨_, rfl⟩
  · next hbool =>
    rw [or_iff_right hbool]
    split
    · simp only [exists_bind_eq_ok_iff]
      constructor
      · rintro ⟨x, hx, y, hy, hanswer⟩
        refine ⟨(exists_asNumber_iff a).mp ⟨x, hx⟩, (exists_asNumber_iff b).mp ⟨y, hy⟩, ?_⟩
        split at hanswer
        · exact ⟨isWritable_of_asNumber hx, isWritable_of_asNumber hy⟩
        · exact exists_sameText_iff.mp hanswer
      · rintro ⟨ha, hb, hwritable⟩
        obtain ⟨x, hx⟩ := (exists_asNumber_iff a).mpr ha
        obtain ⟨y, hy⟩ := (exists_asNumber_iff b).mpr hb
        refine ⟨x, hx, y, hy, ?_⟩
        split
        · exact ⟨_, rfl⟩
        · exact exists_sameText_iff.mpr hwritable
    · next hnumber =>
      rw [Bool.or_eq_true, not_or, Bool.not_eq_true, Bool.not_eq_true] at hnumber
      rw [exists_sameText_iff]
      simp [inRange_of_isNumber_eq_false hnumber.1, inRange_of_isNumber_eq_false hnumber.2]

end Value

/-! ## Operators -/

/-- A pattern with a count past the greatest one keeps a comparison from being made. -/
example : Operator.regexMatch.apply false (.text "aaa") (.text "a\x7b4294967296\x7d") =
    .error (.unusablePattern .countTooLarge) := by decide +kernel

end MailTriage

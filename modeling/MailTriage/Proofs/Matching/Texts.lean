import MailTriage.Proofs.Matching.Answers
import Mathlib.Data.List.Infix

/-!
# Comparing texts

Four operators compare the texts of two values: one asks for the same text, the others whether one
text occurs in the other, at its beginning or at its end. Folding case replaces each character on
its own, so it carries a part of a text over to a part of the folded text; what holds with regard to
case therefore holds without. Booleans and numbers are compared for equality as what they are, where
case has no part.
-/

namespace MailTriage

namespace Text

theorem occursIn_iff {part whole : List Char} : occursIn part whole = true ↔ part <:+: whole := by
  induction whole with
  | nil => simp [occursIn]
  | cons c rest ih =>
    rw [occursIn, Bool.or_eq_true, ih, List.infix_cons_iff, List.isPrefixOf_iff_prefix]

theorem contains_iff {whole part : String} :
    contains whole part = true ↔ part.toList <:+: whole.toList :=
  occursIn_iff

theorem beginsWith_iff {whole part : String} :
    beginsWith whole part = true ↔ part.toList <+: whole.toList :=
  List.isPrefixOf_iff_prefix

theorem endsWith_iff {whole part : String} :
    endsWith whole part = true ↔ part.toList <:+ whole.toList :=
  List.isSuffixOf_iff_suffix

@[simp] theorem toList_foldCase (s : String) : (foldCase s).toList = s.toList.flatMap foldChar :=
  String.toList_ofList

section Tests

variable {whole part : String}

theorem contains_foldCase (h : contains whole part = true) :
    contains (foldCase whole) (foldCase part) = true := by
  rw [contains_iff, toList_foldCase, toList_foldCase]
  exact (contains_iff.mp h).flatMap foldChar

theorem beginsWith_foldCase (h : beginsWith whole part = true) :
    beginsWith (foldCase whole) (foldCase part) = true := by
  rw [beginsWith_iff, toList_foldCase, toList_foldCase]
  exact (beginsWith_iff.mp h).flatMap foldChar

theorem endsWith_foldCase (h : endsWith whole part = true) :
    endsWith (foldCase whole) (foldCase part) = true := by
  rw [endsWith_iff, toList_foldCase, toList_foldCase]
  exact (endsWith_iff.mp h).flatMap foldChar

theorem contains_of_beginsWith (h : beginsWith whole part = true) : contains whole part = true :=
  contains_iff.mpr (beginsWith_iff.mp h).isInfix

theorem contains_of_endsWith (h : endsWith whole part = true) : contains whole part = true :=
  contains_iff.mpr (endsWith_iff.mp h).isInfix

end Tests

end Text

/-- An operator has an answer for two values, and it is yes. -/
def Operator.Holds (operator : Operator) (caseSensitive : Bool) (actual expected : Value) : Prop :=
  operator.apply caseSensitive actual expected = .ok true

instance (operator : Operator) (caseSensitive : Bool) (actual expected : Value) :
    Decidable (operator.Holds caseSensitive actual expected) :=
  inferInstanceAs (Decidable (_ = _))

/-- Whether an operator only asks if there is a field at all. -/
def Operator.testsPresence : Operator → Bool
  | present => true
  | absent => true
  | _ => false

theorem Operator.apply_eq_compare {operator : Operator} {caseSensitive : Bool} {a b : Value}
    (ha : a.isNull = false) (hb : b.isNull = false) :
    operator.apply caseSensitive a b = operator.compare caseSensitive a b := by
  cases operator <;> simp [apply, ha, hb, compare]

theorem Operator.holds_iff_compare {operator : Operator}
    (hoperator : operator.testsPresence = false) {caseSensitive : Bool} {actual expected : Value} :
    operator.Holds caseSensitive actual expected ↔
      (actual.isNull = false ∧ expected.isNull = false) ∧
        operator.compare caseSensitive actual expected = .ok true := by
  unfold Holds
  rw [← Bool.or_eq_false_iff]
  cases operator with
  | present | absent => exact nomatch hoperator
  | equals | contains | startsWith | endsWith | greaterThan | lessThan | regexMatch =>
    unfold apply
    dsimp only
    cases actual.isNull || expected.isNull <;> simp

namespace Value

variable {caseSensitive : Bool} {a b : Value}

/-! ## Tests of two texts -/

theorem testTexts_eq_ok_true_iff {test : String → String → Bool} :
    testTexts test caseSensitive a b = .ok true ↔
      a.BothWritable b ∧ test (a.comparable caseSensitive) (b.comparable caseSensitive) = true := by
  rw [BothWritable, ← Bool.and_eq_true_iff, testTexts]
  cases Json.isWritable a && Json.isWritable b <;> simp

theorem testTexts_mono {test weaker : String → String → Bool}
    (himp : ∀ whole part, test whole part = true → weaker whole part = true)
    (h : testTexts test caseSensitive a b = .ok true) :
    testTexts weaker caseSensitive a b = .ok true := by
  rw [testTexts_eq_ok_true_iff] at h ⊢
  exact ⟨h.1, himp _ _ h.2⟩

theorem testTexts_foldCase {test : String → String → Bool}
    (hfold : ∀ whole part,
      test whole part = true → test (Text.foldCase whole) (Text.foldCase part) = true)
    (h : testTexts test true a b = .ok true) : testTexts test false a b = .ok true := by
  rw [testTexts_eq_ok_true_iff] at h ⊢
  exact ⟨h.1, hfold _ _ h.2⟩

/-- Case either has no part in whether two values are the same, or their texts are what is
compared. -/
theorem same_eq_or_eq_sameText (a b : Value) :
    (∀ caseSensitive, a.same caseSensitive b = a.same true b) ∨
      ∀ caseSensitive, a.same caseSensitive b = sameText caseSensitive a b := by
  unfold same
  split
  · exact .inl fun _ => rfl
  · split
    · cases hx : a.asNumber with
      | error failure => exact .inl fun _ => rfl
      | ok x =>
        cases hy : b.asNumber with
        | error failure => exact .inl fun _ => rfl
        | ok y =>
          cases x with
          | none => exact .inr fun _ => rfl
          | some x =>
            cases y with
            | none => exact .inr fun _ => rfl
            | some y => exact .inl fun _ => rfl
    · exact .inr fun _ => rfl

theorem same_foldCase (h : a.same true b = .ok true) : a.same false b = .ok true := by
  rcases same_eq_or_eq_sameText a b with hplain | htexts
  · rw [hplain, h]
  · rw [htexts] at h ⊢
    refine testTexts_foldCase ?_ h
    simp +contextual

end Value

namespace Operator

variable {caseSensitive : Bool} {actual expected : Value}

/-- What one of the four operators finds with regard to case it also finds without. -/
theorem holds_foldCase {operator : Operator}
    (hoperator : operator ∈ [equals, contains, startsWith, endsWith])
    (h : operator.Holds true actual expected) : operator.Holds false actual expected := by
  simp only [List.mem_cons, List.not_mem_nil, or_false] at hoperator
  rcases hoperator with rfl | rfl | rfl | rfl <;> rw [holds_iff_compare rfl] at h ⊢
  · exact ⟨h.1, Value.same_foldCase h.2⟩
  · exact ⟨h.1, Value.testTexts_foldCase (fun _ _ => Text.contains_foldCase) h.2⟩
  · exact ⟨h.1, Value.testTexts_foldCase (fun _ _ => Text.beginsWith_foldCase) h.2⟩
  · exact ⟨h.1, Value.testTexts_foldCase (fun _ _ => Text.endsWith_foldCase) h.2⟩

theorem holds_contains_of_startsWith (h : startsWith.Holds caseSensitive actual expected) :
    contains.Holds caseSensitive actual expected := by
  rw [holds_iff_compare rfl] at h ⊢
  exact ⟨h.1, Value.testTexts_mono (fun _ _ => Text.contains_of_beginsWith) h.2⟩

theorem holds_contains_of_endsWith (h : endsWith.Holds caseSensitive actual expected) :
    contains.Holds caseSensitive actual expected := by
  rw [holds_iff_compare rfl] at h ⊢
  exact ⟨h.1, Value.testTexts_mono (fun _ _ => Text.contains_of_endsWith) h.2⟩

/-! ## Two texts -/

section TwoTexts

variable {s t : String}

theorem holds_text_iff {operator : Operator} (hoperator : operator.testsPresence = false)
    {test : String → String → Bool}
    (hcompare : operator.compare caseSensitive (.text s) (.text t) =
      Value.testTexts test caseSensitive (.text s) (.text t)) :
    operator.Holds caseSensitive (.text s) (.text t) ↔
      test ((Value.text s).comparable caseSensitive) ((Value.text t).comparable caseSensitive) =
        true := by
  rw [holds_iff_compare hoperator, hcompare, Value.testTexts_eq_ok_true_iff]
  simp [Value.isNull, Value.BothWritable, Json.isWritable]

theorem holds_equals_text_iff :
    equals.Holds caseSensitive (.text s) (.text t) ↔
      (Value.text s).comparable caseSensitive = (Value.text t).comparable caseSensitive := by
  have hcompare : equals.compare caseSensitive (.text s) (.text t) =
      Value.testTexts (fun x y => x = y) caseSensitive (.text s) (.text t) := rfl
  rw [holds_text_iff rfl hcompare, decide_eq_true_iff]

theorem holds_startsWith_text_iff :
    startsWith.Holds caseSensitive (.text s) (.text t) ↔
      ((Value.text t).comparable caseSensitive).toList
        <+: ((Value.text s).comparable caseSensitive).toList := by
  rw [holds_text_iff rfl rfl, Text.beginsWith_iff]

theorem holds_endsWith_text_iff :
    endsWith.Holds caseSensitive (.text s) (.text t) ↔
      ((Value.text t).comparable caseSensitive).toList <:+
        ((Value.text s).comparable caseSensitive).toList := by
  rw [holds_text_iff rfl rfl, Text.endsWith_iff]

/-- Two texts are the same exactly when each begins with the other. -/
theorem holds_equals_iff_startsWith :
    equals.Holds caseSensitive (.text s) (.text t) ↔
      startsWith.Holds caseSensitive (.text s) (.text t) ∧
        startsWith.Holds caseSensitive (.text t) (.text s) := by
  rw [holds_equals_text_iff, holds_startsWith_text_iff, holds_startsWith_text_iff]
  constructor
  · intro h
    rw [h]
    exact ⟨List.prefix_rfl, List.prefix_rfl⟩
  · rintro ⟨hts, hst⟩
    exact String.toList_inj.mp (hst.eq_of_length_le hts.length_le)

theorem holds_equals_iff_endsWith :
    equals.Holds caseSensitive (.text s) (.text t) ↔
      endsWith.Holds caseSensitive (.text s) (.text t) ∧
        endsWith.Holds caseSensitive (.text t) (.text s) := by
  rw [holds_equals_text_iff, holds_endsWith_text_iff, holds_endsWith_text_iff]
  constructor
  · intro h
    rw [h]
    exact ⟨List.suffix_rfl, List.suffix_rfl⟩
  · rintro ⟨hts, hst⟩
    exact String.toList_inj.mp (hst.eq_of_length_le hts.length_le)

end TwoTexts

/-- The tests of texts agree with each other: what holds with regard to case holds without, what
begins or ends with a text contains it, and two texts are the same exactly when each begins with the
other, and exactly when each ends with the other. -/
theorem tests_consistent (actual expected : Value) (s t : String) :
    (∀ operator ∈ [equals, contains, startsWith, endsWith],
      operator.Holds true actual expected → operator.Holds false actual expected) ∧
    ∀ caseSensitive,
      (startsWith.Holds caseSensitive actual expected →
        contains.Holds caseSensitive actual expected) ∧
      (endsWith.Holds caseSensitive actual expected →
        contains.Holds caseSensitive actual expected) ∧
      (equals.Holds caseSensitive (.text s) (.text t) ↔
        startsWith.Holds caseSensitive (.text s) (.text t) ∧
          startsWith.Holds caseSensitive (.text t) (.text s)) ∧
      (equals.Holds caseSensitive (.text s) (.text t) ↔
        endsWith.Holds caseSensitive (.text s) (.text t) ∧
          endsWith.Holds caseSensitive (.text t) (.text s)) :=
  ⟨fun _ => holds_foldCase, fun _ => ⟨holds_contains_of_startsWith, holds_contains_of_endsWith,
    holds_equals_iff_startsWith, holds_equals_iff_endsWith⟩⟩

/-- A number begins with the digits of another, with regard to case and without, and so contains
them. Texts that differ in case alone begin and end with each other without regard to it. -/
theorem tests_consistent_numbersAndDigests :
    startsWith.Holds true (.int 1205) (.float (Binary64.ofInt 12)) ∧
      contains.Holds false (.int 1205) (.float (Binary64.ofInt 12)) ∧
      equals.Holds false (.text "Digest") (.text "DIGEST") ∧
      endsWith.Holds false (.text "DIGEST") (.text "Digest") := by
  have hstarts : startsWith.Holds true (.int 1205) (.float (Binary64.ofInt 12)) := by decide +kernel
  have hequals : equals.Holds false (.text "Digest") (.text "DIGEST") := by decide +kernel
  obtain ⟨hfold, hcases⟩ :=
    tests_consistent (.int 1205) (.float (Binary64.ofInt 12)) "Digest" "DIGEST"
  have hfolded := hfold startsWith (by decide) hstarts
  exact ⟨hstarts, (hcases false).1 hfolded, hequals, ((hcases false).2.2.2.mp hequals).2⟩

end Operator

end MailTriage

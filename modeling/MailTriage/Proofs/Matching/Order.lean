import MailTriage.Proofs.Json.Number
import MailTriage.Proofs.Matching.Texts

/-!
# The order of values

Two values are compared as booleans when one of them is a boolean, as numbers when one of them is a
number and both can be read as one, and as texts otherwise; only what can be read as a number is
above or below another value. Being the same is symmetric and reflexive all the same, one value is
above another exactly when the other is below it, and above is a strict order. Where two values are
compared as numbers, they are either the same, or one is above the other.
-/

namespace MailTriage

/-! ## Numbers -/

namespace Binary64

variable {x y z : Binary64} {i j k : Int}

theorem eq_iff (hx : x.key? = some i) (hy : y.key? = some j) : x.eq y = true ↔ i = j := by
  simp [eq, hx, hy]

theorem lt_iff (hx : x.key? = some i) (hy : y.key? = some j) : x.lt y = true ↔ i < j := by
  simp [lt, hx, hy]

theorem eq_comm (x y : Binary64) : x.eq y = y.eq x := by
  unfold eq
  cases x.key? with
  | none => cases y.key? <;> rfl
  | some i =>
    cases y.key? with
    | none => rfl
    | some j => exact decide_eq_decide.mpr Eq.comm

theorem lt_self (x : Binary64) : x.lt x = false := by
  unfold lt
  cases x.key? with
  | none => rfl
  | some i => exact decide_eq_false (lt_irrefl i)

theorem lt_trans (hxy : x.lt y = true) (hyz : y.lt z = true) : x.lt z = true := by
  unfold lt at *
  cases hx : x.key? with
  | none => simp [hx] at hxy
  | some i =>
    cases hy : y.key? with
    | none => simp [hx, hy] at hxy
    | some j =>
      cases hz : z.key? with
      | none => simp [hy, hz] at hyz
      | some k =>
        simp only [hx, hy, hz, decide_eq_true_iff] at *
        exact hxy.trans hyz

end Binary64

namespace Value

variable {a b c : Value} {x y : Binary64}

theorem asNumber_eq_error {failure : ComparisonFailure} (h : a.asNumber = .error failure) :
    failure = .numberTooLarge := by
  cases a with
  | int n =>
    rw [asNumber] at h
    split at h <;> cases h
    rfl
  | null | bool | float | text | list | object => cases h

theorem exists_key_of_ordered? {number : Binary64} (h : ordered? number = some x) :
    ∃ i, x.key? = some i := by
  unfold ordered? Binary64.isNaN at h
  split at h
  · exact nomatch h
  · next hkey =>
    cases h
    rw [Bool.not_eq_true, Option.isNone_eq_false_iff] at hkey
    exact Option.isSome_iff_exists.mp hkey

theorem isNull_of_asNumber (h : a.asNumber = .ok (some x)) : a.isNull = false := by
  cases a with
  | null => exact nomatch h
  | bool | int | float | text | list | object => rfl

theorem exists_key_of_asNumber (h : a.asNumber = .ok (some x)) : ∃ i, x.key? = some i := by
  cases a with
  | int n =>
    rw [asNumber] at h
    split at h <;> cases h
    next hnumber =>
      rw [Binary64.ofInt?] at hnumber
      split at hnumber <;> cases hnumber
      exact ⟨_, rfl⟩
  | float number => exact exists_key_of_ordered? (Except.ok.inj h)
  | text s =>
    obtain ⟨number, -, hordered⟩ := Option.bind_eq_some_iff.mp (Except.ok.inj h)
    exact exists_key_of_ordered? hordered
  | null | bool | list | object => cases h

/-- Two values can be read as numbers in either order. -/
theorem asNumber_bind_comm (a b : Value)
    {next next' : Option Binary64 → Option Binary64 → Except ComparisonFailure Bool}
    (hnext : ∀ x y, next x y = next' y x) :
    (do next (← a.asNumber) (← b.asNumber)) = (do next' (← b.asNumber) (← a.asNumber)) := by
  cases hx : a.asNumber with
  | error failure =>
    cases hy : b.asNumber with
    | error failure' =>
      obtain rfl := asNumber_eq_error hx
      obtain rfl := asNumber_eq_error hy
      rfl
    | ok y => rfl
  | ok x =>
    cases b.asNumber with
    | error failure => rfl
    | ok y => exact hnext x y

/-! ## The same value -/

theorem sameText_comm (caseSensitive : Bool) (a b : Value) :
    sameText caseSensitive a b = sameText caseSensitive b a := by
  unfold sameText testTexts
  simp only [Bool.and_comm, eq_comm]

theorem same_comm (caseSensitive : Bool) (a b : Value) :
    a.same caseSensitive b = b.same caseSensitive a := by
  unfold same
  rw [Bool.or_comm b.isBool, Bool.or_comm b.isNumber]
  split
  · cases a.asBool with
    | none => cases b.asBool <;> rfl
    | some p =>
      cases b.asBool with
      | none => rfl
      | some q => simp [eq_comm]
  · split
    · refine asNumber_bind_comm a b fun number number' => ?_
      cases number with
      | none => cases number' <;> exact sameText_comm caseSensitive a b
      | some x =>
        cases number' with
        | none => exact sameText_comm caseSensitive a b
        | some y => exact congrArg Except.ok (Binary64.eq_comm x y)
    · exact sameText_comm caseSensitive a b

theorem sameText_self (caseSensitive : Bool) (h : Json.isWritable a = true) :
    sameText caseSensitive a a = .ok true := by
  simp [sameText, testTexts, h]

theorem same_self (caseSensitive : Bool) (hrange : a.InRange)
    (hwritable : Json.isWritable a = true) :
    a.same caseSensitive a = .ok true := by
  unfold same
  split
  · next hbool =>
    cases a with
    | bool b => simp [asBool]
    | null | int | float | text | list | object => cases hbool
  · split
    · obtain ⟨number, hnumber⟩ := (exists_asNumber_iff a).mpr hrange
      rw [hnumber]
      cases number with
      | none => exact sameText_self caseSensitive hwritable
      | some x =>
        obtain ⟨i, hkey⟩ := exists_key_of_asNumber hnumber
        exact congrArg Except.ok ((Binary64.eq_iff hkey hkey).mpr rfl)
    · exact sameText_self caseSensitive hwritable

theorem same_eq_of_asNumber {caseSensitive : Bool} (ha : a.isBool = false) (hb : b.isBool = false)
    (hnumber : a.isNumber = true ∨ b.isNumber = true) (hx : a.asNumber = .ok (some x))
    (hy : b.asNumber = .ok (some y)) : a.same caseSensitive b = .ok (x.eq y) := by
  rw [← Bool.or_eq_true_iff] at hnumber
  unfold same
  rw [ha, hb, hnumber, hx, hy]
  rfl

/-! ## Above and below -/

theorem isAbove_eq_isBelow (a b : Value) : a.isAbove b = b.isBelow a := by
  refine asNumber_bind_comm a b fun number number' => ?_
  cases number <;> cases number' <;> rfl

theorem isAbove_eq_of_asNumber (hx : a.asNumber = .ok (some x)) (hy : b.asNumber = .ok (some y)) :
    a.isAbove b = .ok (y.lt x) := by
  unfold isAbove
  rw [hx, hy]
  rfl

theorem isAbove_eq_ok_true_iff :
    a.isAbove b = .ok true ↔
      ∃ x y, a.asNumber = .ok (some x) ∧ b.asNumber = .ok (some y) ∧ y.lt x = true := by
  constructor
  · intro h
    obtain ⟨number, hx, h⟩ := exists_of_bind_eq_ok h
    obtain ⟨number', hy, h⟩ := exists_of_bind_eq_ok h
    split at h
    · exact ⟨_, _, hx, hy, Except.ok.inj h⟩
    · exact nomatch h
  · rintro ⟨x, y, hx, hy, hlt⟩
    rw [isAbove_eq_of_asNumber hx hy, hlt]

theorem isAbove_trans (hab : a.isAbove b = .ok true) (hbc : b.isAbove c = .ok true) :
    a.isAbove c = .ok true := by
  rw [isAbove_eq_ok_true_iff] at *
  obtain ⟨x, y, hx, hy, hyx⟩ := hab
  obtain ⟨y', z, hy', hz, hzy⟩ := hbc
  cases hy.symm.trans hy'
  exact ⟨x, z, hx, hz, Binary64.lt_trans hzy hyx⟩

theorem isAbove_self (h : a.InRange) : a.isAbove a = .ok false := by
  obtain ⟨answer, hanswer⟩ := (exists_isAbove_iff a a).mpr ⟨h, h⟩
  cases answer with
  | false => exact hanswer
  | true =>
    obtain ⟨x, y, hx, hy, hlt⟩ := isAbove_eq_ok_true_iff.mp hanswer
    cases hx.symm.trans hy
    exact absurd hlt (by simp [Binary64.lt_self])

/-! ## Comparable values -/

/-- A value in which every whole number converts to a finite floating number. -/
inductive Moderate : Value → Prop
  | null : Moderate .null
  | bool (b : Bool) : Moderate (.bool b)
  | int {n : Int} {x : Binary64} (h : Binary64.ofInt? n = some x) : Moderate (.int n)
  | float (x : Binary64) : Moderate (.float x)
  | text (s : String) : Moderate (.text s)
  | list {items : List Value} (h : ∀ item ∈ items, Moderate item) : Moderate (.list items)
  | object {fields : Fields} (h : ∀ entry ∈ fields, Moderate entry.2) : Moderate (.object fields)

/-- A value other than null in which every whole number converts to a finite floating number. -/
structure IsComparable (a : Value) : Prop where
  notNull : a.isNull = false
  moderate : a.Moderate

theorem Moderate.inRange (h : a.Moderate) : a.InRange := by
  rw [← exists_asNumber_iff]
  cases h with
  | int hnumber => exact ⟨_, by rw [asNumber, hnumber]⟩
  | null | bool | float | text | list | object => exact ⟨_, rfl⟩

theorem Moderate.isWritable (h : a.Moderate) : Json.isWritable a = true := by
  induction h with
  | int hnumber => exact isWritable_of_asNumber (by rw [asNumber, hnumber])
  | list _ ih => exact Json.allWritable_iff.mpr ih
  | object _ ih => exact Json.membersWritable_iff.mpr ih
  | null | bool | float | text => rfl

end Value

/-! ## Operators -/

namespace Operator

variable {caseSensitive : Bool} {a b c : Value} {x y : Binary64}

/-- Two values compared as numbers are either the same, or one is above or below the other. -/
theorem existsUnique_holds_of_asNumber (caseSensitive : Bool) (ha : a.isBool = false)
    (hb : b.isBool = false) (hnumber : a.isNumber = true ∨ b.isNumber = true)
    (hx : a.asNumber = .ok (some x)) (hy : b.asNumber = .ok (some y)) :
    ∃! operator, operator ∈ [equals, greaterThan, lessThan] ∧ operator.Holds caseSensitive a b := by
  have hcompare (operator : Operator) :
      operator.Holds caseSensitive a b ↔ operator.compare caseSensitive a b = .ok true := by
    rw [Holds, apply_eq_compare (Value.isNull_of_asNumber hx) (Value.isNull_of_asNumber hy)]
  obtain ⟨i, hi⟩ := Value.exists_key_of_asNumber hx
  obtain ⟨j, hj⟩ := Value.exists_key_of_asNumber hy
  have hequals : equals.Holds caseSensitive a b ↔ i = j := by
    rw [hcompare, compare, Value.same_eq_of_asNumber ha hb hnumber hx hy, Except.ok.injEq,
      Binary64.eq_iff hi hj]
  have habove : greaterThan.Holds caseSensitive a b ↔ j < i := by
    rw [hcompare, compare, Value.isAbove_eq_of_asNumber hx hy, Except.ok.injEq,
      Binary64.lt_iff hj hi]
  have hbelow : lessThan.Holds caseSensitive a b ↔ i < j := by
    rw [hcompare, compare, ← Value.isAbove_eq_isBelow, Value.isAbove_eq_of_asNumber hy hx,
      Except.ok.injEq, Binary64.lt_iff hi hj]
  apply existsUnique_of_exists_of_unique
  · rcases lt_trichotomy i j with hlt | heq | hgt
    · exact ⟨lessThan, by simp, hbelow.mpr hlt⟩
    · exact ⟨equals, by simp, hequals.mpr heq⟩
    · exact ⟨greaterThan, by simp, habove.mpr hgt⟩
  · rintro operator operator' ⟨hmem, hholds⟩ ⟨hmem', hholds'⟩
    simp only [List.mem_cons, List.not_mem_nil, or_false] at hmem hmem'
    rcases hmem with rfl | rfl | rfl <;> rcases hmem' with rfl | rfl | rfl <;>
      simp only [hequals, habove, hbelow] at hholds hholds' <;> grind

/-- Comparing values orders them. Being the same is symmetric and reflexive; one value is above
another exactly when the other is below it; no value is above itself, and above is transitive; and
of two values that are compared as numbers, exactly one of the three holds. -/
theorem comparisons_ordered {a b c : Value} (ha : a.IsComparable) (hb : b.IsComparable)
    (hc : c.IsComparable) (caseSensitive : Bool) :
    (∃ answer, equals.apply caseSensitive a b = .ok answer ∧
      equals.apply caseSensitive b a = .ok answer) ∧
    equals.apply caseSensitive a a = .ok true ∧
    (∃ answer, greaterThan.apply caseSensitive a b = .ok answer ∧
      lessThan.apply caseSensitive b a = .ok answer) ∧
    greaterThan.apply caseSensitive a a = .ok false ∧
    (greaterThan.Holds caseSensitive a b → greaterThan.Holds caseSensitive b c →
      greaterThan.Holds caseSensitive a c) ∧
    (a.isBool = false → b.isBool = false → a.isNumber = true ∨ b.isNumber = true →
      ∀ x y, a.asNumber = .ok (some x) → b.asNumber = .ok (some y) →
        ∃! operator, operator ∈ [equals, greaterThan, lessThan] ∧
          operator.Holds caseSensitive a b) := by
  have hequals {p q : Value} (hp : p.IsComparable) (hq : q.IsComparable) :
      equals.apply caseSensitive p q = p.same caseSensitive q :=
    apply_eq_compare hp.notNull hq.notNull
  have habove {p q : Value} (hp : p.IsComparable) (hq : q.IsComparable) :
      greaterThan.apply caseSensitive p q = p.isAbove q :=
    apply_eq_compare hp.notNull hq.notNull
  have hbelow : lessThan.apply caseSensitive b a = b.isBelow a :=
    apply_eq_compare hb.notNull ha.notNull
  refine ⟨?_, ?_, ?_, ?_, ?_, ?_⟩
  · obtain ⟨answer, hanswer⟩ := Value.exists_same_iff.mpr
      (.inr (.inr ⟨ha.moderate.inRange, hb.moderate.inRange, ha.moderate.isWritable,
        hb.moderate.isWritable⟩))
    exact ⟨answer, (hequals ha hb).trans hanswer, by rw [hequals hb ha, Value.same_comm, hanswer]⟩
  · rw [hequals ha ha, Value.same_self caseSensitive ha.moderate.inRange ha.moderate.isWritable]
  · obtain ⟨answer, hanswer⟩ :=
      (Value.exists_isAbove_iff a b).mpr ⟨ha.moderate.inRange, hb.moderate.inRange⟩
    exact ⟨answer,
      (habove ha hb).trans hanswer, by rw [hbelow, ← Value.isAbove_eq_isBelow, hanswer]⟩
  · rw [habove ha ha, Value.isAbove_self ha.moderate.inRange]
  · unfold Holds
    rw [habove ha hb, habove hb hc, habove ha hc]
    exact Value.isAbove_trans
  · intro hbool hbool' hnumber x y hx hy
    exact existsUnique_holds_of_asNumber caseSensitive hbool hbool' hnumber hx hy

/-- What is not a number is compared as a text, and so is the same as itself. -/
example : equals.Holds true (.float .nan) (.float .nan) := by decide

/-- A floating number, the text of a larger one and a whole number between them. -/
theorem comparisons_ordered_mixed :
    (Value.text " 2.5e1").IsComparable ∧ (Value.int 9).IsComparable ∧
      (Value.float (Binary64.ofInt (-3))).IsComparable ∧
      greaterThan.Holds false (.text " 2.5e1") (.float (Binary64.ofInt (-3))) ∧
      ∃! operator, operator ∈ [equals, greaterThan, lessThan] ∧
        operator.Holds false (.text " 2.5e1") (.int 9) := by
  have htext : (Value.text " 2.5e1").IsComparable := ⟨rfl, .text _⟩
  have hint : (Value.int 9).IsComparable := ⟨rfl, .int (x := Binary64.ofInt 9) (by decide +kernel)⟩
  have hfloat : (Value.float (Binary64.ofInt (-3))).IsComparable := ⟨rfl, .float _⟩
  obtain ⟨-, -, -, -, htrans, hone⟩ := comparisons_ordered htext hint hfloat false
  have habove : greaterThan.Holds false (.text " 2.5e1") (.int 9) := by decide +kernel
  have habove' : greaterThan.Holds false (.int 9) (.float (Binary64.ofInt (-3))) := by
    decide +kernel
  obtain ⟨x, y, hx, hy, -⟩ := Value.isAbove_eq_ok_true_iff.mp
    ((apply_eq_compare htext.notNull hint.notNull).symm.trans habove)
  exact ⟨htext, hint, hfloat, htrans habove habove', hone rfl rfl (.inr rfl) x y hx hy⟩

end Operator

end MailTriage

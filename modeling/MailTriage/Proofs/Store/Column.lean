import MailTriage.Proofs.Json.Number
import MailTriage.Proofs.Number.Range
import MailTriage.Store.Rules

/-!
# What a column of numbers keeps

The column that holds the values of conditions gives back every text, every boolean, and every whole
number of 64 bits. A whole floating number inside the column comes back as a whole number, and a
whole number past it as a floating one. Any other floating number comes back when the column takes
its shortest decimal for it. So what has been in the column once is normal: it comes back exactly
when its floating numbers are read back.
-/

namespace MailTriage

namespace Scalar

/-- Whether a value can come out of a column of numbers: a whole number has 64 bits, and a floating
one is not whole unless it is past them. -/
def isNormal : Scalar → Bool
  | .int n => fitsWord n
  | .float x => !(x.isInteger && x.truncate?.all fun n => n.natAbs < 9223372036854775807)
  | _ => true

/-- Whether a column takes the text of a floating number for this number. -/
def readsBack (column : NumberColumn) : Scalar → Bool
  | .float x => !x.isFinite || column.read (x.text .document) = x
  | _ => true

/-- Whether a column of numbers gives a value back as it is. -/
def isKept (column : NumberColumn) (value : Scalar) : Bool :=
  value.isNormal && value.readsBack column

theorem fitsWord_of_natAbs_lt {n : Int} (h : n.natAbs < 2 ^ 63) : fitsWord n = true := by
  rw [fitsWord, wordBound, Bool.and_eq_true, decide_eq_true_eq, decide_eq_true_eq]
  omega

theorem natAbs_le_of_fitsWord {n : Int} (h : fitsWord n = true) : n.natAbs ≤ 2 ^ 63 := by
  rw [fitsWord, wordBound, Bool.and_eq_true, decide_eq_true_eq, decide_eq_true_eq] at h
  omega

/-- A floating number is kept as it is, unless it becomes a whole number of 64 bits. -/
theorem ofReal_cases (x : Binary64) :
    (ofReal x = .float x ∧ (Scalar.float x).isNormal = true) ∨
      ∃ n, ofReal x = .int n ∧ fitsWord n = true ∧ (Scalar.float x).isNormal = false := by
  unfold ofReal isNormal
  cases hwhole : x.truncate? with
  | none =>
    have hinteger : x.isInteger = false := by
      cases x with
      | nan => rfl
      | ranked negative rank =>
        have hfinite : ¬ rank.val < Binary64.infinityRank := by
          intro hlt
          simp [Binary64.truncate?, hlt] at hwhole
        simp [Binary64.isInteger, hfinite]
    exact .inl ⟨rfl, by simp [hinteger]⟩
  | some n =>
    by_cases hinside : (x.isInteger && n.natAbs < 9223372036854775807) = true
    · refine .inr ⟨n, if_pos hinside, fitsWord_of_natAbs_lt ?_, by simpa [hwhole] using hinside⟩
      have hsmall : n.natAbs < 9223372036854775807 := by
        simpa using (Bool.and_eq_true_iff.mp hinside).2
      omega
    · exact .inl ⟨if_neg hinside, by simpa [hwhole, imp_iff_not_or] using hinside⟩

theorem isNormal_ofReal (x : Binary64) : (ofReal x).isNormal = true := by
  rcases ofReal_cases x with ⟨hsame, hnormal⟩ | ⟨n, hwhole, hfits, -⟩
  · rw [hsame, hnormal]
  · rw [hwhole]
    exact hfits

theorem ofReal_eq_float_iff {x y : Binary64} :
    ofReal x = .float y ↔ x = y ∧ (Scalar.float y).isNormal = true := by
  rcases ofReal_cases x with ⟨hsame, hnormal⟩ | ⟨n, hwhole, -, hnormal⟩
  · rw [hsame, Scalar.float.injEq]
    exact ⟨fun h => ⟨h, h ▸ hnormal⟩, And.left⟩
  · rw [hwhole]
    refine iff_of_false (by simp) ?_
    rintro ⟨rfl, h⟩
    exact Bool.false_ne_true (hnormal.symm.trans h)

theorem isNormal_of_not_isFinite {x : Binary64} (h : x.isFinite = false) :
    (Scalar.float x).isNormal = true := by
  cases x with
  | nan => rfl
  | ranked negative rank =>
    have hinfinite : ¬ rank.val < Binary64.infinityRank := by simpa [Binary64.isFinite] using h
    simp [isNormal, Binary64.isInteger, hinfinite]

theorem isNormal_stored (column : NumberColumn) (value : Scalar) :
    (value.stored column).isNormal = true := by
  cases value with
  | bool b => rfl
  | text s => rfl
  | int n =>
    rw [stored]
    split
    · next hfits => exact hfits
    · exact isNormal_ofReal _
  | float x =>
    rw [stored]
    split
    · exact isNormal_ofReal _
    · next hfinite => exact isNormal_of_not_isFinite (Bool.not_eq_true _ ▸ hfinite)

theorem stored_eq_self_iff (column : NumberColumn) (value : Scalar) :
    value.stored column = value ↔ value.isKept column = true := by
  cases value with
  | bool b => simp [stored, isKept, isNormal, readsBack]
  | text s => simp [stored, isKept, isNormal, readsBack]
  | int n =>
    rw [stored, show isKept column (.int n) = fitsWord n from Bool.and_true _]
    by_cases hfits : fitsWord n = true
    · rw [if_pos hfits]
      exact iff_of_true rfl hfits
    · rw [if_neg hfits]
      refine iff_of_false (fun h => hfits ?_) hfits
      have hnormal := isNormal_ofReal (column.read (String.ofList (Json.encodeInt n)))
      rwa [h] at hnormal
  | float x =>
    rw [stored, isKept, Bool.and_eq_true]
    cases hfinite : x.isFinite with
    | false => simp [isNormal_of_not_isFinite hfinite, readsBack, hfinite]
    | true =>
      rw [if_pos rfl, ofReal_eq_float_iff, and_comm]
      simp [readsBack, hfinite]

/-- A value out of a column is short enough to be written. -/
theorem isWritable_of_isNormal {value : Scalar} (h : value.isNormal = true) :
    Json.isWritable value.toValue = true := by
  cases value with
  | int n =>
    have hsmall : 2 ^ 63 < Binary64.overflow := by decide +kernel
    exact Number.isReadable_of_lt_overflow ((natAbs_le_of_fitsWord h).trans_lt hsmall)
  | bool | float | text => rfl

end Scalar

namespace Condition

/-- Whether the value of a condition can come out of the column of values. -/
def isNormal (condition : Condition) : Bool := condition.value.all Scalar.isNormal

def readsBack (column : NumberColumn) (condition : Condition) : Bool :=
  condition.value.all (Scalar.readsBack column)

/-- Whether the column of values gives back the value of a condition. -/
def isKept (column : NumberColumn) (condition : Condition) : Bool :=
  condition.value.all (Scalar.isKept column)

theorem isKept_eq (column : NumberColumn) (condition : Condition) :
    condition.isKept column = (condition.isNormal && condition.readsBack column) := by
  unfold isKept isNormal readsBack
  cases condition.value <;> rfl

theorem stored_eq_self_iff (column : NumberColumn) (condition : Condition) :
    condition.stored column = condition ↔ condition.isKept column = true := by
  obtain ⟨id, kind, operator, value, caseSensitive⟩ := condition
  cases value <;> simp [stored, isKept, Scalar.stored_eq_self_iff]

theorem isNormal_stored (column : NumberColumn) (condition : Condition) :
    (condition.stored column).isNormal = true := by
  obtain ⟨id, kind, operator, value, caseSensitive⟩ := condition
  cases value <;> simp [stored, isNormal, Scalar.isNormal_stored]

theorem isWritable_of_isNormal {condition : Condition} (h : condition.isNormal = true) :
    Json.isWritable condition.expected = true := by
  obtain ⟨id, kind, operator, value, caseSensitive⟩ := condition
  cases value with
  | none => rfl
  | some value => exact Scalar.isWritable_of_isNormal h

end Condition

namespace Rule

/-- Whether the values of a rule can come out of the column of values. -/
def isNormal (rule : Rule) : Bool := rule.conditions.all Condition.isNormal

def readsBack (column : NumberColumn) (rule : Rule) : Bool :=
  rule.conditions.all (Condition.readsBack column)

/-- Whether the column of values gives back every value of a rule. -/
def isKept (column : NumberColumn) (rule : Rule) : Bool :=
  rule.conditions.all (Condition.isKept column)

theorem isKept_eq (column : NumberColumn) (rule : Rule) :
    rule.isKept column = (rule.isNormal && rule.readsBack column) := by
  unfold isKept isNormal readsBack
  induction rule.conditions with
  | nil => rfl
  | cons condition rest ih =>
    rw [List.all_cons, List.all_cons, List.all_cons, ih, Condition.isKept_eq, Bool.and_assoc,
      Bool.and_assoc, Bool.and_left_comm (condition.readsBack column)]

theorem isKept_of_isNormal {rule : Rule} (h : rule.isNormal = true) (column : NumberColumn) :
    rule.isKept column = rule.readsBack column := by
  rw [isKept_eq, h, Bool.true_and]

@[simp] theorem stored_id (column : NumberColumn) (rule : Rule) :
    (rule.stored column).id = rule.id := rfl

@[simp] theorem stored_ids (column : NumberColumn) (rules : List Rule) :
    (rules.map (stored column)).map id = rules.map id := by
  simp [Function.comp_def]

theorem stored_conditions_eq_iff (column : NumberColumn) (rule : Rule) :
    (rule.stored column).conditions = rule.conditions ↔ rule.isKept column = true := by
  change rule.conditions.map (Condition.stored column) = rule.conditions ↔ _
  rw [isKept, List.all_eq_true]
  nth_rewrite 2 [← List.map_id' rule.conditions]
  rw [List.map_inj_left]
  exact forall₂_congr fun condition _ => condition.stored_eq_self_iff column

theorem stored_eq_self_iff (column : NumberColumn) (rule : Rule) :
    rule.stored column = rule ↔ rule.isKept column = true := by
  rw [← stored_conditions_eq_iff]
  constructor
  · exact congrArg conditions
  · exact fun h => congrArg (fun conditions => { rule with conditions := conditions }) h

theorem isNormal_stored (column : NumberColumn) (rule : Rule) :
    (rule.stored column).isNormal = true := by
  simp [isNormal, stored, Condition.isNormal_stored]

theorem isWritable_stored (column : NumberColumn) {rule : Rule} (h : rule.isWritable = true) :
    (rule.stored column).isWritable = true := by
  have hnormal := List.all_eq_true.mp (rule.isNormal_stored column)
  rw [isWritable, Bool.and_eq_true] at h ⊢
  exact ⟨List.all_eq_true.mpr fun condition hcondition =>
    Condition.isWritable_of_isNormal (hnormal condition hcondition), h.2⟩

end Rule

end MailTriage

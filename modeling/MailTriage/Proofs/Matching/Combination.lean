import MailTriage.Matching.Evaluation
import MailTriage.Proofs.Outcome
import Mathlib.Order.Bounds.Basic
import Mathlib.Tactic

/-!
# Joining conditions

The conditions of a rule are evaluated one after another, and no further than needed. Seen as a
whole, the results of all of them are joined by a plain AND or OR, where no conditions at all do not
match. Stopping early changes nothing: the answer is the plain one, so that the order of the
conditions does not matter, and the results that are kept are those of the shortest beginning that
fixes the answer, whatever the results after it would have been.
-/

namespace MailTriage

namespace Logic

/-! ## The plain answer -/

def joins (logic : Logic) (results : List Bool) : Bool :=
  match logic with
  | and => results.all id
  | or => results.any id

/-- The results of all conditions joined; none at all do not match. -/
def answer (logic : Logic) (results : List Bool) : Bool :=
  !results.isEmpty && logic.joins results

/-- The first `n` results fix the answer: any others in place of those after them lead to the
same. -/
def IsFixedBy (logic : Logic) (results : List Bool) (n : Nat) : Prop :=
  ∀ others : List Bool, others.length = results.length → others.take n = results.take n →
    logic.answer others = logic.answer results

theorem answer_and_iff {results : List Bool} :
    and.answer results = true ↔ results ≠ [] ∧ ∀ result ∈ results, result = true := by
  simp [answer, joins]

theorem answer_or_iff {results : List Bool} :
    or.answer results = true ↔ ∃ result ∈ results, result = true := by
  cases results <;> simp [answer, joins]

theorem joins_perm (logic : Logic) {results results' : List Bool} (h : results.Perm results') :
    logic.joins results = logic.joins results' := by
  cases logic with
  | and => exact h.all_eq
  | or => exact h.any_eq

theorem answer_perm (logic : Logic) {results results' : List Bool} (h : results.Perm results') :
    logic.answer results = logic.answer results' := by
  rw [answer, answer, logic.joins_perm h, h.isEmpty_eq]

theorem answer_eq_joins (logic : Logic) {results : List Bool} (h : results ≠ []) :
    logic.answer results = logic.joins results := by
  simp [answer, h]

/-! ## How far the results are looked at -/

theorem joins_cons_of_isDecidedBy {logic : Logic} {result : Bool}
    (h : logic.isDecidedBy result = true) (rest : List Bool) :
    logic.joins (result :: rest) = result := by
  cases logic <;> cases result <;> simp_all [isDecidedBy, joins]

theorem joins_cons_of_not_isDecidedBy {logic : Logic} {result : Bool}
    (h : logic.isDecidedBy result = false) (rest : List Bool) :
    logic.joins (result :: rest) = logic.joins rest := by
  cases logic <;> cases result <;> simp_all [isDecidedBy, joins]

theorem joins_replicate (logic : Logic) {count : Nat} (h : count ≠ 0) (result : Bool) :
    logic.joins (List.replicate count result) = result := by
  cases logic <;> simp [joins, h]

/-- How many results there are up to the first that decides, itself included. -/
def reach (logic : Logic) : List Bool → Nat
  | [] => 0
  | result :: rest => if logic.isDecidedBy result then 1 else logic.reach rest + 1

theorem joins_eq_of_take_reach {logic : Logic} {results others : List Bool}
    (hlength : others.length = results.length)
    (htake : others.take (logic.reach results) = results.take (logic.reach results)) :
    logic.joins others = logic.joins results := by
  induction results generalizing others with
  | nil => rw [List.length_eq_zero_iff.mp hlength]
  | cons result rest ih =>
    cases others with
    | nil => exact nomatch hlength
    | cons other others =>
      rw [reach] at htake
      cases hdecided : logic.isDecidedBy result with
      | true =>
        have hother : other = result := by simpa [hdecided] using htake
        rw [hother, joins_cons_of_isDecidedBy hdecided, joins_cons_of_isDecidedBy hdecided]
      | false =>
        obtain ⟨rfl, hrest⟩ :
            other = result ∧ others.take (logic.reach rest) = rest.take (logic.reach rest) := by
          simpa [hdecided] using htake
        rw [joins_cons_of_not_isDecidedBy hdecided, joins_cons_of_not_isDecidedBy hdecided]
        exact ih (by simpa using hlength) hrest

/-- Before the first result that decides, the results to come can still turn the answer. -/
theorem exists_joins_ne_of_lt_reach {logic : Logic} {results : List Bool} {n : Nat}
    (h : n < logic.reach results) :
    ∃ others : List Bool, others.length = results.length ∧ others.take n = results.take n ∧
      logic.joins others ≠ logic.joins results := by
  induction results generalizing n with
  | nil => exact absurd h (Nat.not_lt_zero n)
  | cons result rest ih =>
    cases n with
    | zero =>
      -- as long as nothing is fixed, results that are all the other answer give that answer
      refine ⟨List.replicate (rest.length + 1) (!logic.joins (result :: rest)), by simp, by simp,
        ?_⟩
      rw [joins_replicate logic (Nat.succ_ne_zero _)]
      exact Bool.not_ne_self _
    | succ n =>
      rw [reach] at h
      cases hdecided : logic.isDecidedBy result with
      | true => simp [hdecided] at h
      | false =>
        obtain ⟨others, hlength, htake, hne⟩ := ih (n := n) (by simpa [hdecided] using h)
        refine ⟨result :: others, by simp [hlength], by simp [htake], ?_⟩
        rwa [joins_cons_of_not_isDecidedBy hdecided, joins_cons_of_not_isDecidedBy hdecided]

/-- The results up to the first that decides are the fewest that fix the answer. -/
theorem isLeast_reach (logic : Logic) (results : List Bool) :
    IsLeast {n | logic.IsFixedBy results n} (logic.reach results) := by
  constructor
  · intro others hlength htake
    have hempty : others.isEmpty = results.isEmpty := by
      rw [Bool.eq_iff_iff, List.isEmpty_iff_length_eq_zero,
        List.isEmpty_iff_length_eq_zero, hlength]
    rw [answer, answer, joins_eq_of_take_reach hlength htake, hempty]
  · intro n hfixed
    by_contra hlt
    obtain ⟨others, hlength, htake, hne⟩ := exists_joins_ne_of_lt_reach (not_le.mp hlt)
    have hsome : results ≠ [] := by
      rintro rfl
      exact hlt (Nat.zero_le n)
    have hothers : others ≠ [] := by
      rintro rfl
      exact hsome (List.length_eq_zero_iff.mp hlength.symm)
    have hanswer := hfixed others hlength htake
    rw [answer_eq_joins logic hothers, answer_eq_joins logic hsome] at hanswer
    exact hne hanswer

/-! ## Evaluating conditions -/

variable {context : Context} {conditions : List Condition} {reports : List ConditionReport}

theorem evaluateAll_eq (logic : Logic)
    (h : conditions.mapM (Condition.evaluate · context) = .ok reports) :
    logic.evaluateAll context conditions =
      .ok (logic.joins (reports.map ConditionReport.matched),
        reports.take (logic.reach (reports.map ConditionReport.matched))) := by
  induction conditions generalizing reports with
  | nil =>
    cases h
    cases logic <;> rfl
  | cons condition rest ih =>
    obtain ⟨report, others, hreport, hothers, rfl⟩ := mapM_cons_eq_ok_iff.mp h
    rw [evaluateAll, hreport, ih hothers, List.map_cons, reach]
    cases hdecided : logic.isDecidedBy report.matched with
    | true => simp [hdecided, joins_cons_of_isDecidedBy, bind, Except.bind]
    | false => simp [hdecided, joins_cons_of_not_isDecidedBy, bind, Except.bind]

theorem combine_eq (logic : Logic)
    (h : conditions.mapM (Condition.evaluate · context) = .ok reports) :
    logic.combine context conditions =
      .ok (logic.answer (reports.map ConditionReport.matched),
        reports.take (logic.reach (reports.map ConditionReport.matched))) := by
  cases conditions with
  | nil =>
    cases h
    rfl
  | cons condition rest =>
    have hsome : reports.map ConditionReport.matched ≠ [] := by
      rw [List.ne_nil_iff_length_pos, List.length_map, length_of_mapM_eq_ok h]
      exact Nat.succ_pos _
    rw [answer_eq_joins logic hsome]
    exact logic.evaluateAll_eq h

theorem exists_combine_of_perm (logic : Logic)
    (h : conditions.mapM (Condition.evaluate · context) = .ok reports) {others : List Condition}
    (hperm : others.Perm conditions) :
    ∃ given, logic.combine context others =
      .ok (logic.answer (reports.map ConditionReport.matched), given) := by
  obtain ⟨otherReports, hothers, hreports⟩ := exists_mapM_perm hperm.symm h
  refine ⟨otherReports.take (logic.reach (otherReports.map ConditionReport.matched)), ?_⟩
  rw [logic.combine_eq hothers, logic.answer_perm (hreports.map _)]

/-- Where every condition can be evaluated, AND matches exactly when there are conditions and all of
them match, and OR when one of them does. The reports given are those of the shortest beginning of
the conditions that fixes the answer, and the conditions have the same answer in every order. -/
theorem combine_plain
    (h : ∀ condition ∈ conditions, ∃ report, condition.evaluate context = .ok report) :
    ∃ reports, conditions.mapM (Condition.evaluate · context) = .ok reports ∧
      ((∃ given, and.combine context conditions = .ok (true, given)) ↔
        conditions ≠ [] ∧ ∀ report ∈ reports, report.matched = true) ∧
      ((∃ given, or.combine context conditions = .ok (true, given)) ↔ ∃ report ∈ reports,
        report.matched = true) ∧
      ∀ logic : Logic,
        (∃ n, IsLeast {n | logic.IsFixedBy (reports.map ConditionReport.matched) n} n ∧
          logic.combine context conditions =
            .ok (logic.answer (reports.map ConditionReport.matched), reports.take n)) ∧
        ∀ others, others.Perm conditions →
          ∃ given, logic.combine context others =
            .ok (logic.answer (reports.map ConditionReport.matched), given) := by
  obtain ⟨reports, hreports⟩ := exists_mapM_eq_ok_iff.mpr h
  have hempty : reports = [] ↔ conditions = [] := by
    rw [← List.length_eq_zero_iff, ← List.length_eq_zero_iff, length_of_mapM_eq_ok hreports]
  have hcombine (logic : Logic) :
      (∃ given, logic.combine context conditions = .ok (true, given)) ↔
        logic.answer (reports.map ConditionReport.matched) = true := by
    simp [logic.combine_eq hreports]
  refine ⟨reports, hreports, ?_, ?_, fun logic => ⟨?_, fun others hperm => ?_⟩⟩
  · rw [hcombine, answer_and_iff]
    simp [hempty]
  · rw [hcombine, answer_or_iff]
    simp
  · exact ⟨_, logic.isLeast_reach _, logic.combine_eq hreports⟩
  · exact logic.exists_combine_of_perm hreports hperm

def weekly : Context := { email := { id := "m", subject := "Weekly Digest" } }

def digestFromBob : List Condition :=
  [{ id := "s", kind := "subject", value := some (.text "digest") },
    { id := "n", kind := "sender_name", value := some (.text "bob") }]

theorem combine_plain_digestFromBob :
    (∀ condition ∈ digestFromBob, ∃ report, condition.evaluate weekly = .ok report) ∧
      ∀ others, others.Perm digestFromBob →
        (∃ given, and.combine weekly others = .ok (false, given)) ∧
          ∃ given, or.combine weekly others = .ok (true, given) := by
  have h : ∀ condition ∈ digestFromBob, ∃ report, condition.evaluate weekly = .ok report := by
    simp only [digestFromBob, List.forall_mem_cons, List.not_mem_nil, false_imp_iff,
      implies_true, and_true]
    exact ⟨⟨_, rfl⟩, _, rfl⟩
  obtain ⟨reports, hreports, -, -, hlogic⟩ := combine_plain h
  cases hreports
  exact ⟨h, fun others hperm => ⟨(hlogic and).2 others hperm, (hlogic or).2 others hperm⟩⟩

end Logic

end MailTriage

import MailTriage.Proofs.Store.Replacement
import MailTriage.Proofs.Triage.Memory

/-!
# Firings in the store and in a copy

A list of rules that was read from the store counts firings as the store does, as long as the
counted numbers have a place in their columns: both then list the same rules in the same order. The
first firing that has no place stalls the session, while the copy counts on; and what it has counted
then stays out of place for all firings of that time.
-/

namespace MailTriage

/-! ## Listing rules that have fired -/

/-- The order of listed rules only depends on their identifiers and the times of their creation. -/
theorem Database.listRules_map {data : Database} {change : Rule → Rule}
    (hid : ∀ rule, (change rule).id = rule.id)
    (hcreated : ∀ rule, (change rule).createdAt = rule.createdAt) :
    { data with rules := data.rules.map change }.listRules = data.listRules.map change := by
  refine (List.map_mergeSort fun a _ b _ => ?_).symm
  simp only [Rule.listedBefore, hid, hcreated]

/-- Writing a rule that has fired changes all rules as a list that counts the firing. -/
theorem Database.putRule_fire {data : Database} (h : (data.rules.map Rule.id).Nodup)
    {ruleId : String} {rule : Rule} (hrule : data.rule? ruleId = some rule) (timestamp : Int) :
    data.putRule (rule.fire timestamp) =
      { data with rules := data.rules.map fun other =>
          other.firedAt (Firings.timesOf other.id [(ruleId, timestamp)]) } := by
  have hid := (of_rule?_eq_some hrule).2
  refine congrArg (fun rules => { data with rules := rules })
    (List.map_congr_left fun other hother => ?_)
  by_cases hsame : other.id = ruleId
  · obtain rfl := eq_of_rule?_eq_some h hrule hother hsame
    simp [Firings.timesOf, hid, Rule.fire_eq_firedAt]
  · simp [Firings.timesOf, hid, Ne.symm hsame, hsame, Rule.fire_eq_firedAt]

namespace Rule

theorem mem_or_fire_mem_of_fireIn? {ruleId : String} {timestamp : Int} {rules fired : List Rule}
    {rule : Rule} (h : fireIn? ruleId timestamp rules = some fired) (hrule : rule ∈ rules) :
    rule ∈ fired ∨ rule.fire timestamp ∈ fired := by
  induction rules generalizing fired with
  | nil => exact nomatch h
  | cons first rest ih =>
    rw [fireIn?] at h
    split at h
    · obtain rfl := Option.some.inj h
      rcases List.mem_cons.mp hrule with rfl | hrule
      · exact .inr List.mem_cons_self
      · exact .inl (List.mem_cons_of_mem _ hrule)
    · obtain ⟨others, hothers, rfl⟩ := Option.map_eq_some_iff.mp h
      rcases List.mem_cons.mp hrule with rfl | hrule
      · exact .inl List.mem_cons_self
      · exact (ih hothers hrule).imp (List.mem_cons_of_mem _) (List.mem_cons_of_mem _)

theorem fireIn?_eq_none {ruleId : String} {rules : List Rule} (h : ∀ rule ∈ rules, rule.id ≠ ruleId)
    (timestamp : Int) : fireIn? ruleId timestamp rules = none := by
  induction rules with
  | nil => rfl
  | cons rule rest ih =>
    rw [List.forall_mem_cons] at h
    rw [fireIn?, if_neg h.1, ih h.2]
    rfl

/-- A rule in its columns is only pushed out of them by its counter, or by the time. -/
theorem not_fits_fire {rule : Rule} (h : rule.fits = true) {timestamp : Int}
    (hfire : (rule.fire timestamp).fits = false) :
    fitsWord (rule.fire timestamp).executionCount = false ∨ fitsWord timestamp = false := by
  simp only [fits, fire, Option.all_some, Bool.and_eq_true, Bool.and_eq_false_iff] at h hfire ⊢
  rcases hfire with ((hcreated | hmodified) | hcount) | htime
  · exact absurd (h.1.1.1.symm.trans hcreated) (by simp)
  · exact absurd (h.1.1.2.symm.trans hmodified) (by simp)
  · exact .inl hcount
  · exact .inr htime

end Rule

theorem not_fitsWord_succ {n : Nat} (h : fitsWord n = false) : fitsWord (n + 1 : Nat) = false := by
  rw [← Bool.not_eq_true] at h ⊢
  refine mt (fun hnext => ?_) h
  rw [fitsWord, wordBound, Bool.and_eq_true, decide_eq_true_eq, decide_eq_true_eq] at hnext ⊢
  omega

/-- What recording a firing makes of a session that can save: nothing when the rule is gone, and
else the firing is saved or stalls the session. -/
theorem Store.recordFire_cases {session : Session} (h : session.CanSave) (ruleId : String)
    (timestamp : Int) :
    session.current.rule? ruleId = none ∧ (recordFire ruleId timestamp session).2 = session ∨
      ∃ rule, session.current.rule? ruleId = some rule ∧
        ((rule.fire timestamp).fits = true ∧ (∃ log, (recordFire ruleId timestamp session).2 =
            .ofDatabase { session.current.putRule (rule.fire timestamp) with log := log }) ∨
          (rule.fire timestamp).fits = false ∧
            (recordFire ruleId timestamp session).2 = session.abort) := by
  obtain ⟨hworks, log, hlog⟩ := h
  have hstalled : ¬session.stalled = true := by simp [hworks]
  cases hrule : session.current.rule? ruleId with
  | none => exact .inl ⟨rfl, by simp only [recordFire, Session.apply, if_neg hstalled, hrule]⟩
  | some rule =>
    refine .inr ⟨rule, rfl, ?_⟩
    cases hfits : (rule.fire timestamp).fits with
    | false => exact .inr ⟨rfl, by simp [recordFire, Session.apply, hworks, hrule, hfits]⟩
    | true =>
      have hlog' : (session.current.putRule (rule.fire timestamp)).log.addAll session.unsaved =
          .ok log := hlog
      exact .inl ⟨rfl,
        log, by simp [recordFire, Session.apply, hworks, hrule, hfits, Session.save, hlog']⟩

namespace RuleList

variable {list : RuleList} {session : Session} {timestamp : Int}

/-- A list of the rules that a session lists, when the session can save what it changes. -/
structure Copies (list : RuleList) (session : Session) : Prop where
  sound : session.Sound
  canSave : session.CanSave
  rules_eq : list.rules = session.current.listRules

/-- A rule has been counted past its columns, at a time or before. -/
def OverflownAt (timestamp : Int) (list : RuleList) : Prop :=
  ∃ rule ∈ list.rules, fitsWord rule.executionCount = false ∨
    rule.lastExecuted = some timestamp ∧ fitsWord timestamp = false

namespace Copies

theorem ids_nodup (h : list.Copies session) : (list.rules.map Rule.id).Nodup := by
  rw [h.rules_eq]
  exact ((List.mergeSort_perm ..).map Rule.id).nodup_iff.mpr h.sound.current_tidy.distinct

theorem fits (h : list.Copies session) : ∀ rule ∈ list.rules, rule.fits = true := by
  rw [h.rules_eq]
  exact fun rule hrule => h.sound.current_tidy.fits rule (List.mem_mergeSort.mp hrule)

theorem listRules (h : list.Copies session) : (Store.listRules session).1 = .ok list.rules := by
  rw [Store.listRules, Session.look_fst, h.canSave.1, h.rules_eq]
  rfl

end Copies

/-- What has been counted past its columns stays so when rules fire at the same time. -/
theorem OverflownAt.recordFire (h : list.OverflownAt timestamp) (ruleId : String) :
    (list.recordFire ruleId timestamp).2.OverflownAt timestamp := by
  obtain ⟨rule, hrule, hover⟩ := h
  unfold RuleList.recordFire
  cases hfire : Rule.fireIn? ruleId timestamp list.rules with
  | none => exact ⟨rule, hrule, hover⟩
  | some rules =>
    rcases Rule.mem_or_fire_mem_of_fireIn? hfire hrule with hmem | hmem
    · exact ⟨rule, hmem, hover⟩
    · exact ⟨rule.fire timestamp, hmem, hover.imp not_fitsWord_succ fun h => ⟨rfl, h.2⟩⟩

theorem OverflownAt.not_fits (h : list.OverflownAt timestamp) :
    ¬∀ rule ∈ list.rules, rule.fits = true := by
  obtain ⟨rule, hrule, hover⟩ := h
  intro hfits
  have hfit := hfits rule hrule
  rw [Rule.fits, Bool.and_eq_true, Bool.and_eq_true] at hfit
  rcases hover with hcount | ⟨hlast, htime⟩
  · exact Bool.false_ne_true (hcount.symm.trans hfit.1.2)
  · rw [hlast, Option.all_some] at hfit
    exact Bool.false_ne_true (htime.symm.trans hfit.2)

theorem Copies.rules_recordFire (h : list.Copies session) {ruleId : String} {rule : Rule}
    (hrule : session.current.rule? ruleId = some rule) (timestamp : Int) :
    (list.recordFire ruleId timestamp).2.rules =
      (session.current.putRule (rule.fire timestamp)).listRules := by
  let count (other : Rule) := other.firedAt (Firings.timesOf other.id [(ruleId, timestamp)])
  rw [Database.putRule_fire h.sound.current_tidy.distinct hrule, recordFire_snd h.ids_nodup,
    firedAt, h.rules_eq]
  exact (@Database.listRules_map _ count (fun _ => rfl) fun _ => rfl).symm

/-- What a firing makes of a session and of a copy of its rules: both count it and the copy is still
one, or it has no place in the columns and stalls the session. -/
theorem Copies.recordFire (h : list.Copies session) (ruleId : String) (timestamp : Int) :
    (list.recordFire ruleId timestamp).2.Copies (Store.recordFire ruleId timestamp session).2 ∨
      (Store.recordFire ruleId timestamp session).2.stalled = true ∧
        (list.recordFire ruleId timestamp).2.OverflownAt timestamp := by
  have hsound : (Store.recordFire ruleId timestamp session).2.Sound :=
    h.sound.step (.fire ruleId timestamp session)
  rcases Store.recordFire_cases h.canSave ruleId timestamp with
    ⟨hrule, hstored⟩ | ⟨rule, hrule, ⟨hfits, log, hstored⟩ | ⟨hfits, hstored⟩⟩
  · have hids : ∀ rule ∈ list.rules, rule.id ≠ ruleId := by
      intro rule hmem
      rw [h.rules_eq] at hmem
      simpa using List.find?_eq_none.mp hrule rule (List.mem_mergeSort.mp hmem)
    rw [hstored, RuleList.recordFire, Rule.fireIn?_eq_none hids]
    exact .inl h
  · rw [hstored] at hsound ⊢
    exact .inl ⟨hsound, ⟨rfl, log, rfl⟩, h.rules_recordFire hrule timestamp⟩
  · rw [hstored]
    refine .inr ⟨rfl, rule.fire timestamp, ?_, ?_⟩
    · rw [h.rules_recordFire hrule]
      exact List.mem_mergeSort.mpr
        (List.mem_map.mpr ⟨rule, (Database.of_rule?_eq_some hrule).1, if_pos rfl⟩)
    · have hmem := (Database.of_rule?_eq_some hrule).1
      exact (Rule.not_fits_fire (h.sound.current_tidy.fits rule hmem) hfits).imp_right fun htime =>
        ⟨rfl, htime⟩

end RuleList

end MailTriage

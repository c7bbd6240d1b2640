import MailTriage.Proofs.Store.Session
import Mathlib.Data.List.Sort

/-!
# Replacing the stored rules

Replacing all rules either gives the store the new ones, or leaves it as it was once the session has
been rolled back; it succeeds exactly when no identifier comes twice and every rule can be written,
in a session that can save at all. The new rules are listed in the order of their creation, and
those of one time by their identifiers, with every part as it was given but for the values of
conditions: these come back as their column keeps them. So the rules come back as they were given
exactly when the column keeps all their values. The listed rules themselves have been through the
column, and replacing the rules by them changes nothing exactly when it reads their floating numbers
back.
-/

namespace MailTriage

/-! ## The order of listed rules -/

namespace Rule

/-- A rule is listed before another: it was created before, or at the same time with a lesser
identifier. -/
def Before (a b : Rule) : Prop :=
  a.createdAt < b.createdAt ∨ (a.createdAt = b.createdAt ∧ a.id < b.id)

/-- Rules as they are listed: the same ones, each before all that follow. -/
structure Listed (rules listed : List Rule) : Prop where
  same : listed.Perm rules
  sorted : listed.Pairwise Before

theorem listedBefore_iff {a b : Rule} :
    a.listedBefore b = true ↔
      a.createdAt < b.createdAt ∨ (a.createdAt = b.createdAt ∧ a.id ≤ b.id) := by
  simp only [listedBefore, Bool.or_eq_true, Bool.and_eq_true, decide_eq_true_eq, Bool.not_eq_true',
    decide_eq_false_iff_not, String.not_lt]

theorem listedBefore_trans (a b c : Rule) (hab : a.listedBefore b = true)
    (hbc : b.listedBefore c = true) :
    a.listedBefore c = true := by
  rw [listedBefore_iff] at *
  rcases hab with hab | ⟨hab, hid⟩ <;> rcases hbc with hbc | ⟨hbc, hid'⟩
  · exact .inl (hab.trans hbc)
  · exact .inl (hbc ▸ hab)
  · exact .inl (hab ▸ hbc)
  · exact .inr ⟨hab.trans hbc, String.le_trans hid hid'⟩

theorem listedBefore_total (a b : Rule) : (a.listedBefore b || b.listedBefore a) = true := by
  rw [Bool.or_eq_true, listedBefore_iff, listedBefore_iff]
  rcases lt_trichotomy a.createdAt b.createdAt with h | h | h
  · exact .inl (.inl h)
  · exact (String.le_total a.id b.id).imp (fun hid => .inr ⟨h, hid⟩) (fun hid => .inr ⟨h.symm, hid⟩)
  · exact .inr (.inl h)

/-- Of two rules with distinct identifiers one is listed before the other. -/
theorem before_of_listedBefore {a b : Rule} (h : a.listedBefore b = true) (hid : a.id ≠ b.id) :
    a.Before b := by
  refine (listedBefore_iff.mp h).imp_right fun h => ⟨h.1, ?_⟩
  rw [← String.not_le]
  exact fun hle => hid (String.le_antisymm h.2 hle)

theorem Before.listedBefore {a b : Rule} (h : a.Before b) : a.listedBefore b = true :=
  listedBefore_iff.mpr (h.imp_right fun h => ⟨h.1, String.not_lt.mp (String.lt_asymm h.2)⟩)

theorem listed_mergeSort {rules : List Rule} (h : (rules.map id).Nodup) :
    Listed rules (rules.mergeSort listedBefore) where
  same := List.mergeSort_perm ..
  sorted := by
    have hids : (rules.mergeSort listedBefore).Pairwise fun a b => a.id ≠ b.id :=
      List.pairwise_map.mp (((List.mergeSort_perm ..).map id).nodup_iff.mpr h)
    have hordered : (rules.mergeSort listedBefore).Pairwise fun a b => a.listedBefore b = true :=
      List.pairwise_mergeSort listedBefore_trans listedBefore_total rules
    exact hordered.imp₂ (fun _ _ => before_of_listedBefore) hids

end Rule

/-! ## One replacement -/

/-- Given rules take the place of all rules, or spoil it all. -/
theorem Database.addRules_instead (column : NumberColumn) (rules : List Rule) (data : Database) :
    ((∀ rule ∈ rules, rule.fits = true) ∧ (∀ rule ∈ rules, rule.isWritable = true) ∧
      (rules.map Rule.id).Nodup ∧
      addRules column rules { data with rules := [] } =
        .ok { data with rules := rules.map (Rule.stored column) }) ∨
    (¬((∀ rule ∈ rules, rule.fits = true) ∧ (∀ rule ∈ rules, rule.isWritable = true) ∧
      (rules.map Rule.id).Nodup) ∧
      ∃ trouble, addRules column rules { data with rules := [] } = .error trouble) := by
  have hiff :=
    fun data' => @addRules_eq_ok_iff column rules { data with rules := [] } data' List.nodup_nil
  cases hadd : addRules column rules { data with rules := [] } with
  | ok data' =>
    obtain ⟨hfits, hwritable, hids, rfl⟩ := (hiff data').mp hadd
    exact .inl ⟨hfits, hwritable, hids, rfl⟩
  | error trouble =>
    refine .inr ⟨fun h => ?_, trouble, rfl⟩
    exact nomatch hadd.symm.trans ((hiff _).mpr ⟨h.1, h.2.1, h.2.2, rfl⟩)

/-- A session that can save: it is not stalled, and the entries that wait for the log can go into
it. -/
def Session.CanSave (session : Session) : Prop :=
  session.stalled = false ∧ ∃ log, session.current.log.addAll session.unsaved = .ok log

theorem Session.look_fst {α : Type} (find : Database → α) (session : Session) :
    (session.look find).1 = if session.stalled then .error .stalled
      else .ok (find session.current) := by
  unfold Session.look Session.apply
  split <;> rfl

namespace Store

theorem listRules_eq_ok {session : Session} {listed : List Rule}
    (h : (listRules session).1 = .ok listed) :
    session.stalled = false ∧ session.current.listRules = listed := by
  rw [listRules, Session.look_fst] at h
  split at h
  · exact nomatch h
  · next hstalled => exact ⟨Bool.not_eq_true _ ▸ hstalled, Except.ok.inj h⟩

/-- A replacement can be done: the session can save, no identifier comes twice, and every rule is
taken. -/
structure Admits (taken : Rule → Bool) (rules : List Rule) (session : Session) : Prop where
  canSave : session.CanSave
  distinct : (rules.map Rule.id).Nodup
  taken : ∀ rule ∈ rules, taken rule = true

/-- A replacement takes place as a whole or fails as a whole, and tells which. -/
theorem replaceRules_cases (column : NumberColumn) (rules : List Rule) (session : Session)
    (hfits : ∀ rule ∈ rules, rule.fits = true) :
    (Admits Rule.isWritable rules session ∧ ∃ log : Journal,
      session.current.log.addAll session.unsaved = .ok log ∧ replaceRules column rules session =
        (.ok rules.length,
          .ofDatabase { session.current with rules := rules.map (Rule.stored column),
                                             log := log })) ∨
    (¬Admits Rule.isWritable rules session ∧ ∃ trouble after,
      replaceRules column rules session = (.error trouble, after) ∧
        after.saved = session.saved) := by
  by_cases hstalled : session.stalled = true
  · refine .inr ⟨fun h => ?_, .stalled, session, if_pos hstalled, rfl⟩
    exact Bool.false_ne_true (h.canSave.1.symm.trans hstalled)
  rcases Database.addRules_instead column rules session.current with
    ⟨-, hwritable, hids, hadd⟩ | ⟨h, trouble, hadd⟩
  · cases hlog : session.current.log.addAll session.unsaved with
    | ok log =>
      refine .inl ⟨⟨⟨Bool.not_eq_true _ ▸ hstalled, log, hlog⟩, hids, hwritable⟩, log, rfl, ?_⟩
      simp [replaceRules, Session.apply, hstalled, hadd, Session.save, hlog]
    | error trouble =>
      refine .inr ⟨fun h => ?_, trouble, session.abort, ?_, rfl⟩
      · obtain ⟨log, hok⟩ := h.canSave.2
        exact nomatch hlog.symm.trans hok
      · simp [replaceRules, Session.apply, hstalled, hadd, Session.save, hlog]
  · refine .inr ⟨fun hall => h ⟨hfits, hall.taken, hall.distinct⟩, trouble, session.abort, ?_, rfl⟩
    simp [replaceRules, Session.apply, hstalled, hadd]

/-- Replacing all rules by given ones when the store is to take some of them, and to keep each as
`kept` has it: it succeeds exactly for distinct identifiers and rules that are taken, in a session
that can save, and then the kept rules are listed in order, and the enabled ones among them; else
what was listed is listed again after a rollback. -/
structure Replaces (column : NumberColumn) (taken : Rule → Bool) (kept : Rule → Rule)
    (rules : List Rule) (session : Session) : Prop where
  succeeds_iff :
    (∃ count, (replaceRules column rules session).1 = .ok count) ↔ Admits taken rules session
  lists : ∀ count after, replaceRules column rules session = (.ok count, after) →
    count = rules.length ∧ ∃ listed, Rule.Listed (rules.map kept) listed ∧
      (listRules after).1 = .ok listed ∧ (listEnabledRules after).1 =
        .ok (listed.filter Rule.enabled)
  restores : ∀ trouble after before, replaceRules column rules session = (.error trouble, after) →
    (listRules session).1 = .ok before → (listRules after.rollback).1 = .ok before

section

variable {column : NumberColumn} {session : Session} (hsession : session.Sound) {rules : List Rule}
  (hfits : ∀ rule ∈ rules, rule.fits = true)

include hsession hfits

/-- The store takes the rules that can be written, and keeps them as its columns do. -/
theorem replaces_stored (column : NumberColumn) :
    Replaces column Rule.isWritable (Rule.stored column) rules session := by
  rcases replaceRules_cases column rules session hfits with
    ⟨h, log, -, hreplace⟩ | ⟨h, trouble, after, hreplace, hsaved⟩
  · refine ⟨by simp [hreplace, h], fun count after hafter => ?_, fun _ _ _ herror => ?_⟩
    · rw [hreplace] at hafter
      cases hafter
      have hids : ((rules.map (Rule.stored column)).map Rule.id).Nodup :=
        (Rule.stored_ids column rules).symm ▸ h.distinct
      exact ⟨rfl, _, Rule.listed_mergeSort hids, rfl, rfl⟩
    · exact absurd (hreplace.symm.trans herror) (by simp)
  · refine ⟨by simp [hreplace, h], fun _ _ hok => ?_,
      fun trouble' after' before hafter hbefore => ?_⟩
    · exact absurd (hreplace.symm.trans hok) (by simp)
    · rw [hreplace] at hafter
      cases hafter
      rw [listRules, Session.look_fst] at hbefore
      split at hbefore
      · cases hbefore
      · rw [← hbefore, Database.listRules, hsession.rules_eq, ← hsaved]
        rfl

/-- Whatever is given is taken and listed only when it can be written and the columns keep it. -/
theorem isKept_of_replaces (h : Replaces column (fun _ => true) (fun rule => rule) rules session)
    (hsave : session.CanSave) (hids : (rules.map Rule.id).Nodup) :
    ∀ rule ∈ rules, rule.isWritable = true ∧ rule.isKept column = true := by
  have hstored := replaces_stored hsession hfits column
  obtain ⟨count, hcount⟩ := h.succeeds_iff.mpr ⟨hsave, hids, fun _ _ => rfl⟩
  have hwritable := (hstored.succeeds_iff.mp ⟨count, hcount⟩).taken
  have hreplace :
      replaceRules column rules session = (.ok count, (replaceRules column rules session).2) :=
    Prod.ext hcount rfl
  obtain ⟨-, given, hgiven, hlists, -⟩ := h.lists _ _ hreplace
  obtain ⟨-, stored, hkept, hlists', -⟩ := hstored.lists _ _ hreplace
  have hsame : given = stored := Except.ok.inj (hlists.symm.trans hlists')
  have hperm : (rules.map fun rule => rule).Perm (rules.map (Rule.stored column)) :=
    hgiven.same.symm.trans (hsame ▸ hkept.same)
  rw [List.map_id'] at hperm
  intro rule hrule
  obtain ⟨original, horiginal, hrule'⟩ := List.mem_map.mp (hperm.mem_iff.mp hrule)
  -- the column changes no identifier, so a given rule is listed for itself
  have hid : (original.stored column).id = rule.id := congrArg Rule.id hrule'
  obtain rfl : original = rule := List.inj_on_of_nodup_map hids horiginal hrule hid
  exact ⟨hwritable original hrule, (Rule.stored_eq_self_iff column original).mp hrule'⟩

omit hsession hfits in
/-- Which rules are taken, and how they are kept, matters for rules with distinct identifiers in a
session that can save. -/
theorem Replaces.congr {taken taken' : Rule → Bool} {kept kept' : Rule → Rule}
    (h : Replaces column taken kept rules session)
    (hsame : session.CanSave → (rules.map Rule.id).Nodup →
      ∀ rule ∈ rules, taken rule = taken' rule ∧ kept rule = kept' rule) :
    Replaces column taken' kept' rules session where
  succeeds_iff := by
    rw [h.succeeds_iff]
    constructor
    · rintro ⟨hsave, hids, htaken⟩
      exact ⟨hsave, hids, fun rule hrule => (hsame hsave hids rule hrule).1 ▸ htaken rule hrule⟩
    · rintro ⟨hsave, hids, htaken⟩
      exact ⟨hsave, hids, fun rule hrule => (hsame hsave hids rule hrule).1 ▸ htaken rule hrule⟩
  restores := h.restores
  lists count after hreplace := by
    obtain ⟨hsave, hids, -⟩ := h.succeeds_iff.mp ⟨count, by rw [hreplace]⟩
    rw [← List.map_congr_left fun rule hrule => (hsame hsave hids rule hrule).2]
    exact h.lists count after hreplace

end

/-- The listed rules are replaced by what the column gives back of them, and stay the same exactly
when their floating numbers are read back. -/
theorem replaceRules_listed {session : Session} (hsession : session.Sound) (hsave : session.CanSave)
    (column : NumberColumn) {listed : List Rule} (hlisted : (listRules session).1 = .ok listed) :
    (∃ log : Journal, session.current.log.addAll session.unsaved = .ok log ∧
      replaceRules column listed session = (.ok listed.length,
        .ofDatabase { session.current with rules := listed.map (Rule.stored column),
                                           log := log })) ∧
    (listRules (replaceRules column listed session).2).1 = .ok (listed.map (Rule.stored column)) ∧
    (listed.map (Rule.stored column) = listed ↔ ∀ rule ∈ listed, rule.readsBack column = true) := by
  have htidy := hsession.current_tidy
  rw [listRules, Session.look_fst, hsave.1] at hlisted
  have hlists : Rule.Listed session.current.rules listed :=
    Except.ok.inj hlisted ▸ Rule.listed_mergeSort htidy.distinct
  have hids : (listed.map Rule.id).Nodup := (hlists.same.map Rule.id).nodup_iff.mpr htidy.distinct
  have hsorted : (listed.map (Rule.stored column)).mergeSort Rule.listedBefore =
      listed.map (Rule.stored column) := by
    refine List.mergeSort_of_pairwise (List.pairwise_map.mpr ?_)
    exact hlists.sorted.imp Rule.Before.listedBefore
  have hadmits : Admits Rule.isWritable listed session :=
    ⟨hsave, hids, fun rule hrule => htidy.writable rule (hlists.same.subset hrule)⟩
  rcases replaceRules_cases column listed session fun rule hrule => htidy.fits rule
    (hlists.same.subset hrule) with
    ⟨-, log, hlog, hreplace⟩ | ⟨h, -⟩
  · refine ⟨⟨log, hlog, hreplace⟩, ?_, ?_⟩
    · rw [hreplace]
      exact congrArg Except.ok hsorted
    · nth_rewrite 2 [← List.map_id' listed]
      rw [List.map_inj_left]
      refine forall₂_congr fun rule hrule => ?_
      rw [Rule.stored_eq_self_iff,
        Rule.isKept_of_isNormal (htidy.normal rule (hlists.same.subset hrule))]
  · exact absurd hadmits h

/-- Replacing all rules by given ones succeeds exactly when they can be written, and is faithful
exactly when the column of values keeps every value among them. The listed rules are replaced by
themselves, but for floating numbers that the column does not read back. -/
theorem replaceRules_faithful_iff {session : Session} (hsession : session.Reachable)
    (column : NumberColumn) {rules : List Rule} (hfits : ∀ rule ∈ rules, rule.fits = true) :
    Replaces column Rule.isWritable (Rule.stored column) rules session ∧
    (Replaces column (fun _ => true) (fun rule => rule) rules session ↔
      (session.CanSave → (rules.map Rule.id).Nodup →
        ∀ rule ∈ rules, rule.isWritable = true ∧ rule.isKept column = true)) ∧
    (session.CanSave → ∀ listed, (listRules session).1 = .ok listed →
      (∃ log : Journal, session.current.log.addAll session.unsaved = .ok log ∧
        replaceRules column listed session = (.ok listed.length,
          .ofDatabase { session.current with rules := listed.map (Rule.stored column),
                                             log := log })) ∧
      (listRules (replaceRules column listed session).2).1 = .ok (listed.map (Rule.stored column)) ∧
      (listed.map (Rule.stored column) = listed ↔ ∀ rule ∈ listed,
        rule.readsBack column = true)) := by
  have hsound := hsession.sound
  have hstored := replaces_stored hsound hfits column
  refine ⟨hstored,
    ⟨isKept_of_replaces hsound hfits, fun hkept => hstored.congr fun hsave hids rule hrule => ?_⟩,
    fun hsave listed => replaceRules_listed hsound hsave column⟩
  obtain ⟨hwritable, hkept⟩ := hkept hsave hids rule hrule
  exact ⟨hwritable, (Rule.stored_eq_self_iff column rule).mpr hkept⟩

def wholeFloatRule : Rule :=
  { id := "r", name := "Whole", createdAt := 1, lastModified := 1
    conditions :=
      [{ id := "c", kind := "subject", operator := "equals",
         value := some (.float (Binary64.ofInt 1)) }] }

/-- On an empty store, a rule with a whole floating value takes the place of all rules and comes
back with another value. -/
theorem replaceRules_wholeFloat :
    (∀ rule ∈ [wholeFloatRule], rule.fits = true) ∧
      Replaces .scaling Rule.isWritable (Rule.stored .scaling) [wholeFloatRule] (.ofDatabase {}) ∧
      ¬Replaces .scaling (fun _ => true) (fun rule => rule) [wholeFloatRule] (.ofDatabase {}) := by
  have hfits : ∀ rule ∈ [wholeFloatRule], rule.fits = true := by decide
  have h := @replaceRules_faithful_iff (.ofDatabase {}) .refl .scaling _ hfits
  refine ⟨hfits, h.1, fun hsame => ?_⟩
  have hkept := (h.2.1.mp hsame ⟨rfl, [], rfl⟩ (by decide) wholeFloatRule List.mem_cons_self).2
  exact absurd hkept (by decide +kernel)

end Store

end MailTriage

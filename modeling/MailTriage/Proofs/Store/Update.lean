import MailTriage.Proofs.Store.Dates

/-!
# Updates of stored rules

An update of a rule is done or leaves the store as it was saved. One that is done is saved, and
changes nothing but the fields of one rule that it names. The store then has the rule as its columns
keep it, which is the rule that the update answers exactly when they keep all its values; what an
update does not name has been through them already, and comes back when they read its floating
numbers back. A rule that is switched twice is what it was then, but for the time of the change.
-/

namespace MailTriage

open Store

variable {session : Session} {column : NumberColumn} {ruleId : String} {updates : Fields}
  {supply : Supply} {old updated : Rule}

/-- An update can be done: the session can save, the rule is there, and what is read from its form
with the updates fits the columns and can be written into them. -/
structure Session.Admits (session : Session) (ruleId : String) (updates : Fields) (supply : Supply)
    (old updated : Rule) : Prop where
  canSave : session.CanSave
  found : session.current.rule? ruleId = some old
  read : (Rule.read (.object (old.formWith (updates.stamped supply.now))) supply).1 = .ok updated
  fits : updated.fits = true
  writable : updated.isWritable = true

namespace Store

theorem getRule_fst (h : session.stalled = false) (ruleId : String) :
    (getRule ruleId session).1 =
      (session.current.rule? ruleId).elim (.error (.noRule ruleId)) .ok := by
  unfold getRule Session.apply
  rw [h]
  cases hrule : session.current.rule? ruleId <;> simp [hrule]

/-- An update that can be done is saved, with what waits for the log. -/
theorem updateRule_of_admits (column : NumberColumn)
    (h : session.Admits ruleId updates supply old updated) :
    (updateRule column ruleId updates supply session).1 = .ok updated ∧ ∃ log,
      session.current.log.addAll session.unsaved = .ok log ∧
      (updateRule column ruleId updates supply session).2.2 =
        .ofDatabase { session.current.putRule (updated.stored column) with log := log } := by
  obtain ⟨hworks, log, hlog⟩ := h.canSave
  have hget : getRule ruleId session = (.ok old, session) := by
    refine Prod.ext ?_ (Session.getRule_session ruleId session)
    rw [getRule_fst hworks, h.found]
    rfl
  have hread := h.read
  generalize hform :
      Rule.read (.object (old.formWith (updates.stamped supply.now))) supply = outcome at hread
  obtain ⟨_, issued⟩ := outcome
  obtain rfl : _ = Except.ok updated := hread
  have hlog' :
      (session.current.putRule (updated.stored column)).log.addAll session.unsaved = .ok log := hlog
  have hdone : updateRule column ruleId updates supply session =
      (.ok updated, issued,
        .ofDatabase { session.current.putRule (updated.stored column) with log := log }) := by
    rw [updateRule, hget]
    dsimp only
    rw [← Fields.stamped, hform]
    simp [Session.apply, writeRule, hworks, h.fits, h.writable, Session.save, hlog']
  rw [hdone]
  exact ⟨rfl, log, hlog, rfl⟩

theorem updateRule_of_not_admits (column : NumberColumn)
    (h : ¬∃ old updated, session.Admits ruleId updates supply old updated) :
    (∃ fault, (updateRule column ruleId updates supply session).1 = .error fault) ∧
      (updateRule column ruleId updates supply session).2.2.saved = session.saved := by
  rcases updateRule_cases column ruleId updates supply session with
    ⟨fault, hresult, hsession⟩ | ⟨old, updated, hfound, hread, hresult, hsession⟩
  · exact ⟨⟨fault, hresult⟩, congrArg Session.saved hsession⟩
  · rw [hresult, hsession]
    cases hwritten : (Session.apply (writeRule column updated) session).1 with
    | error trouble => exact ⟨⟨_, rfl⟩, Session.saved_of_error hwritten⟩
    | ok written =>
      obtain ⟨hsave, hfits, hwritable, -⟩ := writeRule_ok hwritten
      exact absurd ⟨old, updated, hsave, hfound, hread, hfits, hwritable⟩ h

/-- What an update that is done changes: the fields of one rule that it names, or more exactly, what
the columns keep of them. The rule that it answers is got afterwards when they keep all its values.
What it does not name is the same in the store when they read the old floating numbers back, or when
it names the conditions. -/
structure Touched (column : NumberColumn) (ruleId : String) (updates : Fields)
    (session after : Session) (updated : Rule) : Prop where
  unnamed : ∃ old, (getRule ruleId session).1 = .ok old ∧ old.KeepsUnnamed updates updated ∧
    (old.KeepsUnnamed updates (updated.stored column) ↔
      (updates.LeavesOut ["conditions"] → old.readsBack column = true))
  stored : (getRule ruleId after).1 = .ok (updated.stored column)
  answered_iff : (getRule ruleId after).1 = .ok updated ↔ updated.isKept column = true
  others : ∀ other, other ≠ ruleId → (getRule other after).1 = (getRule other session).1
  ids : after.current.rules.map Rule.id = session.current.rules.map Rule.id
  saved : after.rollback = after

/-- What an update comes to: it is done exactly when it can be, and touches what it names, or it is
taken back by a rollback. -/
structure Updates (column : NumberColumn) (ruleId : String) (updates : Fields) (supply : Supply)
    (session : Session) : Prop where
  succeeds_iff : (∃ updated, (updateRule column ruleId updates supply session).1 = .ok updated) ↔
    ∃ old updated, session.Admits ruleId updates supply old updated
  touched : ∀ updated, (updateRule column ruleId updates supply session).1 = .ok updated →
    Touched column ruleId updates session
      (updateRule column ruleId updates supply session).2.2 updated
  rollback : ∀ fault, (updateRule column ruleId updates supply session).1 = .error fault →
    (updateRule column ruleId updates supply session).2.2.rollback = session.rollback

end Store

/-- What a rule leaves alone of another that the columns have kept is kept by them again when they
read it back. -/
theorem Rule.KeepsUnnamed.stored_iff (h : old.KeepsUnnamed updates updated)
    (hnormal : old.isNormal = true) :
    old.KeepsUnnamed updates (updated.stored column) ↔
      (updates.LeavesOut ["conditions"] → old.readsBack column = true) := by
  have hsame (hleft : updates.LeavesOut ["conditions"]) :
      (updated.stored column).conditions = (old.stored column).conditions :=
    congrArg (List.map (Condition.stored column)) (h.conditions hleft)
  have hold : (old.stored column).conditions = old.conditions ↔ old.readsBack column = true := by
    rw [Rule.stored_conditions_eq_iff, Rule.isKept_of_isNormal hnormal]
  constructor
  · intro hkeeps hleft
    exact hold.mp ((hsame hleft).symm.trans (hkeeps.conditions hleft))
  · intro hreads
    exact { h with conditions := fun hleft => (hsame hleft).trans (hold.mpr (hreads hleft)) }

namespace Store

theorem touched_of_admits (h : session.Sound) (hkeys : (updates.map Prod.fst).Nodup)
    (hadmits : session.Admits ruleId updates supply old updated) :
    Touched column ruleId updates session
      (updateRule column ruleId updates supply session).2.2 updated := by
  obtain ⟨-, log, -, hafter⟩ := updateRule_of_admits column hadmits
  obtain ⟨hmem, hid⟩ := Database.of_rule?_eq_some hadmits.found
  have hold := h.current_tidy.normal old hmem
  have hunnamed := Rule.keepsUnnamed_of_update hkeys hadmits.read
  have hworks := hadmits.canSave.1
  have hstored : (getRule ruleId (updateRule column ruleId updates supply session).2.2).1 =
      .ok (updated.stored column) := by
    have hfound : (session.current.putRule (updated.stored column)).rule? ruleId =
        some (updated.stored column) :=
      Database.rule?_putRule_self hadmits.found (hunnamed.id.trans hid)
    rw [hafter, getRule_fst rfl]
    change ((session.current.putRule (updated.stored column)).rule? ruleId).elim _ _ = _
    rw [hfound]
    rfl
  refine ⟨⟨old, ?_, hunnamed, hunnamed.stored_iff hold⟩, hstored, ?_,
    fun other hother => ?_, ?_, ?_⟩
  · rw [getRule_fst hworks, hadmits.found]
    rfl
  · rw [hstored, Except.ok.injEq, Rule.stored_eq_self_iff]
  · have hsame : (session.current.putRule (updated.stored column)).rule? other =
        session.current.rule? other :=
      Database.rule?_putRule_of_ne session.current (hother.trans_eq (hunnamed.id.trans hid).symm)
    rw [hafter, getRule_fst rfl, getRule_fst hworks, ← hsame]
    rfl
  · rw [hafter]
    exact Database.ids_putRule session.current (updated.stored column)
  · rw [hafter]
    rfl

theorem updates_of_sound (h : session.Sound) (hkeys : (updates.map Prod.fst).Nodup)
    (column : NumberColumn) (ruleId : String) (supply : Supply) :
    Updates column ruleId updates supply session := by
  by_cases hadmits : ∃ old updated, session.Admits ruleId updates supply old updated
  · obtain ⟨old, updated, hadmits⟩ := hadmits
    have hresult := (updateRule_of_admits column hadmits).1
    refine ⟨iff_of_true ⟨_, hresult⟩ ⟨_, _, hadmits⟩, fun other hother => ?_,
      fun fault hfault => nomatch hresult.symm.trans hfault⟩
    obtain rfl := Except.ok.inj (hresult.symm.trans hother)
    exact touched_of_admits h hkeys hadmits
  · obtain ⟨⟨fault, hresult⟩, hsaved⟩ := updateRule_of_not_admits column hadmits
    refine ⟨iff_of_false (fun ⟨_, hok⟩ => nomatch hresult.symm.trans hok) hadmits,
      fun _ hok => (nomatch hresult.symm.trans hok), fun _ _ => ?_⟩
    rw [Session.rollback, hsaved, Session.rollback]

/-! ## Switching twice -/

theorem toggleRule_touched (h : session.Sound) (hsave : session.CanSave) (column : NumberColumn)
    (hget : (getRule ruleId session).1 = .ok old) (hclock : fitsWord supply.now = true) :
    (toggleRule column ruleId supply session).1 =
        .ok { old with enabled := !old.enabled, lastModified := supply.now } ∧
      Touched column ruleId [("enabled", .bool !old.enabled)] session
        (toggleRule column ruleId supply session).2.2
        { old with enabled := !old.enabled, lastModified := supply.now } := by
  have hfound := Session.getRule_ok hget
  have hmem := (Database.of_rule?_eq_some hfound).1
  have hfits := h.current_tidy.fits old hmem
  have hadmits : session.Admits ruleId [("enabled", .bool !old.enabled)] supply old
      { old with enabled := !old.enabled, lastModified := supply.now } := by
    refine ⟨hsave, hfound, ?_, ?_, h.current_tidy.writable old hmem⟩
    · rw [Rule.read_switched]
      rfl
    · simp only [Rule.fits, Bool.and_eq_true] at hfits ⊢
      exact ⟨⟨⟨hfits.1.1.1, hclock⟩, hfits.1.2⟩, hfits.2⟩
  have htoggle : toggleRule column ruleId supply session =
      updateRule column ruleId [("enabled", .bool !old.enabled)] supply session := by
    have hsession : getRule ruleId session = (.ok old, session) :=
      Prod.ext hget (Session.getRule_session ruleId session)
    rw [toggleRule, hsession]
  rw [htoggle]
  exact ⟨(updateRule_of_admits column hadmits).1, touched_of_admits h (by simp) hadmits⟩

/-- A rule that is switched twice is what it was, but for the time of the change, and no other rule
is touched. -/
structure SwitchesBack (column : NumberColumn) (ruleId : String) (first second : Supply)
    (session : Session) (old : Rule) : Prop where
  once : (toggleRule column ruleId first session).1 =
    .ok { old with enabled := !old.enabled, lastModified := first.now }
  twice : (toggleRule column ruleId second (toggleRule column ruleId first session).2.2).1 =
    .ok { old with lastModified := second.now }
  got : (getRule ruleId
    (toggleRule column ruleId second (toggleRule column ruleId first session).2.2).2.2).1 =
    .ok { old with lastModified := second.now }
  others : ∀ other, other ≠ ruleId →
    (getRule other
      (toggleRule column ruleId second (toggleRule column ruleId first session).2.2).2.2).1 =
      (getRule other session).1

theorem switchesBack_iff (h : session.Sound) (hsave : session.CanSave) (column : NumberColumn)
    (hget : (getRule ruleId session).1 = .ok old) {first second : Supply}
    (hfirst : fitsWord first.now = true) (hsecond : fitsWord second.now = true) :
    SwitchesBack column ruleId first second session old ↔ old.readsBack column = true := by
  have hnormal := h.current_tidy.normal old (Database.of_rule?_eq_some (Session.getRule_ok hget)).1
  have hkept : old.isKept column = old.readsBack column := Rule.isKept_of_isNormal hnormal column
  obtain ⟨honce, htouched⟩ := toggleRule_touched h hsave column hget hfirst
  have hsave' : (toggleRule column ruleId first session).2.2.CanSave := by
    rw [← htouched.saved]
    exact ⟨rfl, _, rfl⟩
  obtain ⟨htwice, htouched'⟩ :=
    toggleRule_touched (h.toggleRule column ruleId first) hsave' column htouched.stored hsecond
  constructor
  · intro hback
    have hanswer := congrArg Rule.conditions (Except.ok.inj (htwice.symm.trans hback.twice))
    rw [← hkept, ← Rule.stored_conditions_eq_iff]
    exact hanswer
  · intro hreads
    have hstored : old.conditions.map (Condition.stored column) = old.conditions :=
      (Rule.stored_conditions_eq_iff column old).mpr (hkept.trans hreads)
    simp only [Rule.stored, hstored, Bool.not_not] at htwice htouched'
    refine ⟨honce, htwice, htouched'.answered_iff.mpr (hkept.trans hreads), fun other hother => ?_⟩
    exact (htouched'.others other hother).trans (htouched.others other hother)

/-! ## In every state -/

/-- Updates are atomic and touch what they name, and the rule that an update answers is got
afterwards exactly when the columns keep its values. Switching a rule twice gives it back exactly
when they read its floating numbers back. -/
theorem updateRule_touched (h : session.Reachable) (column : NumberColumn) (ruleId : String)
    {updates : Fields} (hkeys : (updates.map Prod.fst).Nodup) (supply : Supply) :
    Updates column ruleId updates supply session ∧
      ∀ old first second, session.CanSave → (getRule ruleId session).1 = .ok old →
        fitsWord first.now = true →
        fitsWord second.now = true →
          (SwitchesBack column ruleId first second session old ↔ old.readsBack column = true) :=
  ⟨updates_of_sound h.sound hkeys column ruleId supply, fun _ _ _ hsave hget hfirst hsecond =>
    switchesBack_iff h.sound hsave column hget hfirst hsecond⟩

/-- The form of a condition that compares with a whole number past the column of values. -/
def pastColumn : Fields :=
  [("conditions",
    .list [.object [("id", .text "c"), ("type", .text "subject"), ("operator", .text "equals"),
    ("value", .int 9223372036854775809)]])]

def oneRule : Session :=
  (createRule .scaling 1 { id := "r", name := "One", createdAt := 1,
                           lastModified := 1 } (.ofDatabase {})).2

/-- A condition with a number past the column is answered, and got back with another number. -/
theorem updateRule_touched_pastColumn :
    oneRule.Reachable ∧ (pastColumn.map Prod.fst).Nodup ∧
      Updates .scaling "r" pastColumn ⟨2, 0⟩ oneRule ∧
      ∃ updated, (updateRule .scaling "r" pastColumn ⟨2, 0⟩ oneRule).1 = .ok updated ∧
        (getRule "r" (updateRule .scaling "r" pastColumn ⟨2, 0⟩ oneRule).2.2).1 =
          .ok (updated.stored .scaling) ∧
        (getRule "r" (updateRule .scaling "r" pastColumn ⟨2, 0⟩ oneRule).2.2).1 ≠ .ok updated := by
  have hreachable : oneRule.Reachable := .single (.create ..)
  have hkeys : (pastColumn.map Prod.fst).Nodup := by decide
  have h := (updateRule_touched hreachable .scaling "r" hkeys ⟨2, 0⟩).1
  have hresult : (updateRule .scaling "r" pastColumn ⟨2, 0⟩ oneRule).1 = .ok
      { id := "r", name := "One", createdAt := 1, lastModified := 2
        conditions := [{ id := "c", kind := "subject", operator := "equals",
                         value := some (.int 9223372036854775809) }] } := by
    rfl
  have htouched := h.touched _ hresult
  refine ⟨hreachable, hkeys, h, _, hresult, htouched.stored, fun hgot => ?_⟩
  exact absurd (htouched.answered_iff.mp hgot) (by decide)

end Store

end MailTriage

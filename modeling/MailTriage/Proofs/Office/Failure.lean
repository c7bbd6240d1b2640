import MailTriage.Office.Host
import MailTriage.Proofs.Store.Dates

/-!
# Requests that fail

A request to the office fails when there is trouble or when the answer is false. The scores, markers
and summaries are then as they were before, but for two requests that change the store first and
have more to do afterwards: an email is marked before it is labelled in the mailbox, and a summary
is saved before its sender is credited. What they have saved stays when the rest fails.
-/

namespace MailTriage

open Store

variable {α σ : Type} {session : Session}

def Database.ledger (data : Database) : Keyed Binary64 × List (String × String) × Keyed Summary :=
  (data.scores, data.markers, data.summaries)

/-! ## The ledger as it was saved -/

/-- A session that sees the ledger as it was last saved. -/
def Session.SeesLedger (session : Session) : Prop := session.current.ledger = session.saved.ledger

/-- An effect that leaves nothing of the ledger to be saved later. -/
def Effect.LeavesLedger (data : Database) : Effect α → Prop
  | .refuse _ | .abort _ | .save _ _ => True
  | .keep _ after => after.ledger = data.ledger

namespace Session

theorem SeesLedger.apply (h : session.SeesLedger) {effect : Database → Effect α}
    (heffect : (effect session.current).LeavesLedger session.current) :
    (Session.apply effect session).2.SeesLedger := by
  unfold Session.apply
  split
  · exact h
  · split
    · exact h
    · exact rfl
    · next result data hkeep =>
      rw [hkeep] at heffect
      exact heffect.trans h
    · unfold Session.save
      split <;> exact rfl

theorem SeesLedger.updateRule (h : session.SeesLedger) (column : NumberColumn) (ruleId : String)
    (updates : Fields) (supply : Supply) :
    (Store.updateRule column ruleId updates supply session).2.2.SeesLedger := by
  rcases updateRule_cases column ruleId updates supply session with
    ⟨-, -, hsession⟩ | ⟨rule, updated, -, -, -, hsession⟩
  · rwa [hsession]
  · rw [hsession]
    apply h.apply
    rcases writeRule_cases column updated session.current with ⟨-, -, hwrite⟩ |
      ⟨-, trouble, hwrite⟩ <;>
      rw [hwrite] <;> trivial

theorem SeesLedger.appendLog (h : session.SeesLedger) (now retentionDays : Int) (entry : LogEntry) :
    (Store.appendLog now retentionDays entry session).2.SeesLedger := by
  have hwaiting : { session with unsaved := session.unsaved ++ [entry] }.SeesLedger := h
  have hpurged : (Store.purgeLog now retentionDays
      { session with unsaved := session.unsaved ++ [entry] }).2.SeesLedger := by
    apply hwaiting.apply
    dsimp only
    split
    · exact rfl
    · trivial
  unfold Store.appendLog
  dsimp only
  split <;> next hpurge =>
    rw [hpurge] at hpurged
    first
    | exact hpurged
    | exact hpurged.apply trivial

theorem SeesLedger.step (h : session.SeesLedger) {next : Session} (hstep : session.Step next) :
    next.SeesLedger := by
  cases hstep with
  | create column now rule =>
    apply h.apply
    split
    · trivial
    · split <;> trivial
  | update column ruleId updates supply => exact h.updateRule column ruleId updates supply
  | toggle column ruleId supply =>
    rcases toggleRule_cases column ruleId supply session with ⟨fault, htoggle⟩ | ⟨enabled, htoggle⟩
    · rwa [htoggle]
    · rw [htoggle]
      exact h.updateRule ..
  | delete ruleId =>
    apply h.apply
    split
    · exact rfl
    · trivial
  | replace column rules =>
    apply h.apply
    split <;> trivial
  | fire ruleId timestamp =>
    apply h.apply
    split
    · exact rfl
    · dsimp only
      split <;> trivial
  | append now retentionDays entry => exact h.appendLog now retentionDays entry
  | purge now retentionDays =>
    apply h.apply
    dsimp only
    split
    · exact rfl
    · trivial
  | list limit =>
    apply h.apply
    split
    · exact rfl
    · split
      · trivial
      · exact rfl
  | score address points =>
    unfold adjustScore
    split
    · exact h
    · apply h.apply
      dsimp only
      split <;> trivial
  | mark emailId marker =>
    apply h.apply
    split
    · exact rfl
    · trivial
  | finish emailId rulesFired =>
    apply h.apply
    split <;> trivial
  | get ruleId => rwa [getRule_session]
  | look find => exact h.apply rfl
  | rollback => exact rfl
  | configure _ | save | clear | summarize _ _ => exact h.apply trivial

/-- Whatever the store was asked, a session sees the ledger as it was last saved. -/
theorem seesLedger_of_steps {data : Database}
    (h : Relation.ReflTransGen Session.Step (.ofDatabase data) session) :
    session.SeesLedger := by
  induction h with
  | refl => exact rfl
  | tail _ hstep ih => exact ih.step hstep

end Session

/-! ## What the store has after an operation -/

namespace Store

theorem adjustScore_saved_of_error {address : String} {points : Binary64} {trouble : Trouble}
    (h : (adjustScore address points session).1 = .error trouble) :
    (adjustScore address points session).2.saved = session.saved := by
  unfold adjustScore at h ⊢
  split
  · rfl
  · next haddress =>
    rw [if_neg haddress] at h
    exact Session.saved_of_error h

theorem addMarker_cases (emailId marker : String) (session : Session) :
    ((addMarker emailId marker session).1 = .ok true ∧
        (addMarker emailId marker session).2.saved.markers = session.current.markers ++
          [(marker, emailId)]) ∨
      ((addMarker emailId marker session).1 ≠ .ok true ∧
        (addMarker emailId marker session).2.saved = session.saved) := by
  cases hresult : (addMarker emailId marker session).1 with
  | error trouble => exact .inr ⟨nofun, Session.saved_of_error hresult⟩
  | ok fresh =>
    obtain ⟨-, ⟨data, hkeep, hafter⟩ | ⟨data, log, hsave, -, hafter⟩⟩ :=
      Session.apply_ok_cases hresult
    · rw [addMarker, hafter]
      split at hkeep
      · cases hkeep
        exact .inr ⟨nofun, rfl⟩
      · cases hkeep
    · rw [addMarker, hafter]
      split at hsave
      · cases hsave
      · cases hsave
        exact .inl ⟨rfl, rfl⟩

/-- A summary that is saved is put among those that were there, and nothing else of the ledger
changes. -/
theorem saveSummary_ledger {emailId : String} {summary : Summary}
    (h : (saveSummary emailId summary session).1 = .ok ()) :
    (saveSummary emailId summary session).2.saved.ledger =
      (session.current.scores, session.current.markers,
        session.current.summaries.put emailId summary) := by
  obtain ⟨-, ⟨data, hkeep, -⟩ | ⟨data, log, hsave, -, hafter⟩⟩ := Session.apply_ok_cases h
  · exact nomatch hkeep
  · obtain rfl := (Effect.save.inj hsave).2
    rw [saveSummary, hafter]
    rfl

end Store

/-! ## What a request leaves -/

def Reply.isFailure : Reply → Bool
  | .error _ => true
  | .ok (.bool done) => !done
  | .ok _ => false

/-- Something of a request that the store has taken, and that was not there before: a marker, or a
summary. -/
def Request.Begins (means : Means σ) (session : Session) : Request → Prop
  | .markEmail emailId marker => (addMarker emailId marker session).1 = .ok true
  | .requestSummary email _ => ∃ summary, Office.summaryOf means email = .ok summary ∧
      (saveSummary email.id summary session).1 = .ok () ∧
        session.saved.summaries.find? email.id ≠ some summary
  | _ => False

namespace Office

variable (means : Means σ) {office : Office σ}

theorem session_of_inStore {op : StoreOp α} {result : Except Trouble α} {after : Office σ}
    (h : office.inStore op = (result, after)) :
    (op office.session).1 = result ∧ (op office.session).2 = after.session := by
  obtain ⟨rfl, rfl⟩ := Prod.mk.inj h
  exact ⟨rfl, rfl⟩

theorem session_of_outside {f : σ → α × σ} {a : α} {after : Office σ}
    (h : office.outside f = (a, after)) :
    after.session = office.session := by
  obtain ⟨-, rfl⟩ := Prod.mk.inj h
  rfl

theorem seesLedger_creditSummary (h : office.session.SeesLedger) (address : String) :
    (office.creditSummary means address).2.session.SeesLedger := by
  unfold creditSummary
  split
  · exact h
  · split <;> next hadjusted =>
      rw [← (session_of_inStore hadjusted).2]
      exact h.step (.score address _ _)

theorem seesLedger_perform (h : office.session.SeesLedger) (request : Request) :
    (office.perform means request).2.session.SeesLedger := by
  cases request with
  | openUrl url target =>
    rw [perform, openUrl]
    split <;> exact h
  | adjustScore address name points reason =>
    rw [perform, adjustScore]
    split
    · exact h
    · split <;> next hadjusted =>
        rw [← (session_of_inStore hadjusted).2]
        exact h.step (.score address points _)
  | markEmail emailId marker =>
    rw [perform, markEmail]
    split <;> next hmarked =>
      have hafter := h.step (.mark emailId marker _)
      rw [(session_of_inStore hmarked).2] at hafter
      first
      | exact hafter
      | split <;> next hlabelled =>
          rw [session_of_outside hlabelled]
          exact hafter
  | notify title body => exact h
  | deleteEmail emailId | markAsRead emailId => exact h
  | requestSummary email sender =>
    rw [perform, requestSummary]
    split
    · exact h
    · next summary _ =>
      split <;> next hsaved =>
        have hafter := h.step (.summarize email.id summary _)
        rw [(session_of_inStore hsaved).2] at hafter
        first
        | exact hafter
        | have hcredited := seesLedger_creditSummary means hafter sender.email
          split <;> next heq =>
            rw [heq] at hcredited
            exact hcredited

theorem saved_of_creditSummary_error {address : String} {trouble : Trouble} {after : Office σ}
    (h : office.creditSummary means address = (.error trouble, after)) :
    after.session.saved = office.session.saved := by
  unfold creditSummary at h
  split at h
  · exact nomatch h
  · split at h
    · next hadjusted =>
      obtain ⟨-, rfl⟩ := Prod.mk.inj h
      obtain ⟨herror, hsession⟩ := session_of_inStore hadjusted
      rw [← hsession]
      exact adjustScore_saved_of_error herror
    · exact nomatch h

/-- Marking leaves a new marker, or nothing; the label makes no difference to it. -/
theorem saved_markEmail (emailId marker : String) :
    (office.markEmail means emailId marker).2.session.saved =
      (addMarker emailId marker office.session).2.saved := by
  unfold markEmail
  split <;> next hmarked =>
    rw [(session_of_inStore hmarked).2]
    try split <;> next hlabelled => rw [session_of_outside hlabelled]

/-- When a request for a summary fails, a summary that could be saved is there, and nothing else is
new. -/
theorem ledger_requestSummary {email : Email} {sender : Sender}
    (hfailed : (office.requestSummary means email sender).1.isFailure = true) :
    (∃ summary, summaryOf means email = .ok summary ∧
      (saveSummary email.id summary office.session).1 = .ok () ∧
        (office.requestSummary means email sender).2.session.saved.ledger =
          (office.session.current.scores, office.session.current.markers,
            office.session.current.summaries.put email.id summary)) ∨
      ((∀ summary, summaryOf means email = .ok summary →
        (saveSummary email.id summary office.session).1 ≠ .ok ()) ∧
        (office.requestSummary means email sender).2.session.saved = office.session.saved) := by
  unfold requestSummary at hfailed ⊢
  cases hsummary : summaryOf means email with
  | error trouble => exact .inr ⟨nofun, rfl⟩
  | ok summary =>
    rw [hsummary] at hfailed
    dsimp only at hfailed ⊢
    cases hsaved : office.inStore (saveSummary email.id summary) with
    | mk result middle =>
      obtain ⟨hresult, hmiddle⟩ := session_of_inStore hsaved
      rw [hsaved] at hfailed
      cases result with
      | error trouble =>
        refine .inr ⟨?_, ?_⟩
        · rintro other hother hok
          obtain rfl := Except.ok.inj hother
          exact nomatch hresult.symm.trans hok
        · dsimp only
          rw [← hmiddle]
          exact Session.saved_of_error hresult
      | ok _ =>
        refine .inl ⟨summary, rfl, hresult, ?_⟩
        dsimp only at hfailed ⊢
        split at hfailed
        · next trouble after hcredit =>
          dsimp only
          rw [Database.ledger, saved_of_creditSummary_error means hcredit, ← hmiddle]
          exact saveSummary_ledger hresult
        · exact nomatch hfailed

/-! ## What a request that failed has left -/

theorem saved_adjustScore {address : String} {points : Binary64}
    (hfailed : (office.adjustScore address points).1.isFailure = true) :
    (office.adjustScore address points).2.session.saved = office.session.saved := by
  unfold adjustScore at hfailed ⊢
  split
  · rfl
  · next haddress =>
    rw [if_neg haddress] at hfailed
    split at hfailed
    · next hadjusted =>
      obtain ⟨herror, hsession⟩ := session_of_inStore hadjusted
      dsimp only
      rw [← hsession, adjustScore_saved_of_error herror]
    · exact nomatch hfailed

theorem ledger_markEmail_iff (hsees : office.session.SeesLedger) (emailId marker : String) :
    (office.markEmail means emailId marker).2.session.saved.ledger = office.session.saved.ledger ↔
      ¬(Request.markEmail emailId marker).Begins means office.session := by
  rw [saved_markEmail]
  rcases addMarker_cases emailId marker office.session with ⟨hfresh, hmarkers⟩ | ⟨hnot, hsaved⟩
  · refine ⟨fun hsame => ?_, fun hbegins => absurd hfresh hbegins⟩
    -- The list of markers has become longer.
    have hlonger := congrArg (fun ledger => ledger.2.1.length) hsame
    have hcurrent : office.session.current.markers = office.session.saved.markers :=
      congrArg (fun ledger => ledger.2.1) hsees
    simp [Database.ledger, hmarkers, hcurrent] at hlonger
  · rw [hsaved]
    exact ⟨fun _ => hnot, fun _ => rfl⟩

/-- Putting a summary changes nothing of the ledger exactly when it was there before. -/
theorem ledger_put_eq_iff (hsees : office.session.SeesLedger) (emailId : String)
    (summary : Summary) :
    (office.session.current.scores, office.session.current.markers,
        office.session.current.summaries.put emailId summary) = office.session.saved.ledger ↔
      office.session.saved.summaries.find? emailId = some summary := by
  obtain ⟨hscores, hmarkers, hsummaries⟩ :
      office.session.current.scores = office.session.saved.scores ∧
      office.session.current.markers = office.session.saved.markers ∧
      office.session.current.summaries = office.session.saved.summaries := by
    simpa [Session.SeesLedger, Database.ledger] using hsees
  rw [hscores, hmarkers, hsummaries, ← Keyed.put_eq_self_iff]
  simp [Database.ledger]

theorem ledger_requestSummary_iff (hsees : office.session.SeesLedger) {email : Email}
    {sender : Sender} (hfailed : (office.requestSummary means email sender).1.isFailure = true) :
    (office.requestSummary means email sender).2.session.saved.ledger =
      office.session.saved.ledger ↔
      ¬(Request.requestSummary email sender).Begins means office.session := by
  rcases ledger_requestSummary means hfailed with ⟨summary, hsummary, hok, hledger⟩ |
    ⟨hnone, hsaved⟩
  · rw [hledger, ledger_put_eq_iff hsees]
    constructor
    · rintro hfound ⟨other, hother, -, hdiffers⟩
      obtain rfl := Except.ok.inj (hsummary.symm.trans hother)
      exact hdiffers hfound
    · intro hbegins
      by_contra hdiffers
      exact hbegins ⟨summary, hsummary, hok, hdiffers⟩
  · rw [hsaved]
    refine ⟨fun _ => ?_, fun _ => rfl⟩
    rintro ⟨summary, hsummary, hok, -⟩
    exact hnone summary hsummary hok

/-- Whatever the store was asked before, and however the mailbox and the browser behave: a request
that fails leaves the scores, markers and summaries as they were exactly when the store has not
taken anything new of it. -/
theorem ledger_of_failed_iff {data : Database}
    (hsteps : Relation.ReflTransGen Session.Step (.ofDatabase data) office.session)
    {request : Request} (hfailed : (office.perform means request).1.isFailure = true) :
    ((office.perform means request).2.session.saved.ledger = office.session.saved.ledger ∧
        (office.perform means request).2.session.current.ledger = office.session.current.ledger) ↔
      ¬request.Begins means office.session := by
  have hsees := Session.seesLedger_of_steps hsteps
  rw [seesLedger_perform means hsees request, hsees, and_self]
  cases request with
  | openUrl url target =>
    rw [perform, openUrl]
    split <;> exact ⟨fun _ => id, fun _ => rfl⟩
  | adjustScore address name points reason =>
    refine ⟨fun _ => id, fun _ => ?_⟩
    rw [perform, saved_adjustScore hfailed]
  | markEmail emailId marker => exact ledger_markEmail_iff means hsees emailId marker
  | notify | deleteEmail | markAsRead => exact ⟨fun _ => id, fun _ => rfl⟩
  | requestSummary email sender => exact ledger_requestSummary_iff means hsees hfailed

/-- An office whose mailbox takes no request. -/
def deafMailbox : Means Unit where
  service _ outer := (none, outer)
  browse _ _ outer := (false, outer)
  evaluate _ outer := (.thrown "", outer)
  settings := {}
  column := .scaling

theorem ledger_of_failed_iff_deafMailbox :
    Relation.ReflTransGen Session.Step (.ofDatabase {}) (Session.ofDatabase {}) ∧
    (perform deafMailbox (.markEmail "m1" "receipts") ⟨.ofDatabase {}, ()⟩).1.isFailure = true ∧
    (perform deafMailbox (.markEmail "m1" "receipts") ⟨.ofDatabase {},
      ()⟩).2.session.saved.markers =
      [("receipts", "m1")] ∧
    ¬((perform deafMailbox (.markEmail "m1" "receipts") ⟨.ofDatabase {},
      ()⟩).2.session.saved.ledger =
          (Session.ofDatabase {}).saved.ledger ∧
        (perform deafMailbox (.markEmail "m1" "receipts") ⟨.ofDatabase {},
          ()⟩).2.session.current.ledger =
          (Session.ofDatabase {}).current.ledger) := by
  have hfailed :
      (perform deafMailbox (.markEmail "m1" "receipts") ⟨.ofDatabase {}, ()⟩).1.isFailure = true :=
        rfl
  refine ⟨.refl, hfailed, rfl, fun hsame => ?_⟩
  have hbegins : (Request.markEmail "m1" "receipts").Begins deafMailbox (.ofDatabase {}) := rfl
  exact (ledger_of_failed_iff deafMailbox .refl hfailed).mp hsame hbegins

end Office

end MailTriage

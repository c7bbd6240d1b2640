import MailTriage.Office.Round
import MailTriage.Proofs.Store.Session
import MailTriage.Proofs.Triage.Record

/-!
# The record of the emails that are done with

An email gets onto the record when it is marked as done with, and in no other way: whatever else an
action or a round does with the store leaves the record alone, and so does what is taken back when
changes cannot be saved.
-/

namespace MailTriage

variable {α σ : Type} {done : Set String} {session : Session}

def Database.doneWith (data : Database) : Set String :=
  {emailId | (data.processed.find? emailId).isSome}

theorem Database.doneWith_put (emailId : String) (rulesFired : Int) (data : Database) :
    ({ data with processed := data.processed.put emailId rulesFired } : Database).doneWith =
      insert emailId data.doneWith := by
  ext other
  by_cases h : other = emailId
  · simp [Database.doneWith, h]
  · simp [Database.doneWith, h, Keyed.find?_put_of_ne h]

/-- A session that sees the given emails as done with, as it was last saved. -/
structure Session.Records (done : Set String) (session : Session) : Prop where
  saved : session.saved.doneWith = done
  current : session.current.processed = session.saved.processed

def Effect.Leaves (processed : Keyed Int) : Effect α → Prop
  | .refuse _ | .abort _ => True
  | .keep _ data | .save _ data => data.processed = processed

namespace Session

theorem records_ofDatabase (data : Database) : (ofDatabase data).Records data.doneWith := ⟨rfl, rfl⟩

theorem Records.abort (h : session.Records done) : session.abort.Records done := ⟨h.saved, rfl⟩

theorem Records.apply (h : session.Records done) {effect : Database → Effect α}
    (heffect : (effect session.current).Leaves session.current.processed) :
    (Session.apply effect session).2.Records done := by
  unfold Session.apply
  split
  · exact h
  · split
    · exact h
    · exact h.abort
    · next result data hkeep =>
      rw [hkeep] at heffect
      exact ⟨h.saved, heffect.trans h.current⟩
    · next result data hsave =>
      rw [hsave] at heffect
      have hprocessed : data.processed = session.saved.processed := heffect.trans h.current
      unfold Session.save
      split
      · refine ⟨?_, rfl⟩
        rw [← h.saved, Database.doneWith, Database.doneWith, ← hprocessed]
        rfl
      · exact h.abort

theorem Records.look (h : session.Records done) (find : Database → α) :
    (session.look find).2.Records done := h.apply rfl

theorem Records.recordFire (h : session.Records done) (ruleId : String) (timestamp : Int) :
    (Store.recordFire ruleId timestamp session).2.Records done := by
  refine h.apply ?_
  split
  · exact rfl
  · dsimp only
    split
    · exact rfl
    · trivial

theorem Records.appendLog (h : session.Records done) (now retentionDays : Int) (entry : LogEntry) :
    (Store.appendLog now retentionDays entry session).2.Records done := by
  have hwaiting : { session with unsaved := session.unsaved ++ [entry] }.Records done :=
    ⟨h.saved, h.current⟩
  have hpurged : (Store.purgeLog now retentionDays
      { session with unsaved := session.unsaved ++ [entry] }).2.Records done := by
    refine hwaiting.apply ?_
    dsimp only
    split
    · exact rfl
    · trivial
  unfold Store.appendLog
  dsimp only
  split <;> next hpurge =>
    rw [hpurge] at hpurged
    first
    | exact hpurged
    | exact hpurged.apply rfl

theorem Records.adjustScore (h : session.Records done) (address : String) (points : Binary64) :
    (Store.adjustScore address points session).2.Records done := by
  unfold Store.adjustScore
  split
  · exact h
  · refine h.apply ?_
    dsimp only
    split
    · trivial
    · exact rfl

theorem Records.addMarker (h : session.Records done) (emailId marker : String) :
    (Store.addMarker emailId marker session).2.Records done := by
  refine h.apply ?_
  split <;> exact rfl

theorem Records.saveSummary (h : session.Records done) (emailId : String) (summary : Summary) :
    (Store.saveSummary emailId summary session).2.Records done := h.apply rfl

theorem Records.getScore (h : session.Records done) (address : String) :
    (Store.getScore address session).2.Records done := by
  unfold Store.getScore
  split
  · exact h
  · exact h.look _

theorem Records.isProcessed (h : session.Records done) {emailId : String} {answer : Bool}
    (hanswer : (Store.isProcessed emailId session).1 = .ok answer) :
    answer = true ↔ emailId ∈ done := by
  obtain ⟨-, ⟨data, hkeep, -⟩ | ⟨data, log, hsave, -⟩⟩ := apply_ok_cases hanswer
  · obtain rfl := (Effect.keep.inj hkeep).1
    change (session.current.processed.find? emailId).isSome = true ↔ emailId ∈ done
    rw [h.current, ← h.saved]
    rfl
  · exact nomatch hsave

theorem Records.markProcessed (h : session.Records done) {emailId : String} {rulesFired : Int}
    (hmarked : (Store.markProcessed emailId rulesFired session).1 = .ok ()) :
    (Store.markProcessed emailId rulesFired session).2.Records (insert emailId done) := by
  obtain ⟨-, ⟨data, hkeep, -⟩ | ⟨data, log, hsave, -, hafter⟩⟩ := apply_ok_cases hmarked
  · split at hkeep <;> exact nomatch hkeep
  · split at hsave
    · obtain rfl := (Effect.save.inj hsave).2
      rw [Store.markProcessed, hafter]
      refine ⟨?_, rfl⟩
      rw [← h.saved, ← Database.doneWith_put emailId rulesFired, ← h.current]
      rfl
    · exact nomatch hsave

end Session

/-! ## The office -/

namespace Office

variable (means : Means σ) {office : Office σ}

theorem records_of_inStore {op : StoreOp α} {result : Except Trouble α} {after : Office σ}
    (h : office.inStore op = (result, after)) (hop : (op office.session).2.Records done) :
    after.session.Records done := by
  obtain rfl : (office.inStore op).2 = after := congrArg Prod.snd h
  exact hop

theorem records_of_outside {f : σ → α × σ} {a : α} {after : Office σ}
    (h : office.outside f = (a, after)) (hoffice : office.session.Records done) :
    after.session.Records done := by
  obtain rfl : (office.outside f).2 = after := congrArg Prod.snd h
  exact hoffice

theorem records_creditSummary (h : office.session.Records done) (address : String) :
    (office.creditSummary means address).2.session.Records done := by
  unfold Office.creditSummary
  split
  · exact h
  · split <;> next hadjusted => exact records_of_inStore hadjusted (h.adjustScore address _)

theorem records_perform (h : office.session.Records done) (request : Request) :
    (office.perform means request).2.session.Records done := by
  cases request with
  | openUrl url target =>
    rw [Office.perform, Office.openUrl]
    split <;> exact h
  | adjustScore address name points reason =>
    rw [Office.perform, Office.adjustScore]
    split
    · exact h
    · split <;> next hadjusted => exact records_of_inStore hadjusted (h.adjustScore address points)
  | markEmail emailId marker =>
    rw [Office.perform, Office.markEmail]
    split <;> next hmarked =>
      have hafter := records_of_inStore hmarked (h.addMarker emailId marker)
      first
      | exact hafter
      | split <;> next hlabelled => exact records_of_outside hlabelled hafter
  | notify title body => exact h
  | deleteEmail emailId | markAsRead emailId => exact h
  | requestSummary email sender =>
    rw [Office.perform, Office.requestSummary]
    split
    · exact h
    · split <;> next hsaved =>
        have hafter := records_of_inStore hsaved (h.saveSummary email.id _)
        first
        | exact hafter
        | have hcredited := records_creditSummary means hafter sender.email
          split <;> next heq =>
            rw [heq] at hcredited
            exact hcredited

theorem world_keeps (now retentionDays : Int) :
    (Office.world means now retentionDays).Keeps fun office => office.session.Records done where
  perform h request := records_perform means h request
  evaluate h _ := h
  enabledRules h := h.look _
  recordFire h ruleId timestamp := h.recordFire ruleId timestamp
  publish {office} h entry := by
    have hsettings : (office.inStore Store.settings).2.session.Records done := h.look _
    unfold World.publish Office.world
    dsimp only
    split <;> next hafter =>
      rw [hafter] at hsettings
      first
      | exact hsettings
      | split
        · exact hsettings.appendLog now retentionDays entry
        · exact hsettings

end Office

end MailTriage

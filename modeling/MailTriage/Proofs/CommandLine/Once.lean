import MailTriage.Proofs.CommandLine.Process
import MailTriage.Proofs.Office.Visit

/-!
# Runs over the mail

The program is run over the mail again and again, and between two runs everything may change but the
record of the emails that are done with. As long as the store does not fail, an email that is on the
record is never taken again, and one that is not gets onto it by its pass. So no email has more than
one pass in all runs, and those with a pass are the ones that have come onto the record.
-/

namespace MailTriage

open CommandLine

variable {σ : Type}

/-! ## Passes on record -/

def passedIds (events : List Event) : List String :=
  events.filterMap fun
    | .passed entry => some entry.emailId
    | _ => none

theorem passedIds_append (first rest : List Event) :
    passedIds (first ++ rest) = passedIds first ++ passedIds rest :=
  List.filterMap_append

theorem passedIds_fetches {events : List Event} (h : ∀ event ∈ events, event.IsFetch) :
    passedIds events = [] := by
  rw [passedIds, List.filterMap_eq_nil_iff]
  intro event hevent
  have hfetch := h event hevent
  cases event <;> first | rfl | exact hfetch.elim

/-- No email is passed twice, none that was done with before, and exactly those are done with in the
end that were before or have been passed. -/
structure PassedOnce (done : Set String) (emailIds : List String) (after : Set String) : Prop where
  once : emailIds.Nodup
  fresh : ∀ emailId ∈ emailIds, emailId ∉ done
  marked : ∀ emailId, emailId ∈ after ↔ emailId ∈ done ∨ emailId ∈ emailIds

theorem PassedOnce.append {done between after : Set String} {first rest : List String}
    (hfirst : PassedOnce done first between) (hrest : PassedOnce between rest after) :
    PassedOnce done (first ++ rest) after where
  once := by
    refine List.nodup_append.mpr ⟨hfirst.once, hrest.once, fun emailId hmem other hother he => ?_⟩
    exact hrest.fresh other hother ((hfirst.marked other).mpr (.inr (he ▸ hmem)))
  fresh emailId hmem hdone := by
    rcases List.mem_append.mp hmem with hmem | hmem
    · exact hfirst.fresh emailId hmem hdone
    · exact hrest.fresh emailId hmem ((hfirst.marked emailId).mpr (.inl hdone))
  marked emailId := by rw [hrest.marked, hfirst.marked, List.mem_append, or_assoc]

theorem passedOnce_nil (done : Set String) : PassedOnce done [] done := ⟨by simp, by simp, by simp⟩

theorem Visited.passedOnce {done after : Set String} {events : List Event}
    (h : Visited done events after) :
    PassedOnce done (passedIds events) after := by
  cases h with
  | skipped hdone => exact passedOnce_nil done
  | unfetched hnew => exact passedOnce_nil done
  | unloaded hnew => exact passedOnce_nil done
  | @passed emailId hnew loads hloads requests entry hentry =>
    have hids : passedIds ([.fetched emailId "metadata" true] ++ loads ++ requests.map .asked ++
        [.passed entry, .finished emailId]) = [emailId] := by
      have hasked : passedIds (requests.map .asked) = [] := by simp [passedIds, List.filterMap_map]
      rw [passedIds_append, passedIds_append, passedIds_append, hasked]
      rcases hloads with rfl | rfl <;> simp [passedIds, hentry]
    rw [hids]
    exact ⟨by simp, by simpa using hnew, fun other => by simp [or_comm]⟩

theorem Trace.passedOnce {done after : Set String} {events : List Event}
    (h : Trace done events after) :
    PassedOnce done (passedIds events) after := by
  induction h with
  | none done => exact passedOnce_nil done
  | visit hfirst _ ih =>
    rw [passedIds_append]
    exact hfirst.passedOnce.append ih

/-! ## The intake of the office -/

theorem Intake.ofOffice_records (means : Means σ) (now retentionDays : Int) :
    (Intake.ofOffice means now retentionDays).Records fun done office =>
      office.session.Records done where
  world _ := Office.world_keeps means now retentionDays
  service h _ _ := h
  isProcessed h emailId := h.look fun data => (data.processed.find? emailId).isSome
  isProcessed_iff h _ _ hanswer := h.isProcessed hanswer
  score h address := h.getScore address
  finish h _ _ hmarked := h.markProcessed hmarked

theorem Intake.ofOffice_faithful {means : Means σ} (h : means.service.Faithful)
    (now retentionDays : Int) :
    (Intake.ofOffice means now retentionDays).service.Faithful :=
  fun emailId format office message => h emailId format office.outer message

namespace CommandLine

/-! ## One run -/

/-- A run of the program over the mail, not a dry one. -/
structure MailRun (σ : Type) where
  means : Settings → Means σ
  pages : Nat
  environment : Environment
  args : List String
  premises : Premises σ
  maxEmails : Option Int
  days : Option Int
  asks : Command.parse args = .ok (.process maxEmails days false)

namespace MailRun

def after (run : MailRun σ) : Premises σ :=
  (CommandLine.run run.means run.pages run.environment run.args run.premises).2

def intake (run : MailRun σ) (settings : Settings) : Intake (Office σ) :=
  .ofOffice (run.means settings) run.premises.supply.now
    run.premises.data.ruleSettings.retentionDays

def round (run : MailRun σ) (settings : Settings) : Except RoundFault Unit × Round (Office σ) :=
  realRound (run.means settings) run.pages run.maxEmails run.days run.premises

def recorded (run : MailRun σ) (settings : Settings) :
    Except RoundFault Unit × Round (Office σ × List Event) :=
  (Round.run (run.intake settings).recorded run.pages run.maxEmails run.days).run.run
    ⟨⟨[], run.premises.supply, (run.premises.office, [])⟩, [starting]⟩

def events (run : MailRun σ) : List Event :=
  match Settings.ofEnvironment run.environment with
  | .ok settings => (run.recorded settings).2.desk.outer.2
  | .error _ => []

/-- The mailbox gives the messages that it is asked for. -/
def Faithful (run : MailRun σ) : Prop :=
  ∀ settings, Settings.ofEnvironment run.environment = .ok settings →
    (run.means settings).service.Faithful

/-- The store does not fail in a run. -/
def StoreWorks (run : MailRun σ) : Prop :=
  ∀ settings, Settings.ofEnvironment run.environment = .ok settings → ∀ trouble,
    (run.round settings).1 ≠ .error (.store trouble)

/-- What a run comes to: visits, the last of which may be broken off. -/
structure Proceeds (run : MailRun σ) : Prop where
  /-- The record makes no difference to the run. -/
  recorded : ∀ settings, Settings.ofEnvironment run.environment = .ok settings →
    Alike (Round.Related OnRecord) (run.recorded settings) (run.round settings)
  visits : ∃ trace fetches, run.events = trace ++ fetches ∧
    Trace run.premises.data.doneWith trace run.after.data.doneWith ∧
      ∀ event ∈ fetches, event.IsFetch
  /-- However many messages have been visited, no context waits at the desk. -/
  nothingWaits : ∀ settings, Settings.ofEnvironment run.environment = .ok settings →
    ∀ start : Round (Office σ), start.desk.waiting = [] →
      start.desk.outer.session = .ofDatabase run.premises.data → ∀ listed processed after,
        (Round.visitAll (run.intake settings) listed).run.run start = (.ok processed, after) →
          after.desk.waiting = []

theorem recorded_alike (run : MailRun σ) (settings : Settings) :
    Alike (Round.Related OnRecord) (run.recorded settings) (run.round settings) :=
  ((run.intake settings).recorded_mirrors.run run.pages run.maxEmails run.days).alike
    ⟨⟨rfl, rfl, rfl⟩, rfl⟩

theorem after_data (run : MailRun σ) {settings : Settings}
    (hsettings : Settings.ofEnvironment run.environment = .ok settings) :
    run.after.data = (run.round settings).2.desk.outer.session.saved := by
  rw [after, run_process run.means hsettings run.pages run.premises run.asks]
  rfl

theorem after_of_unset (run : MailRun σ) {problems : List Form.Problem}
    (hsettings : Settings.ofEnvironment run.environment = .error problems) :
    run.after = run.premises := by
  simp [after, CommandLine.run, run.asks, hsettings]

theorem visits (run : MailRun σ) (hfaithful : run.Faithful) (hstore : run.StoreWorks) :
    ∃ trace fetches, run.events = trace ++ fetches ∧
      Trace run.premises.data.doneWith trace run.after.data.doneWith ∧
        ∀ event ∈ fetches, event.IsFetch := by
  cases hsettings : Settings.ofEnvironment run.environment with
  | error problems =>
    refine ⟨[], [], ?_, ?_, by simp⟩
    · simp [events, hsettings]
    · rw [run.after_of_unset hsettings]
      exact .none _
  | ok settings =>
    have hevents : run.events = (run.recorded settings).2.desk.outer.2 := by
      simp [events, hsettings]
    have hstands :
        Round.Stands (fun done office => office.session.Records done) []
          run.premises.data.doneWith []
        ⟨⟨[], run.premises.supply, (run.premises.office, [])⟩, [starting]⟩ :=
      ⟨rfl, Session.records_ofDatabase _, rfl⟩
    have hends := Round.run_ends
      (Intake.ofOffice_records (run.means settings) run.premises.supply.now
      run.premises.data.ruleSettings.retentionDays)
        (Intake.ofOffice_faithful (hfaithful settings hsettings) _ _)
      hstands run.pages run.maxEmails run.days
    obtain ⟨hresult, hdesk, -⟩ := run.recorded_alike settings
    have houter : (run.recorded settings).2.desk.outer.1 = (run.round settings).2.desk.outer :=
      hdesk.outer
    rw [hevents, run.after_data hsettings, ← houter]
    have hworks := hstore settings hsettings
    rw [← hresult] at hworks
    change RoundEnds _ _ _ (run.recorded settings) at hends
    generalize run.recorded settings = recorded at hends hworks
    cases hends with
    | @ended _ round trace done htrace hround =>
      refine ⟨trace, [], by rw [hround.events]; simp, ?_, by simp⟩
      exact hround.done.saved ▸ htrace
    | failed trouble round => exact absurd rfl (hworks trouble)
    | @broken fault round trace fetches done htrace hfetches hdone hevents =>
      exact ⟨trace, fetches, hevents, hdone.saved ▸ htrace, hfetches⟩

theorem proceeds (run : MailRun σ) (hfaithful : run.Faithful) (hstore : run.StoreWorks) :
    run.Proceeds where
  recorded settings _ := run.recorded_alike settings
  visits := run.visits hfaithful hstore
  nothingWaits settings hsettings start hwaiting hsession listed processed after hvisits := by
    let onRecord : Round (Office σ × List Event) :=
      ⟨⟨start.desk.waiting, start.desk.supply, (start.desk.outer, [])⟩, start.notices⟩
    have hstands :
        onRecord.Stands (fun done office => office.session.Records done) []
          run.premises.data.doneWith
        [] := ⟨hwaiting, hsession ▸ Session.records_ofDatabase _, rfl⟩
    have hends := Round.visitAll_ends
      (Intake.ofOffice_records (run.means settings) run.premises.supply.now
      run.premises.data.ruleSettings.retentionDays)
        (Intake.ofOffice_faithful (hfaithful settings hsettings) _ _)
      hstands listed
    have hrelated : Round.Related OnRecord onRecord start := ⟨⟨rfl, rfl, rfl⟩, rfl⟩
    obtain ⟨hresult, hdesk, -⟩ :=
      ((run.intake settings).recorded_mirrors.visitAll listed).alike hrelated
    rw [hvisits] at hresult hdesk
    change RoundEnds _ _ _
      ((Round.visitAll (run.intake settings).recorded listed).run.run onRecord) at hends
    generalize (Round.visitAll (run.intake settings).recorded listed).run.run onRecord = ended at *
    cases hends with
    | ended _ _ hround => exact hdesk.waiting.symm.trans hround.waiting
    | failed trouble round => exact nomatch hresult
    | broken fault _ _ _ _ => exact nomatch hresult

theorem Proceeds.passedOnce {run : MailRun σ} (h : run.Proceeds) :
    PassedOnce run.premises.data.doneWith (passedIds run.events) run.after.data.doneWith := by
  obtain ⟨trace, fetches, hevents, htrace, hfetches⟩ := h.visits
  rw [hevents, passedIds_append, passedIds_fetches hfetches, List.append_nil]
  exact htrace.passedOnce

end MailRun

/-! ## Runs one after another -/

/-- What comes of runs, from the first of them on. -/
structure OncePerMessage (first : MailRun σ) (rest : List (MailRun σ)) : Prop where
  proceeds : ∀ run ∈ first :: rest, run.Proceeds
  passedOnce :
    PassedOnce first.premises.data.doneWith (passedIds ((first :: rest).flatMap MailRun.events))
    ((first :: rest).getLast (List.cons_ne_nil first rest)).after.data.doneWith

/-- However often the program is run over the mail, every email has one pass at most, unless the
store fails or the mailbox confuses messages: none that was done with before the first run has one,
and those done with after the last run are these and the ones with a pass. Every run consists of
visits, and leaves no context waiting. -/
theorem runs_oncePerMessage (first : MailRun σ) (rest : List (MailRun σ))
    (hchain : (first :: rest).IsChain fun earlier later =>
      later.premises.data.doneWith = earlier.after.data.doneWith)
    (hfaithful : ∀ run ∈ first :: rest, run.Faithful)
    (hstore : ∀ run ∈ first :: rest, run.StoreWorks) :
    OncePerMessage first rest := by
  have hproceeds : ∀ run ∈ first :: rest, run.Proceeds := fun run hrun =>
    run.proceeds (hfaithful run hrun) (hstore run hrun)
  refine ⟨hproceeds, ?_⟩
  clear hfaithful hstore
  -- Each run begins on the record that the one before it has left.
  induction rest generalizing first with
  | nil => simpa using (hproceeds first (by simp)).passedOnce
  | cons second rest ih =>
    have hfirst := (hproceeds first (by simp)).passedOnce
    have hrest :=
      ih second hchain.tail fun run hrun => hproceeds run (List.mem_cons_of_mem first hrun)
    rw [List.isChain_cons_cons] at hchain
    rw [hchain.1] at hrest
    rw [List.flatMap_cons, passedIds_append, List.getLast_cons (List.cons_ne_nil second rest)]
    exact hfirst.append hrest

namespace MailRun

def ofOnlyMessage (premises : Premises Unit) : MailRun Unit :=
  ⟨onlyMailbox, 5, [], ["process"], premises, none, none, by decide⟩

theorem ofOnlyMessage_faithful (premises : Premises Unit) : (ofOnlyMessage premises).Faithful := by
  intro settings _ emailId format outer message hanswer _
  obtain rfl := Option.some.inj hanswer
  rfl

theorem storeWorks_of_toBool {premises : Premises Unit}
    (h : (realRound (onlyMailbox {}) 5 none none premises).1.toBool) :
    (ofOnlyMessage premises).StoreWorks := by
  intro settings hsettings trouble hround
  obtain rfl : {} = settings := Except.ok.inj hsettings
  rw [show (realRound (onlyMailbox {}) 5 none none premises).1 = _ from hround] at h
  exact absurd h (by simp [Except.toBool])

end MailRun

/-- What the first run on that mailbox leaves to the second. -/
def afterOnce : Premises Unit := (MailRun.ofOnlyMessage onlyRule).after

theorem runs_oncePerMessage_onlyMessage :
    OncePerMessage (.ofOnlyMessage onlyRule) [.ofOnlyMessage afterOnce] := by
  have hfirst : (MailRun.ofOnlyMessage onlyRule).StoreWorks :=
    MailRun.storeWorks_of_toBool (by decide +kernel)
  have hsecond : (MailRun.ofOnlyMessage afterOnce).StoreWorks :=
    MailRun.storeWorks_of_toBool (by decide +kernel)
  refine runs_oncePerMessage _ _ (by simp [afterOnce, MailRun.ofOnlyMessage]) ?_ ?_
  · rintro run hrun
    rcases List.mem_pair.mp hrun with rfl | rfl <;> exact MailRun.ofOnlyMessage_faithful _
  · rintro run hrun
    rcases List.mem_pair.mp hrun with rfl | rfl
    · exact hfirst
    · exact hsecond

end CommandLine

end MailTriage

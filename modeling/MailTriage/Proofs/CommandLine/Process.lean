import MailTriage.CommandLine.Execution
import MailTriage.Proofs.Outcome

/-!
# Processing the mail

The command that processes the mail begins on what the database holds, runs one round of either
kind, and ends with what the round leaves. Nothing that a round needs can fail before it, and what
is told about its end changes neither the office nor the files.
-/

namespace MailTriage.CommandLine

variable {σ τ : Type}

def starting : Notice := .info "Starting Email Triage Rules..."

def Premises.office (premises : Premises σ) : Office σ :=
  ⟨.ofDatabase premises.data, premises.outer⟩

/-- The station of a command that has told something, and done nothing yet. -/
def Premises.station (premises : Premises σ) (notices : List Notice) : Station σ :=
  ⟨premises.office, premises.supply, premises.disk, [], notices⟩

/-- What an office leaves to the next command, at a time and with given files. What it has not saved
is lost. -/
def Premises.ofOffice (supply : Supply) (disk : Disk) (office : Office σ) : Premises σ :=
  ⟨office.session.saved, supply, disk, office.outer⟩

section

variable (means : Means σ) (pages : Nat) (maxEmails days : Option Int) (premises : Premises σ)

def realRound : Except RoundFault Unit × Round (Office σ) :=
  (Round.run (.ofOffice means premises.supply.now premises.data.ruleSettings.retentionDays)
    pages maxEmails
    days).run.run ⟨⟨[], premises.supply, premises.office⟩, [starting]⟩

def Premises.trial : Trial σ :=
  ⟨⟨premises.data.listRules, premises.data.ruleSettings⟩, premises.office⟩

def dryRound : Except RoundFault Unit × Round (Trial σ) :=
  (Round.run (.ofTrial means) pages maxEmails days).run.run
    ⟨⟨[], premises.supply, premises.trial⟩, [starting]⟩

theorem run_processMail :
    (processMail means pages maxEmails days false).run.run (premises.station []) =
      (Station.inRound premises.office id
        (Round.run (.ofOffice means premises.supply.now premises.data.ruleSettings.retentionDays)
          pages maxEmails
          days)).run.run (premises.station [starting]) := rfl

/-- Before its round, a dry run only looks at the rules and the settings. -/
theorem run_processMail_dry :
    (processMail means pages maxEmails days true).run.run (premises.station []) =
      (Station.inRound premises.trial Trial.office
        (Round.run (.ofTrial means) pages maxEmails days)).run.run (premises.station
          [starting]) := rfl

end

theorem run_inRound (outer : τ) (office : τ → Office σ) (step : RoundStep τ Unit)
    (station : Station σ) :
    (Station.inRound outer office step).run.run station =
      ((step.run.run ⟨⟨[], station.supply, outer⟩, station.notices⟩).1.mapError
        RoundFault.complaint,
        let round := (step.run.run ⟨⟨[], station.supply, outer⟩, station.notices⟩).2
        { station with
          office := office round.desk.outer, supply := round.desk.supply, notices :=
            round.notices }) := by
  have hget : (get : CommandStep σ (Station σ)).run.run station = (.ok station, station) := rfl
  rw [Station.inRound, run_bind_eq, hget]
  cases hround : step.run.run ⟨⟨[], station.supply, outer⟩, station.notices⟩ with
  | mk result round =>
    dsimp only
    rw [hround]
    cases result <;> rfl

/-- Trouble with rules is told; any other complaint is passed on. -/
theorem run_performAndTell (means : Means σ) (pages : Nat) (command : Command)
    (station : Station σ) :
    (performAndTell means pages command).run.run station =
      match (perform means pages command).run.run station with
      | (.ok code, after) => (.ok code, after)
      | (.error complaint, after) =>
        match rulesText? complaint with
        | some text =>
          (.ok 1, { after with
            notices := after.notices ++ [.error "Rules error" [("error", .text text)]] })
        | none => (.error complaint, after) := by
  unfold performAndTell
  generalize perform means pages command = step
  rw [run_bind_eq, run_tryCatch_eq, run_bind_eq]
  cases step.run.run station with
  | mk result after =>
    cases result with
    | ok code => rfl
    | error complaint =>
      dsimp only
      cases rulesText? complaint <;> rfl

def Ending.ofRound (result : Except RoundFault Unit) (notices : List Notice) : Ending :=
  match result with
  | .ok _ => .finished 0 [] notices
  | .error fault =>
    match rulesText? fault.complaint with
    | some text => .finished 1 [] (notices ++ [.error "Rules error" [("error", .text text)]])
    | none => .broken fault.complaint [] notices

section

variable (means : Settings → Means σ) {environment : Environment} {settings : Settings}
  (hsettings : Settings.ofEnvironment environment = .ok settings) (pages : Nat) {args : List String}
  {maxEmails days : Option Int} (premises : Premises σ)

include hsettings

/-- A run over the mail ends as its round ends, and leaves what that leaves. -/
theorem run_eq_of_inRound {dryRun : Bool}
    (hargs : Command.parse args = .ok (.process maxEmails days dryRun)) {outer : τ}
    {office : τ → Office σ} {step : RoundStep τ Unit} {result : Except RoundFault Unit}
    {round : Round τ}
    (hprocess : (processMail (means settings) pages maxEmails days dryRun).run.run
      (premises.station []) =
      (Station.inRound outer office step).run.run (premises.station [starting]))
    (hround : step.run.run ⟨⟨[], premises.supply, outer⟩, [starting]⟩ = (result, round)) :
    run means pages environment args premises =
      (.ofRound result round.notices,
        .ofOffice round.desk.supply premises.disk (office round.desk.outer)) := by
  rw [run_inRound] at hprocess
  simp only [Premises.station, hround] at hprocess
  have hended := run_performAndTell (means settings) pages (.process maxEmails days dryRun)
    ⟨premises.office, premises.supply, premises.disk, [], []⟩
  unfold perform at hended
  dsimp only at hended
  rw [run_bind_eq, hprocess, Premises.office] at hended
  unfold run
  rw [hargs, hsettings]
  dsimp only
  cases result with
  | ok _ =>
    rw [hended]
    rfl
  | error fault =>
    rw [hended]
    dsimp only [Except.mapError, Ending.ofRound]
    cases rulesText? fault.complaint <;> rfl

/-- A run of the program over the mail leaves what its round leaves. -/
theorem run_process (hargs : Command.parse args = .ok (.process maxEmails days false)) :
    run means pages environment args premises =
      let ended := realRound (means settings) pages maxEmails days premises
      (.ofRound ended.1 ended.2.notices,
        .ofOffice ended.2.desk.supply premises.disk ended.2.desk.outer) :=
  run_eq_of_inRound means hsettings pages premises hargs
    (run_processMail (means settings) pages maxEmails days premises) rfl

/-- A dry run leaves what is left of the office that its trial began with. -/
theorem run_process_dry (hargs : Command.parse args = .ok (.process maxEmails days true)) :
    run means pages environment args premises =
      let ended := dryRound (means settings) pages maxEmails days premises
      (.ofRound ended.1 ended.2.notices,
        .ofOffice ended.2.desk.supply premises.disk ended.2.desk.outer.office) :=
  run_eq_of_inRound means hsettings pages premises hargs
    (run_processMail_dry (means settings) pages maxEmails days premises) rfl

end

/-! ## A mailbox with one message -/

/-- What a mailbox answers that has one message and lists it twice. It does whatever it is asked
for. -/
def onlyMessage : MailRequest → Value
  | .profile => .object [("emailAddress", .text "me@example.com")]
  | .list .. =>
    .object [("messages", .list [.object [("id", .text "m1")], .object [("id", .text "m1")]])]
  | .get id _ =>
    .object
      [("id", .text id),
       ("payload", .object
         [("headers",
           .list [.object [("name", .text "Subject"), ("value", .text "Last chance")]])])]
  | _ => .object []

/-- Means with that mailbox. No page is opened, and no script runs. -/
def onlyMailbox (settings : Settings) : Means Unit where
  service request outer := (some (onlyMessage request), outer)
  browse _ _ outer := (false, outer)
  evaluate _ outer := (.thrown "", outer)
  settings := settings
  column := .scaling

def throwingAway : Rule :=
  { id := "r1", name := "Last chances"
    conditions := [{ id := "c1", kind := "subject", value := some (.text "last chance") }]
    actions := [{ id := "a1", kind := "delete_email" }], createdAt := 0, lastModified := 0 }

/-- A database with that rule, at the time zero. -/
def onlyRule : Premises Unit := ⟨{ rules := [throwingAway] }, { now := 0 }, {}, ()⟩

end MailTriage.CommandLine

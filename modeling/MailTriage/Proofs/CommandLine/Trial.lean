import MailTriage.Proofs.CommandLine.Process
import MailTriage.Proofs.Office.Simulation
import MailTriage.Proofs.Store.Session
import MailTriage.Proofs.Triage.Record

/-!
# Dry runs

A dry run looks at the store and reads the mailbox, and that is all. Its passes count firings in a
copy of the rules, their requests are taken as done without reaching the office, and there is no
log. What carries this through a round is that the session of the trial stays the one that it began
with, while the mailbox keeps a record of requests, all of which read.
-/

namespace MailTriage

open CommandLine

variable {α σ : Type}

def Means.watched (means : Means σ) : Means (σ × List MailRequest) where
  service request := recording request (means.service request)
  browse url apart := beside (means.browse url apart)
  evaluate run := beside (means.evaluate run)
  summarize := means.summarize
  summaryTrouble := means.summaryTrouble
  settings := means.settings
  column := means.column

def CommandLine.Premises.watched (premises : Premises σ) (requests : List MailRequest) :
    Premises (σ × List MailRequest) :=
  ⟨premises.data, premises.supply, premises.disk, (premises.outer, requests)⟩

theorem Store.getScore_snd (address : String) (session : Session) :
    (Store.getScore address session).2 = session := by
  unfold Store.getScore
  split
  · rfl
  · exact Session.look_snd _ session

namespace Trial

/-- A trial and the same one with a record: the session is the given one, and the requests on record
read. -/
inductive Watched (session : Session) : Trial σ → Trial (σ × List MailRequest) → Prop
  | mk (list : RuleList) (outer : σ) (requests : List MailRequest)
      (hreads : ∀ request ∈ requests, request.IsRead) :
      Watched session ⟨list, ⟨session, outer⟩⟩ ⟨list, ⟨session, (outer, requests)⟩⟩

namespace Watched

variable {session : Session} {trial : Trial σ} {watched : Trial (σ × List MailRequest)}
  (h : Watched session trial watched)

include h

/-- What is only looked up is found in both, and leaves both as they are. -/
theorem inStore {op : StoreOp α} (hop : (op session).2 = session) :
    Alike (Watched session) (Trial.inOffice (Office.inStore op) trial)
      (Trial.inOffice (Office.inStore op) watched) := by
  obtain ⟨list, outer, requests, hreads⟩ := h
  refine ⟨rfl, ?_⟩
  change Watched session ⟨list, ⟨(op session).2, outer⟩⟩ ⟨list, ⟨(op session).2, (outer, requests)⟩⟩
  rw [hop]
  exact ⟨list, outer, requests, hreads⟩

theorem beside (step : σ → α × σ) :
    Alike (Watched session) (Trial.inOffice (Office.outside step) trial)
      (Trial.inOffice (Office.outside (MailTriage.beside step)) watched) := by
  obtain ⟨list, outer, requests, hreads⟩ := h
  exact ⟨rfl, list, (step outer).2, requests, hreads⟩

theorem read (means : Means σ) {request : MailRequest} (hread : request.IsRead) :
    Alike (Watched session) (Trial.inOffice (Office.outside (means.service request)) trial)
      (Trial.inOffice (Office.outside (means.watched.service request)) watched) := by
  obtain ⟨list, outer, requests, hreads⟩ := h
  refine ⟨rfl, list, (means.service request outer).2, requests ++ [request], fun other hother => ?_⟩
  rcases List.mem_append.mp hother with hother | hother
  · exact hreads other hother
  · exact List.mem_singleton.mp hother ▸ hread

theorem recordFire (ruleId : String) (timestamp : Int) :
    Watched session { trial with list := (trial.list.recordFire ruleId timestamp).2 }
      { watched with list := (watched.list.recordFire ruleId timestamp).2 } := by
  obtain ⟨list, outer, requests, hreads⟩ := h
  exact ⟨_, outer, requests, hreads⟩

theorem enabledRules (means : Means σ) :
    Alike (Watched session) ((Trial.world means).enabledRules trial)
      ((Trial.world means.watched).enabledRules watched) := by
  obtain ⟨list, outer, requests, hreads⟩ := h
  exact ⟨rfl, list, outer, requests, hreads⟩

end Watched

/-- Rounds on trial go alike with a record and without. -/
theorem intake_mirrors (means : Means σ) (session : Session) :
    Intake.Mirrors (Watched session) (.ofTrial means) (.ofTrial means.watched) where
  world :=
    { surroundings :=
        { perform := fun hs _ => ⟨rfl, hs⟩
          evaluate := fun hs run => hs.beside (means.evaluate run) }
      enabledRules := fun hs => hs.enabledRules means
      recordFire := fun hs ruleId timestamp => hs.recordFire ruleId timestamp
      publish := fun hs _ => hs }
  service := ⟨fun hs _ hread => hs.read means hread⟩
  isProcessed hs _ := hs.inStore (Session.look_snd _ session)
  score hs address := hs.inStore (Store.getScore_snd address session)
  finish hs _ _ := ⟨rfl, hs⟩

end Trial

namespace CommandLine

theorem dryRound_alike (means : Means σ) (pages : Nat) (maxEmails days : Option Int)
    (premises : Premises σ) :
    Alike (Round.Related (Trial.Watched (.ofDatabase premises.data)))
      (dryRound means pages maxEmails days premises)
      (dryRound means.watched pages maxEmails days (premises.watched [])) :=
  ((Trial.intake_mirrors means _).run pages maxEmails days).alike
    ⟨⟨rfl, rfl, ⟨_, premises.outer, [], by simp⟩⟩, rfl⟩

/-- A run changes nothing in the database, and of all requests to the mailbox it makes only those
that read: with a record, the same run leaves just these. -/
structure Harmless (means : Settings → Means σ) (pages : Nat) (environment : Environment)
    (args : List String) (premises : Premises σ) (requests : List MailRequest) : Prop where
  data : (run means pages environment args premises).2.data = premises.data
  recorded : run (fun settings => (means settings).watched) pages environment args
    (premises.watched []) =
    ((run means pages environment args premises).1,
      (run means pages environment args premises).2.watched requests)
  reads : ∀ request ∈ requests, request.IsRead

/-- A dry run leaves the whole database as it was, and makes no request to the mailbox that does not
read. -/
theorem run_harmless_of_dry (means : Settings → Means σ) (pages : Nat) (environment : Environment)
    {args : List String} {maxEmails days : Option Int}
    (hargs : Command.parse args = .ok (.process maxEmails days true)) (premises : Premises σ) :
    ∃ requests, Harmless means pages environment args premises requests := by
  cases hsettings : Settings.ofEnvironment environment with
  | error problems =>
    refine ⟨[], ?_, ?_, by simp⟩ <;> simp [run, hargs, hsettings]
  | ok settings =>
    have hrun := run_process_dry means hsettings pages premises hargs
    have hrecorded := run_process_dry (fun settings => (means settings).watched) hsettings pages
      (premises.watched []) hargs
    obtain ⟨result, round, watched, hround, hwatched, hdesk, hnotices⟩ :=
      (dryRound_alike (means settings) pages maxEmails days premises).exists_eq
    rw [hround] at hrun
    rw [hwatched] at hrecorded
    obtain ⟨⟨waiting, supply, trial⟩, notices⟩ := round
    obtain ⟨⟨_, _, watched⟩, _⟩ := watched
    obtain ⟨-, rfl, list, outer, requests, hreads⟩ := hdesk
    obtain rfl := hnotices
    exact ⟨requests, by rw [hrun]; rfl, by rw [hrun, hrecorded]; rfl, hreads⟩

theorem run_harmless_of_dry_onlyMailbox :
    Command.parse ["process", "--dry-run"] = .ok (.process none none true) ∧
      ∃ requests, Harmless onlyMailbox 5 [] ["process", "--dry-run"] onlyRule requests := by
  have hargs : Command.parse ["process", "--dry-run"] = .ok (.process none none true) := by decide
  exact ⟨hargs, run_harmless_of_dry onlyMailbox 5 [] hargs onlyRule⟩

end CommandLine

end MailTriage

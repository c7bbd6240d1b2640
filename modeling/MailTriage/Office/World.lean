import MailTriage.Office.Host
import MailTriage.Store.Log
import MailTriage.Store.Rules
import MailTriage.Triage.Pass

/-!
# Passes in the office and on trial

A pass in the office uses the stored rules and the stored log, and its actions have effects. A pass
on trial uses a copy of the rules: what its actions ask for is taken as done, and nothing changes
but the copy.
-/

namespace MailTriage

variable {σ : Type}

/-- The office as a pass sees it, at a time, with a log that keeps entries for some days. -/
def Office.world (means : Means σ) (now retentionDays : Int) : World (Office σ) :=
  { perform := Office.perform means
    evaluate := fun run => Office.outside (means.evaluate run)
    enabledRules := Office.inStore Store.listEnabledRules
    recordFire := fun ruleId timestamp => Office.inStore (Store.recordFire ruleId timestamp)
    settings := Office.inStore Store.settings
    append := some fun entry => Office.inStore (Store.appendLog now retentionDays entry) }

/-- An office, and a copy of its rules. -/
structure Trial (σ : Type) where
  list : RuleList
  office : Office σ

namespace Trial

def inOffice {α : Type} (f : Office σ → α × Office σ) (trial : Trial σ) : α × Trial σ :=
  let (a, office) := f trial.office
  (a, { trial with office := office })

def world (means : Means σ) : World (Trial σ) :=
  { perform := fun _ trial => (.ok (.bool true), trial)
    evaluate := fun run => inOffice (Office.outside (means.evaluate run))
    enabledRules := fun trial => (.ok trial.list.enabled, trial)
    recordFire := fun ruleId timestamp trial =>
      let (result, list) := trial.list.recordFire ruleId timestamp
      (result, { trial with list := list })
    settings := fun trial => (.ok trial.list.settings, trial) }

end Trial

end MailTriage

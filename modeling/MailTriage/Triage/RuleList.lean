import MailTriage.Host
import MailTriage.Report
import MailTriage.Rule

/-!
# Rules and logs in memory

A list of rules that counts how often each has fired, and a log that forgets entries past their time
whenever it gets a new one.
-/

namespace MailTriage

namespace Rule

def fire (rule : Rule) (timestamp : Int) : Rule :=
  { rule with executionCount := rule.executionCount + 1, lastExecuted := some timestamp }

/-- Counts a firing of the first rule with an identifier; none when there is no such rule. -/
def fireIn? (ruleId : String) (timestamp : Int) : List Rule → Option (List Rule)
  | [] => none
  | rule :: rest =>
    if rule.id = ruleId then some (rule.fire timestamp :: rest)
    else (fireIn? ruleId timestamp rest).map (rule :: ·)

end Rule

def Trouble.noRule (ruleId : String) : Trouble :=
  { kind := "RuleNotFoundError", message := "Rule not found: " ++ ruleId }

/-- Rules in the order given, with their settings. -/
structure RuleList where
  rules : List Rule := []
  settings : RuleSettings := {}

namespace RuleList

def enabled (list : RuleList) : List Rule :=
  list.rules.filter Rule.enabled

def find (ruleId : String) (list : RuleList) : Except Trouble Rule :=
  match list.rules.find? fun rule => rule.id = ruleId with
  | some rule => .ok rule
  | none => .error (.noRule ruleId)

def recordFire (ruleId : String) (timestamp : Int) (list : RuleList) :
    Except Trouble Unit × RuleList :=
  match Rule.fireIn? ruleId timestamp list.rules with
  | some rules => (.ok (), { list with rules := rules })
  | none => (.error (.noRule ruleId), list)

end RuleList

def cutoff (now : Int) (retentionDays : Int) : Int := now - retentionDays * dayMs

abbrev Journal := List LogEntry

/-- Takes an entry, and forgets the entries from before the cutoff that are there already. -/
def Journal.append (now : Int) (retentionDays : Int) (entry : LogEntry) (journal : Journal) :
    Journal :=
  (journal.filter fun earlier => cutoff now retentionDays ≤ earlier.timestamp) ++ [entry]

end MailTriage

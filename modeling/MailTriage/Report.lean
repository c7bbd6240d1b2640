import MailTriage.Value

/-!
# Reports

What a pass found and did: a report for every condition that was evaluated and every action that was
carried out, gathered by rule, and the outcome of the pass with its log entry.
-/

namespace MailTriage

/-- What a condition found. -/
structure ConditionReport where
  conditionId : String
  kind : String
  matched : Bool
  actual : Value := .null
  expected : Value := .null
  error : Option String := none
  deriving Inhabited

/-- What became of an action. -/
structure ActionReport where
  actionId : Option String := none
  kind : String
  success : Bool
  error : Option String := none
  output : Value := .null
  deriving Inhabited

/-- What became of a rule. -/
structure RuleReport where
  ruleId : String
  ruleName : String
  matched : Bool
  conditions : List ConditionReport := []
  actions : List ActionReport := []
  deriving Inhabited

/-- Where a rule sends the reader after an email. -/
inductive Navigation
  | next
  | previous
  deriving DecidableEq, Inhabited

namespace Navigation

def name : Navigation → String
  | next => "next"
  | previous => "previous"

def options : List (String × Navigation) := [("next", .next), ("previous", .previous)]

end Navigation

/-- What a pass over the rules came to. -/
structure PassReport where
  rulesChecked : Int := 0
  rulesFired : Int := 0
  rules : List RuleReport := []
  navigation : Option Navigation := none
  /-- The pass waits for the body of the email. -/
  deferred : Bool := false
  deriving Inhabited

/-- A pass as the log keeps it. -/
structure LogEntry where
  id : String
  timestamp : Int
  emailId : String
  emailSubject : String
  emailFrom : String
  rulesChecked : Int
  rulesFired : Int
  rules : List RuleReport := []
  deriving Inhabited

/-- A report with the log entry of a pass that was not deferred. -/
structure PassOutcome where
  report : PassReport
  entry : Option LogEntry := none
  deriving Inhabited

/-- Counts over the stored rules. -/
structure Statistics where
  totalRules : Int
  enabledRules : Int
  disabledRules : Int
  totalExecutions : Int
  rulesWithExecutions : Int
  logEntries : Int
  deriving DecidableEq, Inhabited

def ConditionReport.toValue (report : ConditionReport) : Value :=
  .object
    [("conditionId", .text report.conditionId),
     ("type", .text report.kind),
     ("matched", .bool report.matched),
     ("actualValue", report.actual),
     ("expectedValue", report.expected),
     ("error", .ofText? report.error)]

def ActionReport.toValue (report : ActionReport) : Value :=
  .object
    [("actionId", .ofText? report.actionId),
     ("type", .text report.kind),
     ("success", .bool report.success),
     ("error", .ofText? report.error),
     ("output", report.output)]

def RuleReport.toValue (report : RuleReport) : Value :=
  .object
    [("ruleId", .text report.ruleId),
     ("ruleName", .text report.ruleName),
     ("matched", .bool report.matched),
     ("conditionResults", .list (report.conditions.map ConditionReport.toValue)),
     ("actionResults", .list (report.actions.map ActionReport.toValue))]

def PassReport.toValue (report : PassReport) : Value :=
  .object
    [("totalRulesChecked", .int report.rulesChecked),
     ("totalRulesFired", .int report.rulesFired),
     ("results", .list (report.rules.map RuleReport.toValue)),
     ("navigation", .ofText? (report.navigation.map Navigation.name)),
     ("deferred", .bool report.deferred)]

def LogEntry.toValue (entry : LogEntry) : Value :=
  .object
    [("id", .text entry.id),
     ("timestamp", .int entry.timestamp),
     ("emailId", .text entry.emailId),
     ("emailSubject", .text entry.emailSubject),
     ("emailFrom", .text entry.emailFrom),
     ("totalRulesChecked", .int entry.rulesChecked),
     ("totalRulesFired", .int entry.rulesFired),
     ("results", .list (entry.rules.map RuleReport.toValue))]

def PassOutcome.toValue (outcome : PassOutcome) : Value :=
  .object
    [("result", outcome.report.toValue),
     ("debugEntry", (outcome.entry.map LogEntry.toValue).getD .null)]

def Statistics.toValue (statistics : Statistics) : Value :=
  .object
    [("totalRules", .int statistics.totalRules),
     ("enabledRules", .int statistics.enabledRules),
     ("disabledRules", .int statistics.disabledRules),
     ("totalExecutions", .int statistics.totalExecutions),
     ("rulesWithExecutions", .int statistics.rulesWithExecutions),
     ("debugLogsCount", .int statistics.logEntries)]

end MailTriage

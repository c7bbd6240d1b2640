import MailTriage.Email
import MailTriage.Form.Scalar
import MailTriage.Report
import MailTriage.Rule

/-!
# Forms of records

What a rule, a report and an email are read from. Most fields have the key of the JSON form and a
second key with underscores; the first one counts when a form has both, and keys that no field has
are ignored.
-/

namespace MailTriage

open Form

/-! ## Rules

A rule that comes without an identifier, or without the time of its creation, is given one on
reading. -/

/-- Reads the value of a condition; what is no scalar is refused once for each kind of scalar. -/
def Scalar.read : Reader Scalar
  | .bool b => pure (.bool b)
  | .int n => pure (.int n)
  | .float x => pure (.float x)
  | .text s => pure (.text s)
  | _ => fun supply =>
    (.error
      [⟨["bool"], .notBoolean⟩, ⟨["int"], .notInteger⟩, ⟨["float"], .notNumber⟩,
       ⟨["str"], .notText⟩], supply)

def Condition.read : Reader Condition := record "RuleCondition" fun form =>
  Condition.mk
    <$> field ["id"] text (.issue "cond") form
    <*> required ["type"] text form
    <*> defaulting ["operator"] text "contains" form
    <*> defaulting ["value"] (optional Scalar.read) none form
    <*> defaulting ["caseSensitive", "case_sensitive"] boolean false form

def Action.read : Reader Action := record "RuleAction" fun form =>
  Action.mk
    <$> field ["id"] text (.issue "action") form
    <*> required ["type"] text form
    <*> defaulting ["parameters"] mapping [] form
    <*> defaulting ["description"] (optional text) none form

def Rule.read : Reader Rule := record "Rule" fun form =>
  Rule.mk
    <$> field ["id"] text (.issue "rule") form
    <*> required ["name"] text form
    <*> defaulting ["description"] (optional text) none form
    <*> defaulting ["enabled"] boolean true form
    <*> defaulting ["conditions"] (listOf Condition.read) [] form
    <*> defaulting ["logicOperator", "logic_operator"] (among Logic.options) .and form
    <*> defaulting ["actions"] (listOf Action.read) [] form
    <*> field ["createdAt", "created_at"] integer .now form
    <*> field ["lastModified", "last_modified"] integer .now form
    <*> defaulting ["executionCount", "execution_count"] natural 0 form
    <*> defaulting ["lastExecuted", "last_executed"] (optional integer) none form

def RuleSettings.read : Reader RuleSettings := record "RulesConfig" fun form =>
  RuleSettings.mk
    <$> defaulting ["debugMode", "debug_mode"] boolean false form
    <*> defaulting ["debugRetentionDays", "debug_retention_days"] natural 7 form

/-! ## Reports

Stored log entries are read back through these forms. A report of a rule has to name the time that
the rule took, which nothing depends on afterwards. -/

def ConditionReport.read : Reader ConditionReport := record "ConditionResult" fun form =>
  ConditionReport.mk
    <$> required ["conditionId", "condition_id"] text form
    <*> required ["type"] text form
    <*> required ["matched"] boolean form
    <*> defaulting ["actualValue", "actual_value"] anything .null form
    <*> defaulting ["expectedValue", "expected_value"] anything .null form
    <*> defaulting ["error"] (optional text) none form

def ActionReport.read : Reader ActionReport := record "ActionResult" fun form =>
  ActionReport.mk
    <$> defaulting ["actionId", "action_id"] (optional text) none form
    <*> required ["type"] text form
    <*> required ["success"] boolean form
    <*> defaulting ["error"] (optional text) none form
    <*> defaulting ["output"] anything .null form

def RuleReport.read : Reader RuleReport := record "RuleResult" fun form =>
  (fun id name matched (_ : Binary64) => RuleReport.mk id name matched)
    <$> required ["ruleId", "rule_id"] text form
    <*> required ["ruleName", "rule_name"] text form
    <*> required ["matched"] boolean form
    <*> required ["executionTimeMs", "execution_time_ms"] number form
    <*> defaulting ["conditionResults", "condition_results"] (listOf ConditionReport.read) [] form
    <*> defaulting ["actionResults", "action_results"] (listOf ActionReport.read) [] form

def PassReport.read : Reader PassReport := record "PassResult" fun form =>
  PassReport.mk
    <$> defaulting ["totalRulesChecked", "total_rules_checked"] integer 0 form
    <*> defaulting ["totalRulesFired", "total_rules_fired"] integer 0 form
    <*> defaulting ["results"] (listOf RuleReport.read) [] form
    <*> defaulting ["navigation"] (optional (among Navigation.options)) none form
    <*> defaulting ["deferred"] boolean false form

def LogEntry.read : Reader LogEntry := record "DebugLogEntry" fun form =>
  LogEntry.mk
    <$> field ["id"] text (.issue "log") form
    <*> required ["timestamp"] integer form
    <*> required ["emailId", "email_id"] text form
    <*> required ["emailSubject", "email_subject"] text form
    <*> required ["emailFrom", "email_from"] text form
    <*> required ["totalRulesChecked", "total_rules_checked"] integer form
    <*> required ["totalRulesFired", "total_rules_fired"] integer form
    <*> defaulting ["results"] (listOf RuleReport.read) [] form

def PassOutcome.read : Reader PassOutcome := record "PassOutcome" fun form =>
  PassOutcome.mk
    <$> required ["result"] PassReport.read form
    <*> defaulting ["debugEntry", "debug_entry"] (optional LogEntry.read) none form

def Statistics.read : Reader Statistics := record "RulesStatistics" fun form =>
  Statistics.mk
    <$> required ["totalRules", "total_rules"] integer form
    <*> required ["enabledRules", "enabled_rules"] integer form
    <*> required ["disabledRules", "disabled_rules"] integer form
    <*> required ["totalExecutions", "total_executions"] integer form
    <*> required ["rulesWithExecutions", "rules_with_executions"] integer form
    <*> required ["debugLogsCount", "debug_logs_count"] integer form

/-! ## Emails and contexts -/

def Email.read : Reader Email := record "EmailMessage" fun form =>
  Email.mk
    <$> required ["id"] text form
    <*> defaulting ["threadId", "thread_id"] (optional text) none form
    <*> defaulting ["subject"] text "" form
    <*> defaulting ["from", "from_address"] text "" form
    <*> defaulting ["to"] text "" form
    <*> defaulting ["date"] (optional text) none form
    <*> defaulting ["body"] (optional text) none form
    <*> defaulting ["htmlBody", "html_body"] (optional text) none form
    <*> defaulting ["snippet"] (optional text) none form
    <*> defaulting ["isRead", "is_read"] boolean false form
    <*> defaulting ["labels"] (listOf text) [] form
    <*> defaulting ["contentLoaded", "content_loaded"] boolean true form

def Sender.read : Reader Sender := record "SenderInfo" fun form =>
  Sender.mk
    <$> defaulting ["email"] text "" form
    <*> defaulting ["name"] text "" form

def Link.read : Reader Link := record "ExtractedLink" fun form =>
  Link.mk
    <$> required ["url"] Form.text form
    <*> defaulting ["text"] Form.text "" form
    <*> defaulting ["domain"] Form.text "" form

def Context.read : Reader Context := record "EvaluationContext" fun form =>
  Context.mk
    <$> required ["email"] Email.read form
    <*> defaulting ["senderInfo", "sender_info"] Sender.read {} form
    <*> defaulting ["extractedLinks", "extracted_links"] (listOf Link.read) [] form
    <*> defaulting ["senderScore", "sender_score"] (optional number) none form
    <*> defaulting ["variables"] mapping [] form

end MailTriage

import MailTriage.Form.Record
import MailTriage.Proofs.Form.Gather

/-!
# Rules and reports read back from their forms

The form of a rule or a report has every field under the first of its keys. Reading it therefore
issues no identifier, does not look at the time and gives the record back; a report is also read
with the time that the rule took.
-/

namespace MailTriage

open Form

namespace Form

theorem optional_ofText? (s : Option String) : optional text (.ofText? s) = pure s := by
  cases s <;> rfl

theorem optional_ofInt? (n : Option Int) : optional integer (.ofInt? n) = pure n := by
  cases n <;> rfl

theorem natural_nat (n : Nat) : natural (.nat n) = pure n := by
  have hcheck :
      (if (n : Int) < 0 then .error (.belowMinimum 0) else .ok (n : Int).toNat : Except Fault Nat) =
      .ok n := if_neg (Int.not_lt.mpr (Int.natCast_nonneg n))
  funext supply
  exact congrFun (congrArg Gather.ofExcept hcheck) supply

theorem among_name (logic : Logic) : among Logic.options (.text logic.name) = pure logic := by
  cases logic <;> rfl

end Form

theorem Condition.read_expected (condition : Condition) :
    optional Scalar.read condition.expected = pure condition.value := by
  unfold expected
  cases condition.value with
  | none => rfl
  | some value => cases value <;> rfl

theorem Condition.read_toValue (condition : Condition) :
    Condition.read condition.toValue = pure condition := by
  unfold Condition.read toValue record required defaulting
  dsimp only
  rw [field_eq_pure rfl condition.read_expected]
  rfl

theorem Action.read_toValue (action : Action) : Action.read action.toValue = pure action := by
  unfold Action.read toValue record required defaulting
  dsimp only
  rw [field_eq_pure rfl (optional_ofText? action.description)]
  rfl

theorem Rule.read_toValue (rule : Rule) : Rule.read rule.toValue = pure rule := by
  unfold Rule.read toValue record required defaulting
  dsimp only
  rw [field_eq_pure rfl (optional_ofText? rule.description),
    field_eq_pure rfl (listOf_map Condition.read_toValue rule.conditions),
    field_eq_pure rfl (among_name rule.logic),
    field_eq_pure rfl (listOf_map Action.read_toValue rule.actions),
    field_eq_pure rfl (natural_nat rule.executionCount),
    field_eq_pure rfl (optional_ofInt? rule.lastExecuted)]
  rfl

theorem RuleSettings.read_toValue (settings : RuleSettings) :
    RuleSettings.read settings.toValue = pure settings := by
  unfold RuleSettings.read toValue record defaulting
  dsimp only
  rw [field_eq_pure rfl (natural_nat settings.retentionDays)]
  rfl

/-! ## Reports -/

theorem ConditionReport.read_toValue (report : ConditionReport) :
    ConditionReport.read report.toValue = pure report := by
  unfold ConditionReport.read toValue record required defaulting
  dsimp only
  rw [field_eq_pure rfl (optional_ofText? report.error)]
  rfl

theorem ActionReport.read_toValue (report : ActionReport) :
    ActionReport.read report.toValue = pure report := by
  unfold ActionReport.read toValue record required defaulting
  dsimp only
  rw [field_eq_pure rfl (optional_ofText? report.actionId),
    field_eq_pure rfl (optional_ofText? report.error)]
  rfl

theorem RuleReport.read_withTime (report : RuleReport) (time : Binary64) :
    RuleReport.read (.object (report.toValue.fields ++ [("executionTimeMs", .float time)])) =
      pure report := by
  unfold RuleReport.read toValue record required defaulting
  dsimp only [Value.fields, List.cons_append, List.nil_append]
  rw [field_eq_pure rfl (listOf_map ConditionReport.read_toValue report.conditions),
    field_eq_pure rfl (listOf_map ActionReport.read_toValue report.actions)]
  rfl

end MailTriage

import MailTriage.Action.Step
import MailTriage.Catalog.Definition
import MailTriage.Matching.Comparison
import MailTriage.Rule
import MailTriage.Text.Part

/-!
# Checking rules

Rules with mistakes can be stored and run: the parts that make no sense never match or fail. A check
finds such parts beforehand, so that whoever edits or imports rules can be told.
-/

namespace MailTriage

/-- What is wrong with a rule. -/
inductive Objection
  | blankName
  | countersDisagree
  | unknownField (conditionId kind : String)
  | unknownOperator (conditionId operator : String)
  | unsupportedOperator (conditionId : String) (operator : Operator) (kind : String)
  | badPattern (conditionId pattern : String) (fault : Pattern.Fault)
  | unknownStep (actionId kind : String)
  | badParameter (actionId : String) (problem : Form.Problem)

namespace Objection

def text : Objection → String
  | blankName => "Rule name must not be empty"
  | countersDisagree => "lastExecuted must be set exactly when executionCount is positive"
  | unknownField id kind => "Condition " ++ id ++ ": unknown type " ++ Text.quoted kind
  | unknownOperator id operator =>
    "Condition " ++ id ++ ": unknown operator " ++ Text.quoted operator
  | unsupportedOperator id operator kind =>
    "Condition " ++ id ++ ": operator " ++ Text.quoted operator.name ++ " is not supported by " ++
      Text.quoted kind
  | badPattern id pattern fault =>
    "Condition " ++ id ++ ": invalid regex: " ++ fault.message pattern
  | unknownStep id kind => "Action " ++ id ++ ": unknown type " ++ Text.quoted kind
  | badParameter id problem => "Action " ++ id ++ ": " ++ problem.text "parameters"

end Objection

def Scalar.patternText : Scalar → String
  | .bool true => "True"
  | .bool false => "False"
  | .int n => String.ofList (Json.encodeInt n)
  | .float x => x.text .report
  | .text s => s

namespace Condition

/-- What is wrong with the pattern of a condition. A pattern that cannot be read for want of room,
or that is a whole number too long to be written, ends the check. -/
def patternObjections (condition : Condition) : Except ComparisonFailure (List Objection) :=
  match condition.value with
  | none => .ok []
  | some value =>
    if Json.isWritable value.toValue then
      match Pattern.read value.patternText false with
      | .ok _ => .ok []
      | .error (.malformed fault) => .ok [.badPattern condition.id value.patternText fault]
      | .error refusal => .error (.unusablePattern refusal)
    else .error .numberTooLong

def objections (condition : Condition) : Except ComparisonFailure (List Objection) :=
  match Catalog.condition? condition.kind, Operator.ofName? condition.operator with
  | none, _ => .ok [.unknownField condition.id condition.kind]
  | some _, none => .ok [.unknownOperator condition.id condition.operator]
  | some definition, some operator => do
    let unsupported := if definition.operators.contains operator then []
      else [Objection.unsupportedOperator condition.id operator condition.kind]
    let patterns ← if operator = .regexMatch then condition.patternObjections else pure []
    return unsupported ++ patterns

end Condition

def Action.objections (action : Action) : List Objection :=
  match ActionKind.ofName? action.kind with
  | none => [.unknownStep action.id action.kind]
  | some kind =>
    match (Step.ofFields kind action.parameters ⟨0, 0⟩).1 with
    | .ok _ => []
    | .error problems => problems.map (.badParameter action.id)

namespace Rule

def ownObjections (rule : Rule) : List Objection :=
  (if Text.isBlankText rule.name then [.blankName] else []) ++
    (if rule.lastExecuted.isSome = (0 < rule.executionCount) then [] else [.countersDisagree])

def objections (rule : Rule) : Except ComparisonFailure (List Objection) := do
  let conditions ← rule.conditions.mapM Condition.objections
  return rule.ownObjections ++ conditions.flatten ++ rule.actions.flatMap Action.objections

end Rule

end MailTriage

import MailTriage.Catalog.Definition
import MailTriage.Matching.Comparison
import MailTriage.Report
import MailTriage.Rule

/-!
# Evaluating conditions

A condition finds its field in the context and compares it. Conditions of a rule are evaluated in
order, up to the first one that decides the answer.
-/

namespace MailTriage

def Context.read? (context : Context) : Subject → Value
  | .saved name => (context.bindings.get? name).getD .null
  | .field .senderEmail => .text context.sender.email
  | .field .senderName => .text context.sender.name
  | .field .subject => .text context.email.subject
  | .field .content => .ofText? context.email.content
  | .field .contentRegex => .ofText? context.email.content
  | .field .urlContains => .text context.linkUrls
  | .field .linkDomain => .text context.linkDomains
  | .field .senderScore => .ofFloat? context.score
  | .field .hasLinks => .bool (!context.links.isEmpty)
  | .field .customVariable => .null

/-- Why the comparison of a condition cannot be made, with the text of its pattern. -/
structure ConditionFailure where
  failure : ComparisonFailure
  pattern : String
  deriving DecidableEq

def ConditionFailure.message (failure : ConditionFailure) : String :=
  failure.failure.message failure.pattern

namespace Condition

/-- The operator that a condition is evaluated with: its own when the catalog lists it for the
field, and `contains` otherwise. -/
def effectiveOperator (condition : Condition) : Operator :=
  match Catalog.condition? condition.kind, Operator.ofName? condition.operator with
  | some definition, some operator =>
    if definition.operators.contains operator then operator else .contains
  | _, _ => .contains

/-- Whether a condition tests the body of the email. -/
def readsContent (condition : Condition) : Bool :=
  match Subject.ofKind? condition.kind with
  | some subject => subject.isContent
  | none => false

def unevaluated (condition : Condition) (error : String) : ConditionReport :=
  { conditionId := condition.id, kind := condition.kind, matched := false
    expected := condition.expected, error := some error }

/-- Evaluates a condition. Both sides of the comparison are noted in the journal afterwards. -/
def evaluate (condition : Condition) (context : Context) :
    Except ConditionFailure ConditionReport :=
  if condition.readsContent && !context.email.contentLoaded then
    .ok (condition.unevaluated "Content not loaded - condition skipped")
  else
    match Subject.ofKind? condition.kind with
    | none => .ok (condition.unevaluated ("Unknown condition type: " ++ condition.kind))
    | some subject =>
      let actual := context.read? subject
      match condition.effectiveOperator.apply condition.caseSensitive actual condition.expected with
      | .error failure => .error ⟨failure, condition.expected.spelled⟩
      | .ok matched =>
        if Json.isWritable condition.expected && Json.isWritable actual then
          .ok { conditionId := condition.id, kind := condition.kind, matched := matched
                actual := actual, expected := condition.expected }
        else .error ⟨.numberTooLong, condition.expected.spelled⟩

end Condition

namespace Logic

def isDecidedBy (logic : Logic) (matched : Bool) : Bool :=
  match logic with
  | and => !matched
  | or => matched

/-- Evaluates conditions up to the first that decides; the answer is that of the last one
evaluated. -/
def evaluateAll (logic : Logic) (context : Context) :
    List Condition → Except ConditionFailure (Bool × List ConditionReport)
  | [] => .ok (logic = .and, [])
  | condition :: rest => do
    let report ← condition.evaluate context
    if logic.isDecidedBy report.matched then .ok (report.matched, [report])
    else
      let (matched, reports) ← evaluateAll logic context rest
      .ok (matched, report :: reports)

/-- Joins conditions; none at all never match. -/
def combine (logic : Logic) (context : Context) (conditions : List Condition) :
    Except ConditionFailure (Bool × List ConditionReport) :=
  if conditions.isEmpty then .ok (false, []) else logic.evaluateAll context conditions

end Logic

end MailTriage

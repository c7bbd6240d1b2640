import MailTriage.Form.Record
import MailTriage.Number.Column
import MailTriage.Store.Database

/-!
# Stored rules

Rules are listed in the order of their creation. A rule is created with fresh counters, changed
field by field, switched on and off, deleted, and counted when it fires; all rules can be replaced
at once, or not at all. The value of a condition is written as a document into a column that prefers
numbers, and whole ones among them.
-/

namespace MailTriage

/-- A floating number as a column of numbers keeps it. One that is whole, and strictly inside the
column, becomes a whole number. -/
def Scalar.ofReal (x : Binary64) : Scalar :=
  match x.truncate? with
  | some n => if x.isInteger && n.natAbs < 9223372036854775807 then .int n else .float x
  | none => .float x

/-- A value as a column of numbers keeps it. What is written as a decimal is read by the column, but
for whole numbers that fit; a text, in its quotes, is no number. -/
def Scalar.stored (column : NumberColumn) : Scalar → Scalar
  | .int n =>
    if fitsWord n then .int n else .ofReal (column.read (String.ofList (Json.encodeInt n)))
  | .float x => if x.isFinite then .ofReal (column.read (x.text .document)) else .float x
  | value => value

def Condition.stored (column : NumberColumn) (condition : Condition) : Condition :=
  { condition with value := condition.value.map (Scalar.stored column) }

namespace Rule

def stored (column : NumberColumn) (rule : Rule) : Rule :=
  { rule with conditions := rule.conditions.map (Condition.stored column) }

/-- Whether the numbers of a rule have a place in their columns. -/
def fits (rule : Rule) : Bool :=
  fitsWord rule.createdAt && fitsWord rule.lastModified && fitsWord rule.executionCount &&
    rule.lastExecuted.all fitsWord

/-- Whether the values of conditions and the parameters of actions can be written into their
columns. -/
def isWritable (rule : Rule) : Bool :=
  (rule.conditions.all fun condition => Json.isWritable condition.expected) &&
    rule.actions.all fun action => Json.membersWritable action.parameters

/-- Whether a rule is listed before another, or may be: by creation, then by identifier. -/
def listedBefore (a b : Rule) : Bool :=
  a.createdAt < b.createdAt || (a.createdAt = b.createdAt && !(b.id < a.id))

/-- The form of a rule under the long names of its fields, with some fields replaced. -/
def formWith (rule : Rule) (updates : Fields) : Fields :=
  Fields.merge
    [("id", .text rule.id),
     ("name", .text rule.name),
     ("description", .ofText? rule.description),
     ("enabled", .bool rule.enabled),
     ("conditions", .list (rule.conditions.map fun condition => .object
       [("id", .text condition.id), ("type", .text condition.kind),
        ("operator", .text condition.operator), ("value", condition.expected),
        ("case_sensitive", .bool condition.caseSensitive)])),
     ("logic_operator", .text rule.logic.name),
     ("actions", .list (rule.actions.map Action.toValue)),
     ("created_at", .int rule.createdAt),
     ("last_modified", .int rule.lastModified),
     ("execution_count", .nat rule.executionCount),
     ("last_executed", .ofInt? rule.lastExecuted)]
    updates

/-- How often rules have fired, all in all. -/
def executions : List Rule → Nat
  | [] => 0
  | rule :: rest => rule.executionCount + executions rest

def created (rule : Rule) (now : Int) : Rule :=
  { rule with createdAt := now, lastModified := now, executionCount := 0, lastExecuted := none }

end Rule

/-- Why a rule could not be changed. -/
inductive UpdateFault
  | store (trouble : Trouble)
  | form (problems : List Form.Problem)

namespace Database

def listRules (data : Database) : List Rule :=
  data.rules.mergeSort Rule.listedBefore

/-- The rules that are switched on, in the same order. -/
def listEnabled (data : Database) : List Rule :=
  data.listRules.filter Rule.enabled

def rule? (ruleId : String) (data : Database) : Option Rule :=
  data.rules.find? fun rule => rule.id = ruleId

def putRule (rule : Rule) (data : Database) : Database :=
  { data with rules := data.rules.map fun old => if old.id = rule.id then rule else old }

/-- Adds rules one after another; the first whose numbers do not fit, or that comes twice, spoils it
all. -/
def placeRules (column : NumberColumn) : List Rule → Database → Except Trouble Database
  | [], data => .ok data
  | rule :: rest, data =>
    if !rule.fits then .error .tooLarge
    else if (data.rule? rule.id).isSome then .error .violation
    else placeRules column rest { data with rules := data.rules ++ [rule.stored column] }

/-- Adds rules with their conditions and actions, which are written after all of the rules. -/
def addRules (column : NumberColumn) (rules : List Rule) (data : Database) :
    Except Trouble Database :=
  match placeRules column rules data with
  | .error trouble => .error trouble
  | .ok data => if rules.all Rule.isWritable then .ok data else .error .tooLong

def ruleSettings (data : Database) : RuleSettings := data.settings.getD {}

def statistics (data : Database) : Statistics :=
  let enabled := (data.rules.filter Rule.enabled).length
  { totalRules := data.rules.length
    enabledRules := enabled
    disabledRules := data.rules.length - enabled
    totalExecutions := Rule.executions data.rules
    rulesWithExecutions := (data.rules.filter fun rule => 0 < rule.executionCount).length
    logEntries := data.log.length }

end Database

namespace Store

open Session (apply look)

def listRules : StoreOp (List Rule) := look Database.listRules

def listEnabledRules : StoreOp (List Rule) := look Database.listEnabled

def getRule (ruleId : String) : StoreOp Rule :=
  apply fun data =>
    match data.rule? ruleId with
    | some rule => .keep rule data
    | none => .refuse (.noRule ruleId)

def createRule (column : NumberColumn) (now : Int) (rule : Rule) : StoreOp Rule :=
  apply fun data =>
    if (data.rule? rule.id).isSome then
      .refuse { kind := "RulesError", message := "Rule already exists: " ++ rule.id }
    else
      match data.addRules column [rule.created now] with
      | .ok data => .save (rule.created now) data
      | .error trouble => .abort trouble

/-- Puts a rule, with its conditions and actions, in the place of the one with its identifier. -/
def writeRule (column : NumberColumn) (rule : Rule) (data : Database) : Effect Rule :=
  if !rule.fits then .abort .tooLarge
  else if !rule.isWritable then .abort .tooLong
  else .save rule (data.putRule (rule.stored column))

/-- Replaces some fields of a rule. The identifier and the time of creation are not among them, and
the time of the change is. Identifiers that new parts need come from the supply. -/
def updateRule (column : NumberColumn) (ruleId : String) (updates : Fields) (supply : Supply)
    (session : Session) : Except UpdateFault Rule × Supply × Session :=
  match getRule ruleId session with
  | (.error trouble, session) => (.error (.store trouble), supply, session)
  | (.ok rule, session) =>
    let updates := ((updates.erase "id").erase "created_at").set "last_modified" (.int supply.now)
    match Rule.read (.object (rule.formWith updates)) supply with
    | (.error problems, supply) => (.error (.form problems), supply, session)
    | (.ok rule, supply) =>
      let written : StoreOp Rule := apply (writeRule column rule)
      match written session with
      | (.ok rule, session) => (.ok rule, supply, session)
      | (.error trouble, session) => (.error (.store trouble), supply, session)

/-- Switches a rule on when it is off, and off when it is on. -/
def toggleRule (column : NumberColumn) (ruleId : String) (supply : Supply) (session : Session) :
    Except UpdateFault Rule × Supply × Session :=
  match getRule ruleId session with
  | (.error trouble, session) => (.error (.store trouble), supply, session)
  | (.ok rule, session) =>
    updateRule column ruleId [("enabled", .bool (!rule.enabled))] supply session

def deleteRule (ruleId : String) : StoreOp Bool :=
  apply fun data =>
    match data.rule? ruleId with
    | none => .keep false data
    | some _ => .save true { data with rules := data.rules.filter fun rule => rule.id ≠ ruleId }

/-- Replaces all rules and tells how many there are now. -/
def replaceRules (column : NumberColumn) (rules : List Rule) : StoreOp Nat :=
  apply fun data =>
    match Database.addRules column rules { data with rules := [] } with
    | .ok data => .save rules.length data
    | .error trouble => .abort trouble

/-- Counts a firing of a rule; a rule that is gone is not counted. -/
def recordFire (ruleId : String) (timestamp : Int) : StoreOp Unit :=
  apply fun data =>
    match data.rule? ruleId with
    | none => .keep () data
    | some rule =>
      let fired := rule.fire timestamp
      if fired.fits then .save () (data.putRule fired) else .abort .tooLarge

def settings : StoreOp RuleSettings := look Database.ruleSettings

def setSettings (settings : RuleSettings) : StoreOp Unit :=
  apply fun data => .save () { data with settings := some settings }

def statistics : StoreOp Statistics := look Database.statistics

end Store

end MailTriage

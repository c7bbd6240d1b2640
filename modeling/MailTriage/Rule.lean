import MailTriage.Value

/-!
# Rules

A rule has conditions, joined by AND or OR, and actions that run when it matches. The kind of a
condition or an action and the operator of a condition are texts: a rule with a kind that nobody
knows can be stored and edited, and only fails when it runs. The JSON forms of rules are what
backups and stores hold.
-/

namespace MailTriage

/-- A value that a condition compares with. -/
inductive Scalar
  | bool (b : Bool)
  | int (n : Int)
  | float (x : Binary64)
  | text (s : String)
  deriving DecidableEq, Inhabited

def Scalar.toValue : Scalar → Value
  | .bool b => .bool b
  | .int n => .int n
  | .float x => .float x
  | .text s => .text s

/-- A test of one field of an email. -/
structure Condition where
  id : String
  kind : String
  operator : String := "contains"
  value : Option Scalar := none
  caseSensitive : Bool := false
  deriving DecidableEq, Inhabited

namespace Condition

def expected (condition : Condition) : Value :=
  match condition.value with
  | some scalar => scalar.toValue
  | none => .null

def toValue (condition : Condition) : Value :=
  .object
    [("id", .text condition.id),
     ("type", .text condition.kind),
     ("operator", .text condition.operator),
     ("value", condition.expected),
     ("caseSensitive", .bool condition.caseSensitive)]

end Condition

/-- A step to take when a rule matches. -/
structure Action where
  id : String
  kind : String
  parameters : Fields := []
  description : Option String := none
  deriving Inhabited

def Action.toValue (action : Action) : Value :=
  .object
    [("id", .text action.id),
     ("type", .text action.kind),
     ("parameters", .object action.parameters),
     ("description", .ofText? action.description)]

/-- How conditions join. -/
inductive Logic
  | and
  | or
  deriving DecidableEq, Inhabited

namespace Logic

def name : Logic → String
  | and => "AND"
  | or => "OR"

def options : List (String × Logic) := [("AND", .and), ("OR", .or)]

end Logic

/-- A rule with its counters. Times are milliseconds since 1970. -/
structure Rule where
  id : String
  name : String
  description : Option String := none
  enabled : Bool := true
  conditions : List Condition := []
  logic : Logic := .and
  actions : List Action := []
  createdAt : Int
  lastModified : Int
  executionCount : Nat := 0
  lastExecuted : Option Int := none
  deriving Inhabited

def Rule.toValue (rule : Rule) : Value :=
  .object
    [("id", .text rule.id),
     ("name", .text rule.name),
     ("description", .ofText? rule.description),
     ("enabled", .bool rule.enabled),
     ("conditions", .list (rule.conditions.map Condition.toValue)),
     ("logicOperator", .text rule.logic.name),
     ("actions", .list (rule.actions.map Action.toValue)),
     ("createdAt", .int rule.createdAt),
     ("lastModified", .int rule.lastModified),
     ("executionCount", .nat rule.executionCount),
     ("lastExecuted", .ofInt? rule.lastExecuted)]

/-- Whether passes are logged, and for how many days. -/
structure RuleSettings where
  debugMode : Bool := false
  retentionDays : Nat := 7
  deriving DecidableEq, Inhabited

def RuleSettings.toValue (settings : RuleSettings) : Value :=
  .object
    [("debugMode", .bool settings.debugMode),
     ("debugRetentionDays", .nat settings.retentionDays)]

def dayMs : Int := 24 * 60 * 60 * 1000

end MailTriage

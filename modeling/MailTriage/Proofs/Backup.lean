import MailTriage.Backup
import MailTriage.Proofs.Form.Rule
import MailTriage.Proofs.Json.Document

/-!
# Backups read back

What was written into a backup is read out of it again: the same rules in the same order with all
their fields, and the same settings or none. A document that is read takes no identifier and no time
from the supply.
-/

namespace MailTriage

open Form Number

/-! ## Rules that documents hold -/

namespace Value

theorem isPortable_ofText? (s : Option String) : (ofText? s).isPortable = true := by
  cases s <;> rfl

theorem isPortable_ofInt? (n : Option Int) : (ofInt? n).isPortable = n.all isReadable := by
  cases n <;> rfl

end Value

namespace Scalar

/-- Whether a value is a text, a boolean, a finite number, or a whole number that can be read. -/
def isPortable : Scalar → Bool
  | .int n => isReadable n
  | .float x => x.isFinite
  | .bool _ => true
  | .text _ => true

theorem isPortable_toValue (value : Scalar) : value.toValue.isPortable = value.isPortable := by
  cases value <;> rfl

end Scalar

namespace Condition

def isPortable (condition : Condition) : Bool := condition.value.all Scalar.isPortable

theorem isPortable_toValue (condition : Condition) :
    condition.toValue.isPortable = condition.isPortable := by
  have hexpected : condition.expected.isPortable = condition.isPortable := by
    unfold expected isPortable
    cases condition.value with
    | none => rfl
    | some value => exact value.isPortable_toValue
  simp [toValue, Value.isPortable, Value.membersPortable, hexpected]

end Condition

namespace Action

def isPortable (action : Action) : Bool := (Value.object action.parameters).isPortable

theorem isPortable_toValue (action : Action) : action.toValue.isPortable = action.isPortable := by
  simp [toValue, isPortable, Value.isPortable, Value.membersPortable, Value.isPortable_ofText?]

end Action

namespace Rule

def isPortable (rule : Rule) : Bool :=
  rule.conditions.all Condition.isPortable && rule.actions.all Action.isPortable &&
    isReadable rule.createdAt && isReadable rule.lastModified && isReadable rule.executionCount &&
    rule.lastExecuted.all isReadable

theorem isPortable_toValue (rule : Rule) : rule.toValue.isPortable = rule.isPortable := by
  simp [toValue, isPortable, Value.isPortable, Value.membersPortable, Value.isPortable_ofText?,
    Value.allPortable_eq_all, Value.isPortable_ofInt?, Function.comp_def,
      Condition.isPortable_toValue, Action.isPortable_toValue, Value.nat, Bool.and_assoc]

end Rule

namespace RuleSettings

def isPortable (settings : RuleSettings) : Bool := isReadable settings.retentionDays

theorem isPortable_toValue (settings : RuleSettings) :
    settings.toValue.isPortable = settings.isPortable := by
  simp [toValue, isPortable, Value.isPortable, Value.membersPortable, Value.nat]

end RuleSettings

namespace Backup

/-- Whether a document holds all rules and the settings as they are. -/
def isPortable (backup : Backup) : Bool :=
  backup.rules.all Rule.isPortable && backup.settings.all RuleSettings.isPortable

theorem isPortable_toValue (backup : Backup) (exportedAt : Int) :
    (backup.toValue exportedAt).isPortable = (isReadable exportedAt && backup.isPortable) := by
  obtain ⟨rules, _ | settings⟩ := backup <;>
    simp [toValue, isPortable, Value.isPortable, Value.membersPortable, Value.allPortable_eq_all,
      Function.comp_def, Rule.isPortable_toValue, RuleSettings.isPortable_toValue]

/-! ## Reading -/

theorem readRules_toValue (rules : List Rule) :
    readRules (rules.map Rule.toValue) = pure rules := by
  induction rules with
  | nil => rfl
  | cons rule rest ih =>
    funext supply
    rw [List.map_cons, readRules, Rule.read_toValue, ih]
    rfl

theorem parts?_toValue (backup : Backup) (exportedAt : Int) :
    parts? (backup.toValue exportedAt) =
      some (backup.rules.map Rule.toValue,
        (backup.settings.map RuleSettings.toValue).getD .null) := by
  obtain ⟨rules, _ | settings⟩ := backup <;> rfl

theorem optional_settings (settings : Option RuleSettings) :
    optional RuleSettings.read ((settings.map RuleSettings.toValue).getD .null) =
      pure settings := by
  cases settings with
  | none => rfl
  | some settings =>
    change some <$> RuleSettings.read settings.toValue = _
    rw [RuleSettings.read_toValue]
    rfl

theorem readParts_toValue (backup : Backup) :
    readParts (backup.rules.map Rule.toValue)
      ((backup.settings.map RuleSettings.toValue).getD .null) =
      pure backup := by
  funext supply
  rw [readParts, readRules_toValue, optional_settings]
  rfl

/-- Reading a written backup gives back its rules and its settings, and issues nothing. All numbers
that are written, the time of the writing among them, have to be short enough to be read. -/
theorem read_write {backup : Backup} {exportedAt : Int} (hbackup : backup.isPortable = true)
    (hdate : isReadable exportedAt = true) (supply : Supply) :
    read (backup.write exportedAt) supply = (.ok backup, supply) := by
  have hparse : Json.parse (backup.write exportedAt) = .ok (backup.toValue exportedAt) :=
    Json.parse_page (by rw [isPortable_toValue, hdate, hbackup]; rfl)
  rw [read, hparse]
  dsimp only
  rw [parts?_toValue]
  dsimp only
  rw [readParts_toValue]
  rfl

/-- A rule that compares with true, with one as a whole number, as a floating one and as a text, and
whose action has nested parameters, one of them beyond the basic plane. -/
def mixedRule : Rule :=
  { id := "r", name := "Mixed", description := some "A \"quoted\" line\n", createdAt := 2,
    lastModified := 1
    executionCount := 3, lastExecuted := some (-4), logic := .or
    conditions :=
      [{ id := "c1", kind := "has_links", operator := "equals", value := some (.bool true) },
       { id := "c2", kind := "sender_score", operator := "equals", value := some (.int 1) },
       { id := "c3", kind := "sender_score", operator := "equals",
         value := some (.float (Binary64.ofInt 1)) },
       { id := "c4", kind := "subject", operator := "equals", value := some (.text "1") }]
    actions :=
      [{ id := "a", kind := "save_variable"
         parameters := [("z",
           .list [.object [("y", .null), ("x", .float (Binary64.ofInt (-2)))], .list []]),
           ("a", .text "📧")] }] }

def mixedBackup : Backup := { rules := [mixedRule, mixedRule], settings := some {} }

theorem read_write_mixedBackup :
    mixedBackup.isPortable = true ∧ isReadable 5 = true ∧
      read (mixedBackup.write 5) ⟨0, 0⟩ = (.ok mixedBackup, ⟨0, 0⟩) := by
  have hbackup : mixedBackup.isPortable = true := by decide +kernel
  have hdate : isReadable 5 = true := by decide +kernel
  exact ⟨hbackup, hdate, read_write hbackup hdate ⟨0, 0⟩⟩

end Backup

end MailTriage

import MailTriage.Form.Record
import MailTriage.Json.Reader

/-!
# Backups

A backup is a JSON document with rules and the settings of the log. A plain list of rules is
accepted as one, too. Reading checks the shape of the rules only.
-/

namespace MailTriage

structure Backup where
  rules : List Rule
  settings : Option RuleSettings := none
  deriving Inhabited

/-- Why a document is no backup. -/
inductive BackupFault
  | document (text : String) (failure : Json.Failure)
  | noRules
  | form (problems : List Form.Problem)

namespace BackupFault

/-- Whether the document itself is in order, but holds a number too long to be read. -/
def isOverlong : BackupFault → Bool
  | document _ (.tooManyDigits _) => true
  | _ => false

def message : BackupFault → String
  | document text (.tooManyDigits count) => Json.Failure.message text (.tooManyDigits count)
  | document text failure => "Invalid JSON: " ++ failure.message text
  | noRules => "Invalid import data: missing or invalid rules array"
  | form problems => "Invalid rule structure in import data: " ++ Form.problemsText "" problems

end BackupFault

namespace Backup

def version : String := "1.0"

def toValue (backup : Backup) (exportedAt : Int) : Value :=
  .object ([("version", .text version), ("exportedAt", .int exportedAt),
    ("rules", .list (backup.rules.map Rule.toValue))] ++
    (match backup.settings with
     | some settings => [("config", settings.toValue)]
     | none => []))

def write (backup : Backup) (exportedAt : Int) : String :=
  Json.page (backup.toValue exportedAt)

/-- The items that should be rules, and what should be settings. -/
def parts? : Value → Option (List Value × Value)
  | .list items => some (items, .null)
  | .object fields =>
    match Fields.get? "rules" fields with
    | some (Value.list items) => some (items, (Fields.get? "config" fields).getD .null)
    | _ => none
  | _ => none

/-- Reads rules one by one, up to the first that is none. -/
def readRules : List Value → Form.Gather (List Rule)
  | [] => pure []
  | item :: rest => fun supply =>
    match Rule.read item supply with
    | (.error problems, supply) => (.error problems, supply)
    | (.ok rule, supply) => (List.cons rule <$> readRules rest) supply

/-- Reads rules first and settings, unless they are null, when every rule is one. -/
def readParts (items : List Value) (settings : Value) : Form.Gather Backup := fun supply =>
  match readRules items supply with
  | (.error problems, supply) => (.error problems, supply)
  | (.ok rules, supply) => (Backup.mk rules <$> Form.optional RuleSettings.read settings) supply

def read (text : String) (supply : Supply) : Except BackupFault Backup × Supply :=
  match Json.parse text with
  | .error failure => (.error (.document text failure), supply)
  | .ok document =>
    match parts? document with
    | none => (.error .noRules, supply)
    | some (items, settings) =>
      match readParts items settings supply with
      | (.error problems, supply) => (.error (.form problems), supply)
      | (.ok backup, supply) => (.ok backup, supply)

end Backup

end MailTriage

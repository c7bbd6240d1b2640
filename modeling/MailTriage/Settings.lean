import MailTriage.Form.Scalar
import MailTriage.Keyed

/-!
# Settings of the program

The program is set up by variables of its environment. Each setting has a usual value; a variable
that is absent or empty leaves it.
-/

namespace MailTriage

open Form

abbrev Environment := Keyed String

/-- What becomes of an email whose summary is requested. -/
inductive SummaryMode
  | saveForLater
  | generate
  deriving DecidableEq, Inhabited

namespace SummaryMode

def options : List (String × SummaryMode) :=
  [("save_for_later", saveForLater), ("generate", generate)]

def name : SummaryMode → String
  | saveForLater => "save_for_later"
  | generate => "generate"

end SummaryMode

/-- The settings of the program. -/
structure Settings where
  databaseUrl : String := "sqlite:///email_triage.db"
  rulesFile : String := "config/rules.json"
  scriptTimeoutMs : Nat := 1000
  scriptMaxMemoryMb : Nat := 64
  summaryMode : SummaryMode := .saveForLater
  /-- Whether pages are really opened. -/
  openUrls : Bool := false
  notificationsEnabled : Bool := true
  /-- What a sender is credited with for a summary. -/
  summaryPoints : Binary64 := Binary64.ofInt 1
  tokenFile : String := ".secrets/token.json"
  deriving Inhabited

namespace Settings

def names : List String :=
  ["database_url", "rules_file", "script_timeout_ms", "script_max_memory_mb",
    "summary_mode", "open_urls",
   "notifications_enabled", "summary_points", "gmail_token_file"]

def readFields (form : Fields) : Gather Settings :=
  Settings.mk
    <$> defaulting ["database_url"] text "sqlite:///email_triage.db" form
    <*> defaulting ["rules_file"] text "config/rules.json" form
    <*> defaulting ["script_timeout_ms"] positive 1000 form
    <*> defaulting ["script_max_memory_mb"] positive 64 form
    <*> defaulting ["summary_mode"] (constant SummaryMode.options) .saveForLater form
    <*> defaulting ["open_urls"] boolean false form
    <*> defaulting ["notifications_enabled"] boolean true form
    <*> defaulting ["summary_points"] number (Binary64.ofInt 1) form
    <*> defaulting ["gmail_token_file"] text ".secrets/token.json" form

def variableName (name : String) : String := String.ofList (name.toList.map Char.toUpper)

def form (environment : Environment) : Fields :=
  names.filterMap fun name =>
    match environment.find? (variableName name) with
    | some value => if value.isEmpty then none else some (name, .text value)
    | none => none

def ofEnvironment (environment : Environment) : Except (List Problem) Settings :=
  (readFields (form environment) ⟨0, 0⟩).1

def toValue (settings : Settings) : Value :=
  .object
    [("database_url", .text settings.databaseUrl),
     ("rules_file", .text settings.rulesFile),
     ("script_timeout_ms", .nat settings.scriptTimeoutMs),
     ("script_max_memory_mb", .nat settings.scriptMaxMemoryMb),
     ("summary_mode", .text settings.summaryMode.name),
     ("open_urls", .bool settings.openUrls),
     ("notifications_enabled", .bool settings.notificationsEnabled),
     ("summary_points", .float settings.summaryPoints),
     ("gmail_token_file", .text settings.tokenFile)]

def scriptMaxMemory (settings : Settings) : Nat := settings.scriptMaxMemoryMb * 1024 * 1024

end Settings

end MailTriage

import MailTriage.CommandLine.Arguments
import MailTriage.Number.Reading

/-!
# Commands

The commands of the program with their options.
-/

namespace MailTriage.CommandLine

inductive Command
  | process (maxEmails days : Option Int) (dryRun : Bool)
  | importRules (file : Option String)
  | exportRules (file : Option String)
  | list
  | catalog
  | stats
  | logs (limit : Int) (clear : Bool)
  | seedExamples
  | toggle (ruleId : String)
  | delete (ruleId : String)
  | config (debug : Option Bool) (retentionDays : Option Int)
  deriving DecidableEq

def wholeNumber? (s : String) : Option Int := Number.freeInteger? s.toList

def flag (name : String) : Choice := { name := name }

def number (name : String) : Choice :=
  { name := name, accepts := some fun s => (wholeNumber? s).isSome }

/-- The number of the log entries that are shown unless something else is asked for. -/
def usualLimit : Int := 20

namespace Arguments

def number? (name : String) (arguments : Arguments) : Option Int :=
  (arguments.value? name).bind wholeNumber?

end Arguments

/-- The commands by name: what each takes, and what becomes of it. -/
def commands : List (String × Synopsis × (Arguments → Command)) :=
  [("process",
    { choices := [number "--max-emails", number "--days", flag "--dry-run"] },
    fun given =>
      .process (given.number? "--max-emails") (given.number? "--days") (given.has "--dry-run")),
   ("import", { slot := .optional }, fun given => .importRules given.word),
   ("export", { slot := .optional }, fun given => .exportRules given.word),
   ("list", {}, fun _ => .list),
   ("catalog", {}, fun _ => .catalog),
   ("stats", {}, fun _ => .stats),
   ("logs",
    { choices := [number "--limit", flag "--clear"] },
    fun given => .logs ((given.number? "--limit").getD usualLimit) (given.has "--clear")),
   ("seed-examples", {}, fun _ => .seedExamples),
   ("toggle", { slot := .required }, fun given => .toggle (given.word.getD "")),
   ("delete", { slot := .required }, fun given => .delete (given.word.getD "")),
   ("config",
    { choices :=
        [{ name := "--debug", accepts := some fun s => s = "on" || s = "off" },
         number "--retention-days"] },
    fun given =>
      .config ((given.value? "--debug").map fun s => s = "on") (given.number? "--retention-days"))]

def readCommand (name : String) (args : List String) : Except Exit Command :=
  match commands.lookup name with
  | none => .error .usage
  | some (synopsis, build) => build <$> read synopsis args

/-- The arguments in front of the command can only ask for help; whatever else is there spoils the
command, unless this asks for help itself. -/
def readProgram (surplus : Bool) : List String → Except Exit Command
  | [] => .error .usage
  | arg :: rest =>
    if arg = "--" then .error .usage
    else
      match classify {} arg with
      | .help stop => .error stop
      | .word name =>
        match readCommand name rest with
        | .error stop => .error stop
        | .ok command => if surplus then .error .usage else .ok command
      | _ => readProgram true rest

def Command.parse (args : List String) : Except Exit Command := readProgram false args

end MailTriage.CommandLine

import MailTriage.Email
import MailTriage.Json.Reader
import MailTriage.Script.Outcome
import MailTriage.Text.Part

/-!
# Running scripts

A script runs in an engine that gets its code and a JSON document of what it may see, and that
answers with a trouble or with the document it collected. Of a script that fails nothing remains but
the reason.
-/

namespace MailTriage

/-- What the engine is given: the code, and the text of the document with its input. -/
structure ScriptRun where
  code : String
  input : String
  deriving DecidableEq

/-- What the engine answers: the kind and the message of a trouble, what the script itself threw, or
the text that it collected. -/
inductive ScriptReply
  | failed (kind message : String)
  | thrown (text : String)
  | collected (text : String)
  deriving DecidableEq, Inhabited

/-- How grave a line of the journal is. -/
inductive Level
  | info
  | warning
  | error
  deriving DecidableEq

def Level.name : Level → String
  | info => "INFO"
  | warning => "WARNING"
  | error => "ERROR"

/-- A run of a script: the outcome, the variables afterwards and the lines for the journal. -/
structure ScriptResult where
  outcome : Except CollectionFault ScriptOutcome
  bindings : Fields
  journal : List (Level × String) := []

namespace Script

/-- The document that a script may see. -/
def input (context : Context) (bindings : Fields) : Value :=
  .object
    [("email", context.email.toValue),
     ("senderInfo", context.sender.toValue),
     ("extractedLinks", .list (context.links.map Link.toValue)),
     ("senderScore", .ofFloat? context.score),
     ("variables", .object bindings)]

def levelOf (name : String) : Level :=
  if name = "error" then .error else if name = "warn" then .warning else .info

/-- A script that could not be run, or not to its end. -/
def failure (error : String) (bindings : Fields) (journal : List (Level × String)) : ScriptResult :=
  { outcome := .ok { ok := false, error := some error }, bindings := bindings, journal := journal }

/-- What an engine that gave up is reported with: the message without blanks around it, or the
kind. -/
def reason (kind message : String) : String :=
  let text := Text.strip message
  if text.isEmpty then kind else text

def stopped (reason : String) (bindings : Fields) : ScriptResult :=
  failure reason bindings [(.warning, "Rule script failed: " ++ reason)]

def finished (document : Value) (bindings : Fields) : ScriptResult :=
  match Collection.ofDocument document with
  | .error fault => { outcome := .error (.shape fault), bindings := bindings }
  | .ok collection =>
    let after := collection.bindings.getD bindings
    let outcome := collection.outcome after
    let logs := match outcome with
      | .ok outcome => outcome.logs
      | .error _ => []
    { outcome := outcome, bindings := after
      journal := logs.map fun (level, message) => (levelOf level, "[rule script] " ++ message) }

def conclude (bindings : Fields) : ScriptReply → ScriptResult
  | .failed kind message => stopped (reason kind message) bindings
  | .thrown text => stopped text bindings
  | .collected text =>
    match Json.parse text with
    | .error fault =>
      let kind := match fault with
        | .malformed .. => "JSONDecodeError"
        | .tooManyDigits _ => "ValueError"
      stopped (reason kind (fault.message text)) bindings
    | .ok document => finished document bindings

def isBlank (code : String) : Bool := Text.isBlankText code

/-- Runs a script in an engine with a state of its own, if what it may see can be written. -/
def run {σ : Type} (engine : ScriptRun → σ → ScriptReply × σ) (code : String) (context : Context)
    (bindings : Fields) (outer : σ) : ScriptResult × σ :=
  if isBlank code then (failure "No script code provided" bindings [], outer)
  else if Json.isWritable (input context bindings) then
    let (reply, outer) := engine ⟨code, Json.line (input context bindings)⟩ outer
    (conclude bindings reply, outer)
  else (stopped Json.overlongMessage bindings, outer)

end Script

end MailTriage

import MailTriage.Catalog.Kind
import MailTriage.Form.Scalar
import MailTriage.Text.Part

/-!
# Steps

A step is an action whose kind is known and whose parameters have been read. Some parameters go by
two names, and an optional input that an editor left empty counts as absent.
-/

namespace MailTriage

open Form

/-- Where the text to search in is taken from. -/
inductive Source
  | content
  | subject
  | sender
  | urls
  deriving DecidableEq, Inhabited

namespace Source

def name : Source → String
  | content => "content"
  | subject => "subject"
  | sender => "from"
  | urls => "urls"

def options : List (String × Source) :=
  [("content", .content), ("subject", .subject), ("from", .sender), ("urls", .urls)]

end Source

/-- How a variable gets its value: from the text that a pattern finds, or directly. -/
structure Assignment where
  name : String
  value : Value := .null
  pattern : Option String := none
  group : Nat := 1
  source : Source := .content

/-- What an action is about to do. -/
inductive Step
  | runScript (code : String)
  | openUrl (url target : String)
  | saveVariable (assignment : Assignment)
  | logMessage (message : String)
  | addScore (points : Binary64) (reason : Option String)
  | markEmail (marker : String)
  | notify (title body : String)
  | deleteEmail
  | markAsRead
  | requestSummary
  | goToNext
  | goToPrevious

namespace Step

def unlessEmpty {α : Type} (read : Reader α) (fallback : α) : Reader α := fun value =>
  match value with
  | .null => pure fallback
  | .text s => if s.isEmpty then pure fallback else read value
  | _ => read value

def marker : Reader String := fun value =>
  (someText value).andThen fun s =>
    if Text.isBlankText s then .error (.rejected "marker must not be blank")
    else .ok (Text.strip s)

def formName : ActionKind → String
  | .runScript => "JavaScriptCodeParameters"
  | .openUrl => "OpenUrlParameters"
  | .saveVariable => "SaveVariableParameters"
  | .logMessage => "LogMessageParameters"
  | .addScore => "AddScoreParameters"
  | .markEmail => "MarkEmailParameters"
  | .notify => "NotifyParameters"
  | _ => "NoParameters"

def readAssignment (form : Fields) : Gather Assignment :=
  Assignment.mk
    <$> required ["name", "variableName"] someText form
    <*> defaulting ["value", "directValue"] anything .null form
    <*> defaulting ["regex_pattern", "regexPattern"] (optional text) none form
    <*> defaulting ["group_index", "groupIndex"] (unlessEmpty natural 1) 1 form
    <*> defaulting ["source"] (unlessEmpty (constant Source.options) .content) .content form

def ofFields (kind : ActionKind) (form : Fields) : Gather Step :=
  match kind with
  | .runScript => runScript <$> required ["code"] someText form
  | .openUrl =>
    openUrl <$> required ["url"] someText form <*> defaulting ["target"] text "_blank" form
  | .saveVariable => saveVariable <$> readAssignment form
  | .logMessage => logMessage <$> required ["message"] someText form
  | .addScore =>
    addScore
      <$> required ["points", "amount"] finiteNumber form
      <*> defaulting ["reason"] (optional text) none form
  | .markEmail => markEmail <$> required ["marker"] marker form
  | .notify =>
    notify
      <$> defaulting ["title"] text "Email Triage Rule" form
      <*> defaulting ["body"] text "A rule was triggered" form
  | .deleteEmail => pure deleteEmail
  | .markAsRead => pure markAsRead
  | .requestSummary => pure requestSummary
  | .goToNext => pure goToNext
  | .goToPrevious => pure goToPrevious

/-- Reads parameters that may be anything; what is void stands for no parameters. -/
def read (kind : ActionKind) (parameters : Value) : Gather Step :=
  if parameters.isVoid then ofFields kind []
  else record (formName kind) (ofFields kind) parameters

def parameters : Step → Fields
  | runScript code => [("code", .text code)]
  | openUrl url target => [("url", .text url), ("target", .text target)]
  | saveVariable assignment =>
    [("name", .text assignment.name),
     ("value", assignment.value),
     ("regex_pattern", .ofText? assignment.pattern),
     ("group_index", .nat assignment.group),
     ("source", .text assignment.source.name)]
  | logMessage message => [("message", .text message)]
  | addScore points reason => [("points", .float points), ("reason", .ofText? reason)]
  | markEmail marker => [("marker", .text marker)]
  | notify title body => [("title", .text title), ("body", .text body)]
  | _ => []

end Step

end MailTriage

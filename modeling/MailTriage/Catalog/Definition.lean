import MailTriage.Catalog.Kind
import MailTriage.Value

/-!
# The catalog

Editors of rules show the catalog: what conditions can test and with which operators, and what
actions can do and with which parameters. A condition whose operator the catalog does not list for
its field is evaluated with another one.
-/

namespace MailTriage

/-- The type of input that an editor offers. -/
inductive InputType
  | string
  | number
  | boolean
  | textarea
  deriving DecidableEq, Inhabited

def InputType.name : InputType → String
  | string => "string"
  | number => "number"
  | boolean => "boolean"
  | textarea => "textarea"

/-- A field that conditions can test. -/
structure ConditionDefinition where
  kind : ConditionKind
  label : String
  description : String
  valueType : InputType
  operators : List Operator

/-- A parameter of an action. -/
structure ParameterDefinition where
  name : String
  label : String
  type : InputType
  required : Bool
  description : String
  placeholder : String

/-- What an action can do. -/
structure ActionDefinition where
  kind : ActionKind
  label : String
  description : String
  parameters : List ParameterDefinition := []

namespace Catalog

def textOperators : List Operator := [.equals, .contains, .startsWith, .endsWith, .regexMatch]

def condition : ConditionKind → ConditionDefinition
  | .senderEmail =>
    ⟨.senderEmail, "Sender Email", "The email address of the sender", .string, textOperators⟩
  | .senderName =>
    ⟨.senderName, "Sender Name", "The display name of the sender", .string,
      textOperators ++ [.present, .absent]⟩
  | .subject => ⟨.subject, "Subject", "The email subject line", .string, textOperators⟩
  | .content =>
    ⟨.content, "Email Content", "The body text of the email", .string,
      [.contains, .regexMatch, .present, .absent]⟩
  | .contentRegex =>
    ⟨.contentRegex, "Content (Regex)", "Match email content using regular expressions", .string,
      [.regexMatch]⟩
  | .urlContains =>
    ⟨.urlContains, "URLs Contain", "Check if any extracted URLs contain text", .string,
      [.contains, .regexMatch]⟩
  | .linkDomain =>
    ⟨.linkDomain, "Link Domain", "Check domains of extracted links", .string,
      [.equals, .contains, .startsWith, .endsWith]⟩
  | .senderScore =>
    ⟨.senderScore, "Sender Score", "The scoring points of the sender", .number,
      [.equals, .greaterThan, .lessThan]⟩
  | .hasLinks =>
    ⟨.hasLinks, "Has Links", "Whether the email contains any links", .boolean, [.equals]⟩
  | .customVariable =>
    ⟨.customVariable, "Custom Variable",
      "A variable saved earlier in the same pass; " ++
        "use the type \"custom_variable_<name>\" to read variables.<name>",
      .string, Operator.all⟩

def templateHint : String :=
  "Can use variables: " ++
    "$\x7bemail.subject\x7d, $\x7bsenderInfo.email\x7d, $\x7bvariables.variableName\x7d"

def parameters : ActionKind → List ParameterDefinition
  | .runScript =>
    [⟨"code", "JavaScript Code", .textarea, true,
      "JavaScript code to execute. Available: " ++
        "email, senderInfo, extractedLinks, senderScore, variables, console, window, utils",
      "console.log(\"Email from:\", senderInfo.email);\n" ++
        "if (extractedLinks.length > 0) \x7b\n  window.open(extractedLinks[0].url);\n\x7d"⟩]
  | .openUrl =>
    [⟨"url", "URL", .string, true, "URL to open. " ++ templateHint,
      "https://example.com?from=$\x7bsenderInfo.email\x7d"⟩,
     ⟨"target", "Target", .string, false, "Window target (_blank, _self, etc.)", "_blank"⟩]
  | .saveVariable =>
    [⟨"variableName", "Variable Name", .string, true, "Name of the variable to save",
      "extractedUrl"⟩,
     ⟨"regexPattern", "Regex Pattern", .string, false,
      "Regex pattern to extract value (leave empty for direct value)",
      "href=[\"']([^\"']*google\\.com[^\"']*)[\"']"⟩,
     ⟨"groupIndex", "Regex Group Index", .number, false,
      "Which regex capture group to use (default: 1)", "1"⟩,
     ⟨"source", "Source", .string, false, "Source to extract from: content, subject, from, urls",
      "content"⟩,
     ⟨"directValue", "Direct Value", .string, false,
      "Direct value to save (instead of regex extraction). " ++ templateHint, "Some fixed value"⟩]
  | .logMessage =>
    [⟨"message", "Message", .string, true, "Message to log. " ++ templateHint,
      "Rule triggered for $\x7bsenderInfo.name\x7d: $\x7bemail.subject\x7d"⟩]
  | .addScore =>
    [⟨"points", "Points", .number, true, "Number of points to add (negative values subtract)",
      "10"⟩,
     ⟨"reason", "Reason", .string, false, "Reason for adding points", "Rule-based bonus"⟩]
  | .markEmail =>
    [⟨"marker", "Marker Tag", .string, true, "Tag to mark the email with", "newsletter"⟩]
  | .notify =>
    [⟨"title", "Title", .string, false, "Notification title", "Email Triage Rule"⟩,
     ⟨"body", "Message", .string, false,
      "Notification message. Can use variables: $\x7bemail.subject\x7d, $\x7bsenderInfo.email\x7d",
      "New email from $\x7bsenderInfo.name\x7d"⟩]
  | .deleteEmail => []
  | .markAsRead => []
  | .requestSummary => []
  | .goToNext => []
  | .goToPrevious => []

def actionText : ActionKind → String × String
  | .runScript =>
    ("Execute JavaScript", "Run custom JavaScript code with access to email context")
  | .openUrl => ("Open URL", "Open a URL in a new window or tab")
  | .saveVariable =>
    ("Save Variable", "Extract and save data to a variable for use in other actions")
  | .logMessage => ("Log Message", "Write a message to the application log")
  | .addScore => ("Add Score Points", "Add points to the sender's quality score")
  | .markEmail => ("Mark Email", "Mark the email with a custom tag for later reference")
  | .notify => ("Notification", "Show a desktop notification")
  | .deleteEmail => ("Delete Email", "Delete the email (move to trash)")
  | .markAsRead => ("Mark as Read", "Mark the email as read")
  | .requestSummary =>
    ("Request Summary", "Generate an email summary or save for later (based on mode setting)")
  | .goToNext => ("Go to Next Email", "Navigate to the next email in the list")
  | .goToPrevious => ("Go to Previous Email", "Navigate to the previous email in the list")

def action (kind : ActionKind) : ActionDefinition :=
  ⟨kind, (actionText kind).1, (actionText kind).2, parameters kind⟩

def conditions : List ConditionDefinition := ConditionKind.all.map condition

def actions : List ActionDefinition := ActionKind.all.map action

def condition? (kind : String) : Option ConditionDefinition :=
  (Subject.ofKind? kind).map fun subject => condition subject.kind

def action? (kind : String) : Option ActionDefinition :=
  (ActionKind.ofName? kind).map action

end Catalog

def ConditionDefinition.toValue (definition : ConditionDefinition) : Value :=
  .object
    [("type", .text definition.kind.name),
     ("label", .text definition.label),
     ("description", .text definition.description),
     ("valueType", .text definition.valueType.name),
     ("supportedOperators", .list (definition.operators.map fun operator => .text operator.name))]

def ParameterDefinition.toValue (definition : ParameterDefinition) : Value :=
  .object
    [("name", .text definition.name),
     ("label", .text definition.label),
     ("type", .text definition.type.name),
     ("required", .bool definition.required),
     ("description", .text definition.description),
     ("placeholder", .text definition.placeholder)]

def ActionDefinition.toValue (definition : ActionDefinition) : Value :=
  .object
    [("type", .text definition.kind.name),
     ("label", .text definition.label),
     ("description", .text definition.description),
     ("parameters", .list (definition.parameters.map ParameterDefinition.toValue))]

end MailTriage

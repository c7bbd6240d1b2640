/-!
# Kinds of conditions and actions

The operators, the fields that conditions test and the steps that actions take, each with the name
under which rules refer to it.
-/

namespace MailTriage

/-- How a condition compares a field with its value. -/
inductive Operator
  | equals
  | contains
  | startsWith
  | endsWith
  | regexMatch
  | greaterThan
  | lessThan
  | present
  | absent
  deriving DecidableEq, Inhabited

namespace Operator

def name : Operator → String
  | equals => "equals"
  | contains => "contains"
  | startsWith => "starts_with"
  | endsWith => "ends_with"
  | regexMatch => "regex_match"
  | greaterThan => "greater_than"
  | lessThan => "less_than"
  | present => "exists"
  | absent => "not_exists"

def all : List Operator :=
  [equals, contains, startsWith, endsWith, regexMatch, greaterThan, lessThan, present, absent]

def ofName? (name : String) : Option Operator :=
  all.find? fun operator => operator.name = name

end Operator

/-- A field that conditions test. -/
inductive ConditionKind
  | senderEmail
  | senderName
  | subject
  | content
  | contentRegex
  | urlContains
  | linkDomain
  | senderScore
  | hasLinks
  | customVariable
  deriving DecidableEq, Inhabited

namespace ConditionKind

def name : ConditionKind → String
  | senderEmail => "sender_email"
  | senderName => "sender_name"
  | subject => "subject"
  | content => "content"
  | contentRegex => "content_regex"
  | urlContains => "url_contains"
  | linkDomain => "link_domain"
  | senderScore => "sender_score"
  | hasLinks => "has_links"
  | customVariable => "custom_variable"

def all : List ConditionKind :=
  [senderEmail, senderName, subject, content, contentRegex, urlContains, linkDomain, senderScore,
   hasLinks, customVariable]

def ofName? (name : String) : Option ConditionKind :=
  all.find? fun kind => kind.name = name

end ConditionKind

/-- A step that an action takes. -/
inductive ActionKind
  | runScript
  | openUrl
  | saveVariable
  | logMessage
  | addScore
  | markEmail
  | notify
  | deleteEmail
  | markAsRead
  | requestSummary
  | goToNext
  | goToPrevious
  deriving DecidableEq, Inhabited

namespace ActionKind

def name : ActionKind → String
  | runScript => "javascript_code"
  | openUrl => "open_url"
  | saveVariable => "save_variable"
  | logMessage => "log_message"
  | addScore => "add_score"
  | markEmail => "mark_email"
  | notify => "notify"
  | deleteEmail => "delete_email"
  | markAsRead => "mark_as_read"
  | requestSummary => "request_summary"
  | goToNext => "goto_next_email"
  | goToPrevious => "goto_previous_email"

def all : List ActionKind :=
  [runScript, openUrl, saveVariable, logMessage, addScore, markEmail, notify, deleteEmail,
   markAsRead, requestSummary, goToNext, goToPrevious]

def ofName? (name : String) : Option ActionKind :=
  all.find? fun kind => kind.name = name

end ActionKind

/-- What a condition reads: a field of the email, or a variable that the pass has saved, by its
name. -/
inductive Subject
  | field (kind : ConditionKind)
  | saved (name : String)
  deriving DecidableEq

namespace Subject

/-- What the kind of a condition begins with when it names a variable. -/
def variableMark : String := "custom_variable_"

def variableName? (kind : String) : Option String :=
  if variableMark.toList.isPrefixOf kind.toList then
    some (String.ofList (kind.toList.drop variableMark.length))
  else none

/-- What a condition of some kind reads; none when nobody knows the kind. -/
def ofKind? (kind : String) : Option Subject :=
  match variableName? kind with
  | some name => some (saved name)
  | none => (ConditionKind.ofName? kind).map field

/-- The field under whose name the catalog describes it. -/
def kind : Subject → ConditionKind
  | field kind => kind
  | saved _ => .customVariable

/-- Whether it lies in the body of the email. -/
def isContent : Subject → Bool
  | field .content => true
  | field .contentRegex => true
  | _ => false

end Subject

end MailTriage

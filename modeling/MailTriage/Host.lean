import MailTriage.Email
import MailTriage.Text.Quoted

/-!
# The host of actions

Actions have effects outside: a page is opened, a score changes, an email is labelled or thrown
away. Each effect is a request to a host, which answers with a value or with a trouble. The value
false says that the host did not do it.
-/

namespace MailTriage

/-- An effect that an action asks for. -/
inductive Request
  | openUrl (url target : String)
  | adjustScore (address name : String) (points : Binary64) (reason : Option String)
  | markEmail (emailId marker : String)
  | notify (title body : String)
  | deleteEmail (emailId : String)
  | markAsRead (emailId : String)
  | requestSummary (email : Email) (sender : Sender)

namespace Request

def name : Request → String
  | openUrl .. => "open_url"
  | adjustScore .. => "adjust_score"
  | markEmail .. => "mark_email"
  | notify .. => "notify"
  | deleteEmail .. => "delete_email"
  | markAsRead .. => "mark_as_read"
  | requestSummary .. => "request_summary"

def arguments : Request → List Value
  | openUrl url target => [.text url, .text target]
  | adjustScore address name points reason =>
    [.text address, .text name, .float points, .ofText? reason]
  | markEmail emailId marker => [.text emailId, .text marker]
  | notify title body => [.text title, .text body]
  | deleteEmail emailId => [.text emailId]
  | markAsRead emailId => [.text emailId]
  | requestSummary email _ => [.text email.id]

def toValue (request : Request) : Value :=
  .list [.text request.name, .list request.arguments]

/-- What an action reports when the host did not do it. -/
def refusal : Request → String
  | openUrl url _ => "Failed to open " ++ url
  | adjustScore address .. => "Failed to adjust score for " ++ address
  | markEmail _ marker => "Failed to mark email with " ++ Text.quoted marker
  | notify .. => "Notification permission denied"
  | deleteEmail _ => "Failed to delete email"
  | markAsRead _ => "Failed to mark email as read"
  | requestSummary .. => "Failed to request email summary"

end Request

/-- Something that went wrong outside. -/
structure Trouble where
  kind : String
  message : String
  /-- Whether it is a failure that hosts are meant to report. -/
  foreseen : Bool := false
  deriving DecidableEq, Inhabited

/-- What an action reports: the message, or the kind of an unforeseen trouble without one. -/
def Trouble.text (trouble : Trouble) : String :=
  if trouble.message.isEmpty && !trouble.foreseen then trouble.kind else trouble.message

abbrev Reply := Except Trouble Value

end MailTriage

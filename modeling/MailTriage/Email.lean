import MailTriage.Value

/-!
# Emails and what is known about them

A pass over the rules sees an email, its sender, the links in it, the sender's score and the
variables that rules share. Each has a JSON form whose keys are the ones that templates and scripts
use.
-/

namespace MailTriage

/-- The message under evaluation. -/
structure Email where
  id : String
  threadId : Option String := none
  subject : String := ""
  fromHeader : String := ""
  toHeader : String := ""
  date : Option String := none
  body : Option String := none
  htmlBody : Option String := none
  snippet : Option String := none
  isRead : Bool := false
  labels : List String := []
  /-- False while only the headers have been fetched. -/
  contentLoaded : Bool := true
  deriving Inhabited

/-- The sender of an email: the address, empty when there is none, and the display name. -/
structure Sender where
  email : String := ""
  name : String := ""
  deriving DecidableEq, Inhabited

/-- A link found in an email. -/
structure Link where
  url : String
  text : String := ""
  domain : String := ""
  deriving DecidableEq, Inhabited

/-- Everything that a pass can see about one email. -/
structure Context where
  email : Email
  sender : Sender := {}
  links : List Link := []
  score : Option Binary64 := none
  bindings : Fields := []
  deriving Inhabited

namespace Email

def toFields (email : Email) : Fields :=
  [("id", .text email.id),
   ("threadId", .ofText? email.threadId),
   ("subject", .text email.subject),
   ("from", .text email.fromHeader),
   ("to", .text email.toHeader),
   ("date", .ofText? email.date),
   ("body", .ofText? email.body),
   ("htmlBody", .ofText? email.htmlBody),
   ("snippet", .ofText? email.snippet),
   ("isRead", .bool email.isRead),
   ("labels", .list (email.labels.map .text)),
   ("contentLoaded", .bool email.contentLoaded)]

def toValue (email : Email) : Value := .object email.toFields

/-- The text of the email: the plain body unless it is absent or empty, else the HTML body. -/
def content (email : Email) : Option String :=
  match email.body with
  | some body => if body.isEmpty then email.htmlBody else some body
  | none => email.htmlBody

end Email

def Sender.toValue (sender : Sender) : Value :=
  .object [("email", .text sender.email), ("name", .text sender.name)]

def Link.toValue (link : Link) : Value :=
  .object [("url", .text link.url), ("text", .text link.text), ("domain", .text link.domain)]

namespace Context

/-- The value that templates and scripts look into, with the variables of the pass. -/
def view (context : Context) (bindings : Fields) : Fields :=
  [("email", context.email.toValue),
   ("senderInfo", context.sender.toValue),
   ("extractedLinks", .list (context.links.map Link.toValue)),
   ("senderScore", .ofFloat? context.score),
   ("variables", .object bindings)]

def toValue (context : Context) : Value :=
  .object (context.view context.bindings)

def linkUrls (context : Context) : String :=
  " ".intercalate (context.links.map Link.url)

def linkDomains (context : Context) : String :=
  " ".intercalate (context.links.map Link.domain)

end Context

end MailTriage

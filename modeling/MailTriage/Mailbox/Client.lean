import MailTriage.Mailbox.Resource

/-!
# Using a mailbox

A mailbox is reached by requests. A request is answered with data, or it fails; what the answer is
like is for the service to decide. What the program does with a mailbox takes one or more requests.
A request that fails is no trouble: nothing was found, or it was not done. Only answers of an
unusable shape are.
-/

namespace MailTriage

/-- A request to a mailbox service. -/
inductive MailRequest
  | profile
  /-- Some of the messages that a query finds, at most `limit` of them, from a page on. -/
  | list (query : Option String) (limit : Option Int) (page : Value)
  | get (id format : String)
  | addLabel (id : String) (label : Value)
  | removeUnread (id : String)
  | trash (id : String)
  | labels
  | createLabel (name : String)

namespace MailRequest

def method : MailRequest → String
  | profile => "profile"
  | list .. => "messages.list"
  | get .. => "messages.get"
  | addLabel .. => "messages.modify"
  | removeUnread _ => "messages.modify"
  | trash _ => "messages.trash"
  | labels => "labels.list"
  | createLabel _ => "labels.create"

def arguments : MailRequest → Fields
  | profile => []
  | list query limit page =>
    [("q", .ofText? query), ("maxResults", .ofInt? limit), ("pageToken", page)]
  | get id format => [("id", .text id), ("format", .text format)]
  | addLabel id label => [("id", .text id), ("body", .object [("addLabelIds", .list [label])])]
  | removeUnread id =>
    [("id", .text id), ("body", .object [("removeLabelIds", .list [.text "UNREAD"])])]
  | trash id => [("id", .text id)]
  | labels => []
  | createLabel name =>
    [("body", .object
      [("name", .text name), ("labelListVisibility", .text "labelShow"),
       ("messageListVisibility", .text "show")])]

def toValue (request : MailRequest) : Value :=
  .list [.text request.method, .object request.arguments]

end MailRequest

/-- A mailbox service; none when a request fails. -/
abbrev MailService (σ : Type) := MailRequest → σ → Option Value × σ

variable {σ : Type}

abbrev MailOp (σ α : Type) := MailService σ → σ → Except ResourceFault α × σ

/-- A part of a list of messages, and what asks for the next part. -/
structure MessagePage where
  messages : Value
  next : Value

namespace MessagePage

def empty : MessagePage := ⟨.list [], .null⟩

def ofAnswer (answer : Value) : Except ResourceFault MessagePage := do
  let fields ← Resource.members answer
  return ⟨(fields.get? "messages").getD (.list []), (fields.get? "nextPageToken").getD .null⟩

def toValue (page : MessagePage) : Value :=
  .object [("messages", page.messages), ("nextPageToken", page.next)]

end MessagePage

namespace Mailbox

def succeeds (request : MailRequest) (service : MailService σ) (outer : σ) : Bool × σ :=
  let (answer, outer) := service request outer
  (answer.isSome, outer)

def listPage (query : Option String) (limit : Option Int) (page : Value) : MailOp σ MessagePage :=
  fun service outer =>
    match service (.list query limit page) outer with
    | (none, outer) => (.ok .empty, outer)
    | (some answer, outer) => (MessagePage.ofAnswer answer, outer)

/-- How many messages are wanted beyond those that are there; none for all of them. Zero wants all,
too. -/
def remaining (wanted : Option Int) (count : Nat) : Option Int :=
  match wanted with
  | some n => if n = 0 then none else some (n - count)
  | none => none

def isEnough (wanted : Option Int) (count : Nat) : Bool :=
  (remaining wanted count).any fun n => n ≤ 0

/-- Fetches pages, at most `pages` of them, until enough messages are there or no page is left. -/
def listFrom (query : Option String) (wanted : Option Int) (service : MailService σ) :
    (pages : Nat) → List Value → Value → σ → Except ResourceFault (List Value) × σ
  | 0, found, _, outer => (.ok found, outer)
  | pages + 1, found, page, outer =>
    if isEnough wanted found.length then (.ok found, outer)
    else
      match listPage query (remaining wanted found.length) page service outer with
      | (.error fault, outer) => (.error fault, outer)
      | (.ok part, outer) =>
        match Resource.items part.messages with
        | .error fault => (.error fault, outer)
        | .ok messages =>
          let found := found ++ messages
          if part.next.isVoid then (.ok found, outer)
          else listFrom query wanted service pages found part.next outer

def listAll (pages : Nat) (query : Option String) (wanted : Option Int) : MailOp σ (List Value) :=
  fun service outer => listFrom query wanted service pages [] .null outer

/-- A message; none when it cannot be fetched. -/
def getMessage (id format : String) (service : MailService σ) (outer : σ) : Option Value × σ :=
  service (.get id format) outer

def markAsRead (id : String) (service : MailService σ) (outer : σ) : Bool × σ :=
  succeeds (.removeUnread id) service outer

def trashMessage (id : String) (service : MailService σ) (outer : σ) : Bool × σ :=
  succeeds (.trash id) service outer

def isText (s : String) : Value → Bool
  | .text t => t = s
  | _ => false

def labelNamed (name : String) : List Value → Except ResourceFault Value
  | [] => .ok .null
  | label :: rest => do
    if isText name (← Resource.require "name" label) then Resource.require "id" label
    else labelNamed name rest

def labelsOf (answer : Value) : Except ResourceFault (List Value) := do
  Resource.items (((← Resource.members answer).get? "labels").getD (.list []))

/-- The identifier of a label; null when there is none, or the labels cannot be listed. -/
def getLabelId (name : String) : MailOp σ Value := fun service outer =>
  match service .labels outer with
  | (none, outer) => (.ok .null, outer)
  | (some answer, outer) => (labelsOf answer >>= labelNamed name, outer)

/-- The identifier of a label that is made when it is not there; null when it cannot be made. -/
def createLabel (name : String) : MailOp σ Value := fun service outer =>
  match getLabelId name service outer with
  | (.error fault, outer) => (.error fault, outer)
  | (.ok id, outer) =>
    if !id.isVoid then (.ok id, outer)
    else
      match service (.createLabel name) outer with
      | (none, outer) => (.ok .null, outer)
      | (some answer, outer) => (Resource.require "id" answer, outer)

/-- Labels a message, with a new label if need be, and tells whether that was done. -/
def addLabel (id name : String) : MailOp σ Bool := fun service outer =>
  match createLabel name service outer with
  | (.error fault, outer) => (.error fault, outer)
  | (.ok label, outer) =>
    if label.isVoid then (.ok false, outer)
    else
      let (done, outer) := succeeds (.addLabel id label) service outer
      (.ok done, outer)

/-- The address of the user; null when it cannot be found out. -/
def userEmail (service : MailService σ) (outer : σ) : Value × σ :=
  match service .profile outer with
  | (some (.object profile), outer) => ((Fields.get? "emailAddress" profile).getD .null, outer)
  | (_, outer) => (.null, outer)

end Mailbox

end MailTriage

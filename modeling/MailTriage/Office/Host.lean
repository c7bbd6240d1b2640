import MailTriage.Action.Execution
import MailTriage.Mailbox.Client
import MailTriage.Number.Column
import MailTriage.Settings
import MailTriage.Store.Ledger

/-!
# The office

Here actions have their effects: in a mailbox, in a browser, and in the store. The office is a
session on the store together with everything else that lies outside, and the means say how the
outside is reached.
-/

namespace MailTriage

/-- How the outside is reached. -/
structure Means (σ : Type) where
  service : MailService σ
  /-- Opens a page, in a window of its own or not, and tells whether that was done. -/
  browse : (url : String) → (apart : Bool) → σ → Bool × σ
  evaluate : ScriptRun → σ → ScriptReply × σ
  summarize : Option (Email → String) := none
  /-- The trouble that comes of summarizing an email, if any does. -/
  summaryTrouble : Email → Option Trouble := fun _ => none
  settings : Settings
  /-- The column that keeps the values of conditions. -/
  column : NumberColumn

/-- A session on the store, and the outside. -/
structure Office (σ : Type) where
  session : Session
  outer : σ

/-- The trouble that a host reports when it cannot do something. -/
def Trouble.ofHost (message : String) : Trouble :=
  { kind := "HostActionError", message := message, foreseen := true }

def ResourceFault.trouble (fault : ResourceFault) : Trouble :=
  { kind := fault.kind, message := fault.message }

/-- What stands for the summary of an email that is put aside. -/
def savedForLater : String := "Email saved for later review"

variable {σ : Type}

namespace Office

def inStore {α : Type} (op : StoreOp α) (office : Office σ) : Except Trouble α × Office σ :=
  let (result, session) := op office.session
  (result, { office with session := session })

def outside {α : Type} (f : σ → α × σ) (office : Office σ) : α × Office σ :=
  let (a, outer) := f office.outer
  (a, { office with outer := outer })

/-- Opens a page, unless the settings forbid it. -/
def openUrl (means : Means σ) (url target : String) (office : Office σ) : Reply × Office σ :=
  if means.settings.openUrls then
    let (done, office) := office.outside (means.browse url (target = "_blank"))
    (.ok (.bool done), office)
  else (.ok (.bool true), office)

def adjustScore (address : String) (points : Binary64) (office : Office σ) : Reply × Office σ :=
  if address.isEmpty then (.error (.ofHost "Sender has no email address"), office)
  else
    match office.inStore (Store.adjustScore address points) with
    | (.error trouble, office) => (.error trouble, office)
    | (.ok _, office) => (.ok (.bool true), office)

def markEmail (means : Means σ) (emailId marker : String) (office : Office σ) : Reply × Office σ :=
  match office.inStore (Store.addMarker emailId marker) with
  | (.error trouble, office) => (.error trouble, office)
  | (.ok _, office) =>
    match office.outside (Mailbox.addLabel emailId marker means.service) with
    | (.error fault, office) => (.error fault.trouble, office)
    | (.ok done, office) => (.ok (.bool done), office)

def summaryOf (means : Means σ) (email : Email) : Except Trouble Summary :=
  match means.settings.summaryMode, means.summarize with
  | .saveForLater, _ => .ok ⟨email.subject, savedForLater, true⟩
  | .generate, some summarize =>
    match means.summaryTrouble email with
    | some trouble => .error trouble
    | none => .ok ⟨email.subject, summarize email, false⟩
  | .generate, none => .error (.ofHost "No summarizer configured")

def creditSummary (means : Means σ) (address : String) (office : Office σ) :
    Except Trouble Unit × Office σ :=
  if address.isEmpty || means.settings.summaryPoints.eq Binary64.zero then (.ok (), office)
  else
    match office.inStore (Store.adjustScore address means.settings.summaryPoints) with
    | (.error trouble, office) => (.error trouble, office)
    | (.ok _, office) => (.ok (), office)

def requestSummary (means : Means σ) (email : Email) (sender : Sender) (office : Office σ) :
    Reply × Office σ :=
  match summaryOf means email with
  | .error trouble => (.error trouble, office)
  | .ok summary =>
    match office.inStore (Store.saveSummary email.id summary) with
    | (.error trouble, office) => (.error trouble, office)
    | (.ok _, office) =>
      match office.creditSummary means sender.email with
      | (.error trouble, office) => (.error trouble, office)
      | (.ok _, office) =>
        (.ok (.object
          [("emailId", .text email.id), ("summary", .text summary.summary),
           ("savedForLater", .bool summary.savedForLater)]), office)

def inMailbox (f : σ → Bool × σ) (office : Office σ) : Reply × Office σ :=
  let (done, office) := office.outside f
  (.ok (.bool done), office)

/-- Carries out what an action asks for. -/
def perform (means : Means σ) (request : Request) (office : Office σ) : Reply × Office σ :=
  match request with
  | .openUrl url target => office.openUrl means url target
  | .adjustScore address _ points _ => office.adjustScore address points
  | .markEmail emailId marker => office.markEmail means emailId marker
  | .notify _ _ => (.ok (.bool means.settings.notificationsEnabled), office)
  | .deleteEmail emailId => office.inMailbox (Mailbox.trashMessage emailId means.service)
  | .markAsRead emailId => office.inMailbox (Mailbox.markAsRead emailId means.service)
  | .requestSummary email sender => office.requestSummary means email sender

end Office

end MailTriage

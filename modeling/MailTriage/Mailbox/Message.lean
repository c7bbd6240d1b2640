import MailTriage.Date.Header
import MailTriage.Form.Record
import MailTriage.Mailbox.Body
import MailTriage.Number.Reading
import MailTriage.Text.Case
import MailTriage.Text.Part

/-!
# Messages

A message as a mailbox service gives it, read as an email: header fields by their names without
regard to case, the date in one format, the bodies only when they are asked for.
-/

namespace MailTriage

namespace Message

def wholeNumber? : Value → Except ResourceFault (Option Int)
  | .text s => .ok (Number.freeInteger? s.toList)
  | .int n => .ok (some n)
  | .bool b => .ok (some (if b then 1 else 0))
  | .float x =>
    if x.isNaN then .ok none
    else
      match x.truncate? with
      | some n => .ok (some n)
      | none => .error (.overflow "cannot convert float infinity to integer")
  | _ => .ok none

/-- The seconds since 1970 whose year fits a machine integer. -/
def isDatable (seconds : Int) : Bool :=
  -67768040609740800 ≤ seconds && seconds ≤ 67768036191676799

/-- The date of a number of milliseconds since 1970; none outside of the years 1 to 9999. -/
def dateOf (milliseconds : Int) : Except ResourceFault (Option String) :=
  let seconds := Binary64.ofRatio (milliseconds < 0) milliseconds.natAbs 1000
  match Moment.splitSeconds? seconds with
  | none => .error (.overflow "integer division result too large for a float")
  | some (whole, microsecond) =>
    if !fitsWord whole then .error (.overflow "timestamp out of range for platform time_t")
    else if !isDatable whole then .error .tooFar
    else .ok ((Moment.ofSeconds? whole microsecond).map Moment.text)

def received (internalDate : Value) : Except ResourceFault (Option String) :=
  if internalDate.isVoid then .ok none
  else
    match wholeNumber? internalDate with
    | .error fault => .error fault
    | .ok none => .ok none
    | .ok (some milliseconds) => dateOf milliseconds

/-- The date that a header gives, or else the one at which the message came in. -/
def date (header internalDate : Value) : Except ResourceFault (Option String) :=
  if header.isVoid then received internalDate
  else
    match header with
    | .text s =>
      match Moment.ofHeader? s with
      | some m => .ok (some m.text)
      | none => received internalDate
    | _ => .error .wrongKind

def header (field : Value) : Except ResourceFault (String × Value) := do
  match ← Resource.require "name" field with
  | .text name => return (Text.lower name, ← Resource.require "value" field)
  | _ => throw .noMembers

/-- The header fields; of two with one name the later counts. -/
def headers (payload : Fields) : Except ResourceFault Fields := do
  match payload.get? "headers" with
  | none => return []
  | some value => return Fields.ofEntries (← (← Resource.items value).mapM header)

def isUnread : Value → Except ResourceFault Bool
  | .list labels => .ok (labels.any fun label =>
      match label with
      | .text s => s = "UNREAD"
      | _ => false)
  | .text s => .ok (Text.contains s "UNREAD")
  | .object fields => .ok (Fields.hasKey "UNREAD" fields)
  | _ => .error .wrongKind

def bodies (contentLoaded : Bool) (payload : Value) : Except ResourceFault Bodies :=
  if contentLoaded then (Part.ofValue payload).bodies else .ok {}

def form (message : Value) (contentLoaded : Bool) : Except ResourceFault Fields := do
  let fields ← Resource.members message
  let payload := (fields.get? "payload").getD (.object [])
  let headers ← headers (← Resource.members payload)
  let labels := (fields.get? "labelIds").getD (.list [])
  let bodies ← bodies contentLoaded payload
  let id ← Resource.require "id" message
  let text (name : String) := (headers.get? name).getD (.text "")
  let date ← date ((headers.get? "date").getD .null) ((fields.get? "internalDate").getD .null)
  let unread ← isUnread labels
  return [("id", id), ("thread_id", (fields.get? "threadId").getD .null),
    ("subject", text "subject"),
    ("from_address", text "from"), ("to", text "to"), ("date", .ofText? date),
    ("body", .ofText? bodies.plain), ("html_body", .ofText? bodies.html),
    ("snippet", (fields.get? "snippet").getD .null), ("is_read", .bool (!unread)),
      ("labels", labels),
    ("content_loaded", .bool contentLoaded)]

def email (message : Value) (contentLoaded : Bool) : Except ResourceFault Email :=
  match form message contentLoaded with
  | .error fault => .error fault
  | .ok form =>
    match (Email.read (.object form) ⟨0, 0⟩).1 with
    | .ok email => .ok email
    | .error problems => .error (.form problems)

end Message

end MailTriage

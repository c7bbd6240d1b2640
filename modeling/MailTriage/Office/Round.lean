import MailTriage.Address
import MailTriage.Mailbox.Message
import MailTriage.Office.World
import MailTriage.Triage.Desk

/-!
# A round over the unread mail

A round lists the unread messages and runs one pass for each that is not done with. The headers are
fetched first, and the body only when a rule asks for it. A message that cannot be fetched is left
for another round.
-/

namespace MailTriage

/-- Something that a command tells. -/
structure Notice where
  level : String
  event : String
  details : Fields := []
  deriving Inhabited

namespace Notice

def debug (event : String) (details : Fields := []) : Notice := ⟨"debug", event, details⟩

def info (event : String) (details : Fields := []) : Notice := ⟨"info", event, details⟩

def warning (event : String) (details : Fields := []) : Notice := ⟨"warning", event, details⟩

def error (event : String) (details : Fields := []) : Notice := ⟨"error", event, details⟩

def toValue (notice : Notice) : Value :=
  .list [.text notice.level, .text notice.event, .object notice.details]

end Notice

/-- What a round works with: the outside as a pass sees it, the mailbox, and the record of the
emails that are done with. -/
structure Intake (τ : Type) where
  world : World τ
  service : MailService τ
  isProcessed : (emailId : String) → τ → Except Trouble Bool × τ
  score : (address : String) → τ → Except Trouble (Option Binary64) × τ
  finish : (emailId : String) → (rulesFired : Int) → τ → Except Trouble Unit × τ

/-- Why a round ends before its time. -/
inductive RoundFault
  | store (trouble : Trouble)
  | resource (fault : ResourceFault)
  | pass (fault : PassFault)

/-- A round on its way: the desk, and the notices so far. -/
structure Round (τ : Type) where
  desk : Desk τ
  notices : List Notice := []

abbrev RoundStep (τ α : Type) := ExceptT RoundFault (StateM (Round τ)) α

variable {σ τ : Type}

namespace Round

def note (notice : Notice) : RoundStep τ Unit :=
  modify fun round => { round with notices := round.notices ++ [notice] }

def outside {α : Type} (f : τ → α × τ) : RoundStep τ α := do
  let round ← get
  let (a, outer) := f round.desk.outer
  set { round with desk := { round.desk with outer := outer } }
  return a

/-- Does something with the store, which may fail. -/
def stored {α : Type} (f : τ → Except Trouble α × τ) : RoundStep τ α := do
  match ← outside f with
  | .ok a => return a
  | .error trouble => throw (.store trouble)

/-- Does something at the desk, which may fail. -/
def atDesk {α : Type} (f : Desk τ → Except PassFault α × Desk τ) : RoundStep τ α := do
  let round ← get
  let (result, desk) := f round.desk
  set { round with desk := desk }
  match result with
  | .ok a => return a
  | .error fault => throw (.pass fault)

def lookInto {α : Type} : Except ResourceFault α → RoundStep τ α
  | .ok a => return a
  | .error fault => throw (.resource fault)

/-- A message, unless it cannot be fetched or there is nothing to it. -/
def fetch (intake : Intake τ) (id format : String) : RoundStep τ (Option Value) := do
  return (← outside (Mailbox.getMessage id format intake.service)).filter fun message =>
    !message.isVoid

/-- The pass of an email whose headers have been fetched; none when its body is needed but out of
reach. -/
def pass (intake : Intake τ) (id : String) (email : Email) : RoundStep τ (Option PassReport) := do
  let score ← stored (intake.score (Sender.ofHeader email.fromHeader).email)
  let outcome ← atDesk (Desk.processEmail intake.world email score none)
  if !outcome.report.deferred then return some outcome.report
  match ← fetch intake id "full" with
  | none =>
    atDesk fun desk => (.ok (), desk.clear id)
    return none
  | some message =>
    let loaded ← lookInto (Message.email message true)
    match ← atDesk (Desk.processLoaded intake.world id (loaded.body.getD "") loaded.htmlBody) with
    | some outcome => return some outcome.report
    | none => throw (.resource .noMembers)

def report (id : String) (email : Email) (report : PassReport) : RoundStep τ Unit := do
  note (.info "Processed email"
    [("subject", .text email.subject), ("rules_checked", .int report.rulesChecked),
     ("rules_fired", .int report.rulesFired)])
  match report.navigation with
  | none => return ()
  | some navigation =>
    note (.info "Rule requested navigation"
      [("gmail_id", .text id), ("direction", .text navigation.name)])

/-- Takes a message that is not done with, and tells whether a pass was run for it. -/
def take (intake : Intake τ) (id : String) : RoundStep τ Bool := do
  match ← fetch intake id "metadata" with
  | none =>
    note (.warning ("Could not fetch message " ++ id ++ ", skipping..."))
    return false
  | some message =>
    let email ← lookInto (Message.email message false)
    match ← pass intake id email with
    | none =>
      note (.warning ("Could not load content of message " ++ id ++ ", skipping..."))
      return false
    | some result =>
      report id email result
      stored (intake.finish id result.rulesFired)
      return true

def idOf (listed : Value) : Except ResourceFault String := do
  match ← Resource.require "id" listed with
  | .text id => return id
  | _ => throw .wrongKind

/-- Takes a listed message, unless it is done with. -/
def visit (intake : Intake τ) (listed : Value) : RoundStep τ Bool := do
  let id ← lookInto (idOf listed)
  if ← stored (intake.isProcessed id) then
    note (.debug "Skipping processed email" [("gmail_id", .text id)])
    return false
  else take intake id

/-- Takes listed messages one after another, and tells for how many a pass was run. -/
def visitAll (intake : Intake τ) : List Value → RoundStep τ Nat
  | [] => return 0
  | listed :: rest => do
    let processed ← visit intake listed
    let more ← visitAll intake rest
    return (if processed then 1 else 0) + more

def query (days : Option Int) : String :=
  match days with
  | none => "is:unread"
  | some n =>
    if n = 0 then "is:unread"
    else "is:unread newer_than:" ++ String.ofList (Json.encodeInt n) ++ "d"

/-- The round: finds out who the user is, lists the unread messages, on at most `pages` pages, and
takes them one after another. -/
def run (intake : Intake τ) (pages : Nat) (maxEmails days : Option Int) : RoundStep τ Unit := do
  let user ← outside (Mailbox.userEmail intake.service)
  if user.isVoid then
    note (.error "Failed to get user email")
  else
    note (.info "Authenticated with Gmail" [("user", user)])
    note (.info "Fetching messages from Gmail..."
      [("max_emails", .ofInt? maxEmails), ("days", .ofInt? days)])
    let listed ← outside (Mailbox.listAll pages (some (query days)) maxEmails intake.service)
    let listed ← lookInto listed
    note (.info ("Found " ++ String.ofList (Nat.toDigits 10 listed.length) ++
      " messages to process"))
    let processed ← visitAll intake listed
    note (.info "Email processing completed" [("processed", .nat processed)])

end Round

namespace Intake

def ofOffice (means : Means σ) (now retentionDays : Int) : Intake (Office σ) :=
  { world := Office.world means now retentionDays
    service := fun request => Office.outside (means.service request)
    isProcessed := fun emailId => Office.inStore (Store.isProcessed emailId)
    score := fun address => Office.inStore (Store.getScore address)
    finish := fun emailId rulesFired => Office.inStore (Store.markProcessed emailId rulesFired) }

/-- A round on trial: the store is only looked at. -/
def ofTrial (means : Means σ) : Intake (Trial σ) :=
  { world := Trial.world means
    service := fun request => Trial.inOffice (Office.outside (means.service request))
    isProcessed := fun emailId => Trial.inOffice (Office.inStore (Store.isProcessed emailId))
    score := fun address => Trial.inOffice (Office.inStore (Store.getScore address))
    finish := fun _ _ trial => (.ok (), trial) }

end Intake

end MailTriage

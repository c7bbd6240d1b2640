import MailTriage.Form.Record
import MailTriage.Json.Reader
import MailTriage.Keyed
import MailTriage.Number.Reading
import MailTriage.Triage.RuleList

/-!
# The database

Stored rules with their settings, the log of passes, and what actions leave behind: scores of
senders, markers, summaries, and the record of the emails that are done with. A session works on the
data and saves its changes; when it cannot save them, the data are as they were last saved, and the
session is stalled until it is rolled back.
-/

namespace MailTriage

/-- The summary of an email, or the note that it was put aside. -/
structure Summary where
  subject : String
  summary : String
  savedForLater : Bool
  deriving DecidableEq, Inhabited

/-- Everything that is stored. -/
structure Database where
  /-- In the order of their arrival, with no identifier twice. -/
  rules : List Rule := []
  settings : Option RuleSettings := none
  log : Journal := []
  scores : Keyed Binary64 := []
  /-- Pairs of a marker and an email. -/
  markers : List (String × String) := []
  summaries : Keyed Summary := []
  /-- For each email that is done with, how many rules fired. -/
  processed : Keyed Int := []
  deriving Inhabited

namespace Trouble

def tooLarge : Trouble :=
  { kind := "OverflowError", message := "Python int too large to convert to SQLite INTEGER" }

/-- A value is missing where there has to be one, or there twice where there may be one. -/
def violation : Trouble :=
  { kind := "IntegrityError", message := "constraint failed" }

/-- A whole number has too many digits for the document that it should be written into. -/
def tooLong : Trouble :=
  { kind := "StatementError",
    message := "Exceeds the limit (4300 digits) for integer string conversion" }

/-- The session has not been rolled back since it failed to save its changes. -/
def stalled : Trouble :=
  { kind := "PendingRollbackError"
    message :=
      "This Session's transaction has been rolled back due to a previous exception during flush." }

end Trouble

/-- A report as it is kept. It names the time that the rule took, which nothing depends on
afterwards. -/
def RuleReport.toTimed (report : RuleReport) : Value :=
  .object (report.toValue.fields ++ [("executionTimeMs", .float Binary64.zero)])

namespace LogEntry

/-- What the column of the reports holds, before it is written. -/
def reports (entry : LogEntry) : Value :=
  .list (entry.rules.map RuleReport.toTimed)

/-- An entry as it comes back out of its columns. Its reports are kept as one JSON document. -/
def stored (entry : LogEntry) : Except Trouble LogEntry :=
  if !Json.isWritable entry.reports then .error .tooLong
  else
    let document := Json.line entry.reports
    match Json.parse document with
    | .error failure => .error { kind := "JSONDecodeError", message := failure.message document }
    | .ok reports =>
      match (LogEntry.read (.object (entry.toValue.fields.set "results" reports)) ⟨0, 0⟩).1 with
      | .error problems =>
        .error { kind := "ValidationError", message := Form.problemsText "" problems }
      | .ok entry => .ok entry

/-- Whether the numbers of an entry have a place in their columns. -/
def fits (entry : LogEntry) : Bool :=
  fitsWord entry.timestamp && fitsWord entry.rulesChecked && fitsWord entry.rulesFired

end LogEntry

def Journal.add (entry : LogEntry) (log : Journal) : Except Trouble Journal :=
  match entry.stored with
  | .error trouble => .error trouble
  | .ok stored =>
    if !entry.fits then .error .tooLarge
    else if log.any fun earlier => earlier.id = entry.id then .error .violation
    else .ok (log ++ [stored])

/-- Adds entries to a log, one after another. -/
def Journal.addAll : List LogEntry → Journal → Except Trouble Journal
  | [], log => .ok log
  | entry :: rest, log =>
    match log.add entry with
    | .ok log => Journal.addAll rest log
    | .error trouble => .error trouble

/-- What an operation makes of the data. -/
inductive Effect (α : Type)
  /-- Nothing, for a reason. -/
  | refuse (trouble : Trouble)
  /-- A change that cannot be saved. -/
  | abort (trouble : Trouble)
  /-- A change that is saved later, or none at all. -/
  | keep (result : α) (data : Database)
  /-- A change that is saved at once, with all earlier ones. -/
  | save (result : α) (data : Database)

structure Session where
  /-- The data as last saved. -/
  saved : Database := {}
  /-- The data as the session sees them. -/
  current : Database := {}
  /-- Entries for the log that go into it when changes are saved next. -/
  unsaved : List LogEntry := []
  stalled : Bool := false
  deriving Inhabited

abbrev StoreOp (α : Type) := Session → Except Trouble α × Session

namespace Session

def ofDatabase (data : Database) : Session := { saved := data, current := data }

def rollback (session : Session) : Session := ofDatabase session.saved

def abort (session : Session) : Session := { session.rollback with stalled := true }

/-- Saves data, and the entries that wait for it. -/
def save {α : Type} (result : α) (data : Database) (session : Session) :
    Except Trouble α × Session :=
  match data.log.addAll session.unsaved with
  | .ok log => (.ok result, ofDatabase { data with log := log })
  | .error trouble => (.error trouble, session.abort)

def apply {α : Type} (effect : Database → Effect α) : StoreOp α := fun session =>
  if session.stalled then (.error .stalled, session)
  else
    match effect session.current with
    | .refuse trouble => (.error trouble, session)
    | .abort trouble => (.error trouble, session.abort)
    | .keep result data => (.ok result, { session with current := data })
    | .save result data => session.save result data

def look {α : Type} (find : Database → α) : StoreOp α :=
  apply fun data => .keep (find data) data

end Session

end MailTriage

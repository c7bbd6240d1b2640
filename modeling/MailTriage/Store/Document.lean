import MailTriage.Form.Record
import MailTriage.Json.Reader
import MailTriage.Store.Database

/-!
# The database as a document

Between two runs of the program the database is kept as one JSON document. Reading a document checks
its shape; identifiers and times are in it, so none have to be made up.
-/

namespace MailTriage

open Form

namespace Form

def keyed {α : Type} (read : Reader α) : Reader (Keyed α)
  | .object fields => readEntries fields
  | _ => .refuse .notMapping
where
  /-- Entries one after another, each under its key. -/
  readEntries : List (String × Value) → Gather (Keyed α)
    | [] => pure []
    | (key, value) :: rest =>
      (fun a entries => (key, a) :: entries) <$> (read value).under key <*> readEntries rest

end Form

def Keyed.toValue {α : Type} (write : α → Value) (entries : Keyed α) : Value :=
  .object (entries.map fun entry => (entry.1, write entry.2))

def Summary.toValue (summary : Summary) : Value :=
  .object [("subject", .text summary.subject), ("summary", .text summary.summary),
    ("savedForLater", .bool summary.savedForLater)]

def Summary.read : Reader Summary := record "Summary" fun form =>
  Summary.mk
    <$> required ["subject"] text form
    <*> required ["summary"] text form
    <*> required ["savedForLater"] boolean form

/-- A log entry whose reports have times, as they are read back with them. -/
def LogEntry.toTimed (entry : LogEntry) : Value :=
  .object (entry.toValue.fields.set "results" entry.reports)

namespace Database

def markerValue (entry : String × String) : Value :=
  .object [("marker", .text entry.1), ("emailId", .text entry.2)]

def readMarker : Reader (String × String) := record "Marker" fun form =>
  Prod.mk <$> required ["marker"] text form <*> required ["emailId"] text form

def toValue (data : Database) : Value :=
  .object
    [("rules", .list (data.rules.map Rule.toValue)),
     ("settings", (data.settings.map RuleSettings.toValue).getD .null),
     ("log", .list (data.log.map LogEntry.toTimed)),
     ("scores", data.scores.toValue .float),
     ("markers", .list (data.markers.map markerValue)),
     ("summaries", data.summaries.toValue Summary.toValue),
     ("processed", data.processed.toValue .int)]

def read : Reader Database := record "Database" fun form =>
  Database.mk
    <$> defaulting ["rules"] (listOf Rule.read) [] form
    <*> defaulting ["settings"] (optional RuleSettings.read) none form
    <*> defaulting ["log"] (listOf LogEntry.read) [] form
    <*> defaulting ["scores"] (keyed number) [] form
    <*> defaulting ["markers"] (listOf readMarker) [] form
    <*> defaulting ["summaries"] (keyed Summary.read) [] form
    <*> defaulting ["processed"] (keyed integer) [] form

def write (data : Database) : String := Json.page data.toValue

def ofText (text : String) : Except String Database :=
  match Json.parse text with
  | .error failure => .error (failure.message text)
  | .ok document =>
    match (read document ⟨0, 0⟩).1 with
    | .ok data => .ok data
    | .error problems => .error (Form.problemsText "database" problems)

end Database

end MailTriage

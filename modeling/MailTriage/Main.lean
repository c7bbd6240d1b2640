import MailTriage.CommandLine.Execution
import MailTriage.Script.Engine
import MailTriage.Store.Document
import Std.Time.DateTime.Timestamp

/-!
# The program

The outer layer: arguments, environment, clock and files are handed to the command line, and what it
prints, tells and changes is handed back. The database is one document, in the file that the
database address names. No mail service is linked in, so that every request to a mailbox fails.
-/

namespace MailTriage.Program

open CommandLine

/-- The file that a database address names; none for a database in memory. -/
def databaseFile? (url : String) : Option String :=
  let scheme := "sqlite:///"
  if url.startsWith scheme && scheme.length < url.length then
    some (String.ofList (url.toList.drop scheme.length))
  else none

/-- The means of a program without a mailbox and a browser. -/
def offline (settings : Settings) : Means Unit :=
  { service := fun _ outer => (none, outer)
    browse := fun _ _ outer => (false, outer)
    evaluate := fun run outer => (Script.evaluate run, outer)
    settings := settings
    column := .scaling }

/-- How many pages of messages are asked for at most. -/
def pageLimit : Nat := 10000

def noticeLine (notice : Notice) : String :=
  " ".intercalate (notice.level :: notice.event ::
    notice.details.map fun (key, value) => key ++ "=" ++ Json.line value)

def complaintLine : Complaint → String
  | .trouble trouble => trouble.kind ++ ": " ++ trouble.message
  | .form problems => "ValidationError: " ++ Form.problemsText "" problems

/-- What is printed when arguments make no sense. -/
def usageLine : String :=
  "usage: mailtriage [-h] COMMAND ..., one of: " ++ ", ".intercalate (commands.map Prod.fst)

def readEnvironment : IO Environment := do
  let found ← (Settings.names.map Settings.variableName).mapM fun name => do
    return (← IO.getEnv name).map fun value => (name, value)
  return found.filterMap id

def readFile? (path : String) : IO (Option String) := do
  try return some (← IO.FS.readFile path)
  catch
    | .noFileOrDirectory .. => return none
    | error => throw error

/-- The files that a command needs. The way to a file that is written is taken to be there. -/
def readDisk (settings : Settings) (command : Command) : IO Disk := do
  let text ← match command.source? settings with
    | some path => readFile? path
    | none => pure none
  let disk := Disk.ofFiles (text.toList.map fun text => ((command.source? settings).getD "", text))
  return match command.target? with
    | some path => disk.addAbove (Place.ofPath path)
    | none => disk

def readDatabase (file : Option String) : IO Database := do
  match file with
  | none => return {}
  | some path =>
    match ← readFile? path with
    | none => return {}
    | some text => IO.ofExcept (Database.ofText text)

/-- Runs a command, and puts back what it has changed. -/
def runCommand (environment : Environment) (settings : Settings) (args : List String)
    (command : Command) :
    IO UInt32 := do
  let file := databaseFile? settings.databaseUrl
  let now := (← Std.Time.Timestamp.now).toMillisecondsSinceUnixEpoch.val
  let premises : Premises Unit :=
    { data := ← readDatabase file, supply := ⟨now, 0⟩
      disk := ← readDisk settings command, outer := () }
  let (ending, after) := CommandLine.run offline pageLimit environment args premises
  let (code, lines, notices, last) := match ending with
    | .stopped stop => (stop.code, [], [], none)
    | .broken complaint lines notices => (1, lines, notices, some (complaintLine complaint))
    | .finished code lines notices => (code, lines, notices, none)
  if let some path := file then
    IO.FS.writeFile path after.data.write
  if let some path := command.target? then
    if let some text := after.disk.file? (Place.ofPath path) then
      IO.FS.writeFile path text
  for line in lines do IO.println line
  for notice in notices do IO.eprintln (noticeLine notice)
  if let some line := last then IO.eprintln line
  return UInt32.ofNat code

end MailTriage.Program

open MailTriage MailTriage.CommandLine in
def main (args : List String) : IO UInt32 := do
  match Command.parse args with
  | .error stop =>
    IO.println Program.usageLine
    return UInt32.ofNat stop.code
  | .ok command =>
    let environment ← Program.readEnvironment
    match Settings.ofEnvironment environment with
    | .error problems =>
      IO.eprintln (Program.complaintLine (.form problems))
      return 1
    | .ok settings => Program.runCommand environment settings args command

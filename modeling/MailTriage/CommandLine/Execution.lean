import MailTriage.CommandLine.Command
import MailTriage.Complaint
import MailTriage.Disk
import MailTriage.Example
import MailTriage.Validation

/-!
# Running commands

A command works on the store, on files and on the mailbox, prints lines and tells what it does.
Trouble with rules is told and makes the command fail; any other complaint ends the program.
-/

namespace MailTriage.CommandLine

/-! ## What commands print -/

def decimal (n : Int) : String := String.ofList (Json.encodeInt n)

def ruleLine (rule : Rule) : String :=
  "[" ++ (if rule.enabled then "on " else "off") ++ "] " ++ rule.id ++ "  " ++ rule.name ++ "  (" ++
    decimal rule.conditions.length ++ " conditions " ++ rule.logic.name ++ ", " ++
    decimal rule.actions.length ++ " actions, fired " ++ decimal rule.executionCount ++ "x)"

/-- A text with blanks after it, up to a width. -/
def padded (width : Nat) (s : String) : String :=
  s ++ String.ofList (List.replicate (width - s.length) ' ')

def catalogLines : List String :=
  ["Conditions:"] ++
    (Catalog.conditions.map fun definition =>
      "  " ++ padded 20 definition.kind.name ++ " " ++ definition.label ++ " [" ++
        ", ".intercalate (definition.operators.map Operator.name) ++ "]") ++
    ["Actions:"] ++
    (Catalog.actions.map fun definition =>
      "  " ++ padded 20 definition.kind.name ++ " " ++ definition.label ++
        (if definition.parameters.isEmpty then ""
         else " (" ++
           ", ".intercalate (definition.parameters.map fun parameter => parameter.name) ++ ")"))

def matchLine (report : RuleReport) : String :=
  let failed := report.actions.filter fun action => !action.success
  "    " ++ report.ruleName ++ ": " ++ decimal report.actions.length ++ " actions, " ++
    decimal failed.length ++ " failed"

def entryLines (entry : LogEntry) : List String :=
  (decimal entry.timestamp ++ "  " ++ Text.quoted entry.emailSubject ++ " from " ++
    entry.emailFrom ++ ": " ++
    decimal entry.rulesFired ++ "/" ++ decimal entry.rulesChecked ++ " rules fired") ::
    ((entry.rules.filter RuleReport.matched).map matchLine)

/-! ## Commands -/

def rulesKinds : List String := ["RulesError", "RulesImportError", "RuleNotFoundError"]

def rulesText? : Complaint → Option String
  | .trouble trouble => if rulesKinds.contains trouble.kind then some trouble.message else none
  | .form _ => none

/-- What a command works on, and what it has printed and told so far. -/
structure Station (σ : Type) where
  office : Office σ
  supply : Supply
  disk : Disk
  lines : List String := []
  notices : List Notice := []

abbrev CommandStep (σ α : Type) := ExceptT Complaint (StateM (Station σ)) α

variable {σ : Type}

namespace Station

def print (lines : List String) : CommandStep σ Unit :=
  modify fun station => { station with lines := station.lines ++ lines }

def note (notice : Notice) : CommandStep σ Unit :=
  modify fun station => { station with notices := station.notices ++ [notice] }

def inStore {α : Type} (op : StoreOp α) : CommandStep σ α := do
  let station ← get
  let (result, office) := station.office.inStore op
  set { station with office := office }
  match result with
  | .ok a => return a
  | .error trouble => throw (.trouble trouble)

/-- Puts something together that may need identifiers. -/
def gather {α : Type} (x : Form.Gather α) : CommandStep σ α := do
  let station ← get
  let (result, supply) := x station.supply
  set { station with supply := supply }
  match result with
  | .ok a => return a
  | .error problems => throw (.form problems)

/-- Runs a round of either kind, and puts the office back that it leaves. -/
def inRound {τ : Type} (outer : τ) (office : τ → Office σ) (step : RoundStep τ Unit) :
    CommandStep σ Unit := do
  let station ← get
  let (result, round) := step.run.run ⟨⟨[], station.supply, outer⟩, station.notices⟩
  set { station with
    office := office round.desk.outer, supply := round.desk.supply, notices := round.notices }
  match result with
  | .ok _ => return ()
  | .error fault => throw fault.complaint

end Station

open Station

def processMail (means : Means σ) (pages : Nat) (maxEmails days : Option Int) (dryRun : Bool) :
    CommandStep σ Unit := do
  note (.info "Starting Email Triage Rules...")
  let settings ← inStore Store.settings
  if dryRun then
    let rules ← inStore Store.listRules
    inRound ⟨⟨rules, settings⟩, (← get).office⟩ Trial.office
      (Round.run (.ofTrial means) pages maxEmails days)
  else
    inRound (← get).office id
      (Round.run (.ofOffice means (← get).supply.now settings.retentionDays) pages maxEmails days)

def Command.source? (settings : Settings) : Command → Option String
  | .importRules file => some ((file.filter fun path => !path.isEmpty).getD settings.rulesFile)
  | _ => none

def Command.target? : Command → Option String
  | .exportRules file => file.filter fun path => !path.isEmpty
  | _ => none

/-- Replaces the stored rules by those of a backup. -/
def importRules (column : NumberColumn) (path : String) : CommandStep σ Unit := do
  let station ← get
  let text ← match station.disk.read path with
    | .ok text => pure text
    | .error trouble => throw (.trouble trouble)
  let (result, supply) := Backup.read text station.supply
  set { station with supply := supply }
  let backup ← match result with
    | .ok backup => pure backup
    | .error fault => throw fault.complaint
  for rule in backup.rules do
    match rule.objections with
    | .error failure => throw (failure.complaint "")
    | .ok objections =>
      for objection in objections do
        note (.warning "Rule problem" [("rule", .text rule.name),
          ("problem", .text objection.text)])
  let count ← inStore (Store.replaceRules column backup.rules)
  match backup.settings with
  | some settings => inStore (Store.setSettings settings)
  | none => pure ()
  note (.info "Rules imported" [("count", .nat count), ("source", .text path)])

/-- Writes the stored rules as a backup, into a file if there is a target. -/
def exportRules (target : Option String) : CommandStep σ Unit := do
  let rules ← inStore Store.listRules
  let settings ← inStore Store.settings
  let station ← get
  let text := Backup.write ⟨rules, some settings⟩ station.supply.now
  match target with
  | none => print [text]
  | some path =>
    match station.disk.write path text with
    | .error trouble => throw (.trouble trouble)
    | .ok disk =>
      set { station with disk := disk }
      note (.info "Rules exported" [("destination", .text path)])

/-- Prints the newest entries of the log, or clears it. -/
def showLog (limit : Int) (clear : Bool) : CommandStep σ Unit := do
  let _ ← inStore Store.settings
  if clear then
    let removed ← inStore Store.clearLog
    note (.info "Debug logs cleared" [("removed", .nat removed)])
  else
    print ((← inStore (Store.listLog (some limit))).flatMap entryLines)

/-- Stores the example rules, which are switched off. -/
def seedExamples (column : NumberColumn) : CommandStep σ Unit := do
  let now := (← get).supply.now
  for rule in ← gather Example.rules do
    let _ ← inStore (Store.createRule column now rule)
  note (.info "Example rules added (disabled)")

def toggleRule (column : NumberColumn) (ruleId : String) : CommandStep σ Unit := do
  let station ← get
  let (result, supply, session) :=
    Store.toggleRule column ruleId station.supply station.office.session
  set { station with office := { station.office with session := session }, supply := supply }
  match result with
  | .ok rule =>
    note (.info "Rule toggled" [("rule", .text rule.name), ("enabled", .bool rule.enabled)])
  | .error fault => throw fault.complaint

/-- Changes the settings of the log, and prints them. -/
def configure (debug : Option Bool) (retentionDays : Option Int) : CommandStep σ Unit := do
  let settings ← inStore Store.settings
  let settings ← if debug.isNone && retentionDays.isNone then pure settings else do
    let settings ← gather (RuleSettings.read (.object
      [("debug_mode", .bool (debug.getD settings.debugMode)),
       ("debug_retention_days", .int (retentionDays.getD settings.retentionDays))]))
    inStore (Store.setSettings settings)
    pure settings
  print [Json.page settings.toValue]

/-- Carries out a command; the number is the code that the program ends with. -/
def perform (means : Means σ) (pages : Nat) (command : Command) : CommandStep σ Nat :=
  match command with
  | .process maxEmails days dryRun => do
    processMail means pages maxEmails days dryRun
    return 0
  | .importRules _ => do
    importRules means.column ((command.source? means.settings).getD means.settings.rulesFile)
    return 0
  | .exportRules _ => do
    exportRules command.target?
    return 0
  | .list => do
    print ((← inStore Store.listRules).map ruleLine)
    return 0
  | .catalog => do
    print catalogLines
    return 0
  | .stats => do
    print [Json.page (← inStore Store.statistics).toValue]
    return 0
  | .logs limit clear => do
    showLog limit clear
    return 0
  | .seedExamples => do
    seedExamples means.column
    return 0
  | .toggle ruleId => do
    toggleRule means.column ruleId
    return 0
  | .delete ruleId => do
    return if ← inStore (Store.deleteRule ruleId) then 0 else 1
  | .config debug retentionDays => do
    configure debug retentionDays
    return 0

/-- Carries out a command; trouble with rules is told. -/
def performAndTell (means : Means σ) (pages : Nat) (command : Command) : CommandStep σ Nat := do
  try perform means pages command
  catch complaint =>
    match rulesText? complaint with
    | some text =>
      note (.error "Rules error" [("error", .text text)])
      return 1
    | none => throw complaint

/-- What the program works on: everything that lasts longer than one command. -/
structure Premises (σ : Type) where
  data : Database := {}
  supply : Supply
  disk : Disk := {}
  outer : σ

/-- How a run of the program ends. -/
inductive Ending
  /-- The arguments were not those of a command, or asked for help. -/
  | stopped (stop : Exit)
  | broken (complaint : Complaint) (lines : List String) (notices : List Notice)
  | finished (code : Nat) (lines : List String) (notices : List Notice)

/-- Runs the program with arguments in an environment. What a command has not saved when it ends is
lost. -/
def run (means : Settings → Means σ) (pages : Nat) (environment : Environment) (args : List String)
    (premises : Premises σ) : Ending × Premises σ :=
  match Command.parse args with
  | .error stop => (.stopped stop, premises)
  | .ok command =>
    match Settings.ofEnvironment environment with
    | .error problems => (.broken (.form problems) [] [], premises)
    | .ok settings =>
      let station : Station σ :=
        ⟨⟨Session.ofDatabase premises.data, premises.outer⟩, premises.supply, premises.disk, [], []⟩
      let (result, station) := (performAndTell (means settings) pages command).run.run station
      let premises : Premises σ :=
        ⟨station.office.session.saved, station.supply, station.disk, station.office.outer⟩
      match result with
      | .ok code => (.finished code station.lines station.notices, premises)
      | .error complaint => (.broken complaint station.lines station.notices, premises)

end MailTriage.CommandLine

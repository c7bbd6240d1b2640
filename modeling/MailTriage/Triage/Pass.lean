import MailTriage.Action.Execution
import MailTriage.Matching.Evaluation
import MailTriage.Form.Gather

/-!
# A pass over the rules

One pass takes the enabled rules in order against one email. Rules share the variables; a rule whose
conditions cannot be evaluated is reported and passed over; a rule that matches is recorded as
fired, and when its actions ask for navigation it is the last one. What goes wrong outside never
ends a pass.
-/

namespace MailTriage

/-- The outside world as a pass sees it: the host of actions and the engine of scripts, the stored
rules with their counters and settings, and a log if there is one. Everything but the log itself may
fail. -/
structure World (σ : Type) extends Surroundings σ where
  enabledRules : σ → Except Trouble (List Rule) × σ
  recordFire : (ruleId : String) → (timestamp : Int) → σ → Except Trouble Unit × σ
  settings : σ → Except Trouble RuleSettings × σ
  append : Option (LogEntry → σ → Except Trouble Unit × σ) := none

variable {σ : Type}

/-- The report of a rule whose conditions cannot be evaluated: no condition, and one failed
action. -/
def Rule.failed (rule : Rule) (message : String) : RuleReport :=
  { ruleId := rule.id, ruleName := rule.name, matched := false
    actions :=
      [{ actionId := some "error", kind := "error", success := false, error := some message }] }

/-- Evaluates the conditions of a rule and, when they match, carries out its actions. -/
def Rule.execute (world : Surroundings σ) (context : Context) (rule : Rule) (state : PassState)
    (outer : σ) : RuleReport × PassState × σ :=
  match rule.logic.combine { context with bindings := state.bindings } rule.conditions with
  | .error failure => (rule.failed failure.message, state, outer)
  | .ok (false, conditions) =>
    ({ ruleId := rule.id, ruleName := rule.name, matched := false, conditions := conditions },
      state, outer)
  | .ok (true, conditions) =>
    let (actions, state, outer) := Action.executeAll world context rule.actions state outer
    ({ ruleId := rule.id, ruleName := rule.name, matched := true, conditions := conditions,
       actions := actions },
     state, outer)

namespace World

/-- Records a rule that matched as fired; whether that succeeds makes no difference to the pass. -/
def recordIfMatched (world : World σ) (timestamp : Int) (report : RuleReport) (outer : σ) : σ :=
  if report.matched then (world.recordFire report.ruleId timestamp outer).2 else outer

/-- Executes rules in order, up to the first after which navigation is asked for. -/
def runRules (world : World σ) (context : Context) (timestamp : Int) :
    List Rule → PassState → σ → List RuleReport × PassState × σ
  | [], state, outer => ([], state, outer)
  | rule :: rest, state, outer =>
    let (report, state, outer) := rule.execute world.toSurroundings context state outer
    let outer := world.recordIfMatched timestamp report outer
    if state.navigation.isSome then ([report], state, outer)
    else
      let (reports, state, outer) := world.runRules context timestamp rest state outer
      (report :: reports, state, outer)

/-- Logs a pass when there is a log and the settings ask for it. -/
def publish (world : World σ) (entry : LogEntry) (outer : σ) : σ :=
  match world.append with
  | none => outer
  | some append =>
    match world.settings outer with
    | (.error _, outer) => outer
    | (.ok settings, outer) => if settings.debugMode then (append entry outer).2 else outer

end World

/-- What a pass leaves: its outcome, and the variables that the rules share. -/
structure PassEnd where
  outcome : PassOutcome
  bindings : Fields
  deriving Inhabited

def PassReport.ofRules (rules : List RuleReport) (navigation : Option Navigation) : PassReport :=
  { rulesChecked := rules.length, rulesFired := (rules.filter RuleReport.matched).length,
    rules := rules
    navigation := navigation }

def PassReport.entry (report : PassReport) (id : String) (timestamp : Int) (email : Email) :
    LogEntry :=
  { id := id, timestamp := timestamp, emailId := email.id, emailSubject := email.subject
    emailFrom := email.fromHeader, rulesChecked := report.rulesChecked, rulesFired :=
      report.rulesFired
    rules := report.rules }

def World.pass (world : World σ) (rules : List Rule) (context : Context) (supply : Supply)
    (outer : σ) :
    PassEnd × Supply × σ :=
  let (reports, state, outer) :=
    world.runRules context supply.now rules { bindings := context.bindings } outer
  let report := PassReport.ofRules reports state.navigation
  let (id, after) := supply.issue "log"
  let entry := report.entry id supply.now context.email
  (⟨⟨report, some entry⟩, state.bindings⟩, after, world.publish entry outer)

end MailTriage

import MailTriage.Action.Step
import MailTriage.Host
import MailTriage.Link.Extraction
import MailTriage.Pattern.Reader
import MailTriage.Report
import MailTriage.Rule
import MailTriage.Script.Runner
import MailTriage.Template

/-!
# Carrying out actions

An action either has an output or an error, and in both cases the pass goes on. Variables and the
direction of navigation belong to the pass and are handed from action to action; everything else
that an action changes lies outside, in a state that only the host and the engine of scripts look
into.
-/

namespace MailTriage

/-- What the actions of a pass share. -/
structure PassState where
  bindings : Fields := []
  navigation : Option Navigation := none
  deriving Inhabited

/-- The outside world as actions see it. -/
structure Surroundings (σ : Type) where
  perform : Request → σ → Reply × σ
  evaluate : ScriptRun → σ → ScriptReply × σ

/-- Why an action failed. -/
inductive ActionFault
  | unknownKind
  | invalidParameters (problems : List Form.Problem)
  | notWebUrl (url : String)
  | badUrl (fault : UrlFault)
  | refused (request : Request)
  | host (trouble : Trouble)
  | badPattern (pattern : String) (fault : Pattern.Fault)
  | unusablePattern (refusal : Pattern.Refusal)
  | script (error : Option String)
  | collection (fault : ShapeFault)
  /-- A whole number with more digits than are written. -/
  | numberTooLong

namespace ActionFault

def ofWriting : Json.WriteFault → ActionFault
  | .numberTooLong => numberTooLong

def text : ActionFault → String
  | unknownKind => "unknown action type"
  | invalidParameters problems =>
    "Invalid parameters: " ++ Form.problemsText "parameters" problems
  | notWebUrl url => "Invalid URL: " ++ Text.quoted url
  | badUrl fault => fault.message
  | refused request => request.refusal
  | host trouble => trouble.text
  | badPattern pattern fault =>
    "Invalid regex pattern " ++ Text.quoted pattern ++ ": " ++ fault.message pattern
  | unusablePattern refusal => refusal.message ""
  | script error => "Script error: " ++ error.getD ""
  | collection fault => fault.message
  | numberTooLong => Json.overlongMessage

end ActionFault

/-- What a step comes to: an output or a fault, the state of the pass, and the outside. -/
abbrev StepResult (σ : Type) := Except ActionFault Value × PassState × σ

variable {σ : Type}

namespace Surroundings

/-- Makes a request; the value false counts as a refusal. -/
def request (world : Surroundings σ) (request : Request) (outer : σ) :
    Except ActionFault Value × σ :=
  match world.perform request outer with
  | (.error trouble, outer) => (.error (.host trouble), outer)
  | (.ok (.bool false), outer) => (.error (.refused request), outer)
  | (.ok value, outer) => (.ok value, outer)

/-- Opens an address, if it leads to the web. -/
def openPage (world : Surroundings σ) (url target : String) (outer : σ) :
    Except ActionFault Value × σ :=
  match Url.parse url with
  | .error fault => (.error (.badUrl fault), outer)
  | .ok parsed =>
    if parsed.isWeb then world.request (.openUrl url target) outer
    else (.error (.notWebUrl url), outer)

end Surroundings

/-- The addresses that a script asked to open, as far as they have been dealt with. -/
structure OpenedUrls where
  opened : List String := []
  skipped : List String := []

/-- Opens the addresses of a script one after another; those that do not lead to the web are
skipped. -/
def openAll (world : Surroundings σ) (sofar : OpenedUrls) :
    List String → σ → Except ActionFault OpenedUrls × σ
  | [], outer => (.ok sofar, outer)
  | url :: rest, outer =>
    match Url.parse url with
    | .error fault => (.error (.badUrl fault), outer)
    | .ok parsed =>
      if parsed.isWeb then
        match world.request (.openUrl url "_blank") outer with
        | (.error fault, outer) => (.error fault, outer)
        | (.ok _, outer) => openAll world { sofar with opened := sofar.opened ++ [url] } rest outer
      else openAll world { sofar with skipped := sofar.skipped ++ [url] } rest outer

def scriptOutput (result : Value) (urls : OpenedUrls) : Value :=
  let texts (urls : List String) : Value := .list (urls.map .text)
  .object ([("result", result), ("openedUrls", texts urls.opened)] ++
    (if urls.skipped.isEmpty then [] else [("skippedUrls", texts urls.skipped)]))

def Context.fill (context : Context) (bindings : Fields) (template : String) :
    Except ActionFault String :=
  (context.resolve bindings template).mapError ActionFault.ofWriting

def Source.textIn (source : Source) (context : Context) : String :=
  match source with
  | .subject => context.email.subject
  | .sender => context.email.fromHeader
  | .urls => context.linkUrls
  | .content => context.email.content.getD ""

namespace Assignment

/-- The part of a text that a pattern finds; null when it finds none, or has no such group. -/
def extract (pattern : String) (group : Nat) (text : String) : Except ActionFault Value :=
  match Pattern.read pattern false with
  | .error (.malformed fault) => .error (.badPattern pattern fault)
  | .error refusal => .error (.unusablePattern refusal)
  | .ok compiled =>
    let cs := text.toList.toArray
    match compiled.search? cs with
    | none => .ok .null
    | some found => .ok (.ofText? (found.group? cs group))

/-- The value of an assignment: what its pattern finds, when it has a pattern and no value of its
own, and otherwise its value, as a template when it is a text. -/
def evaluate (assignment : Assignment) (context : Context) (bindings : Fields) :
    Except ActionFault Value :=
  let pattern := assignment.pattern.getD ""
  let blankValue := match assignment.value with
    | .null => true
    | .text s => s.isEmpty
    | _ => false
  if !pattern.isEmpty && blankValue then
    extract pattern assignment.group (assignment.source.textIn context)
  else
    match assignment.value with
    | .text template => (context.fill bindings template).map Value.text
    | other => .ok other

/-- What an assignment puts out once the value is saved. The value is noted in the journal then. -/
def output (assignment : Assignment) (value : Value) : Except ActionFault Value :=
  if Json.isWritable value then .ok (.object [("variables", .object [(assignment.name, value)])])
  else .error .numberTooLong

end Assignment

namespace Step

/-- Makes a request and, once the host has done it, puts out a value. -/
def ask (world : Surroundings σ) (request : Request) (output : Value) (state : PassState)
    (outer : σ) : StepResult σ :=
  match world.request request outer with
  | (.error fault, outer) => (.error fault, state, outer)
  | (.ok _, outer) => (.ok output, state, outer)

/-- Runs a script and opens the addresses that it asked for. -/
def script (world : Surroundings σ) (code : String) (context : Context) (state : PassState)
    (outer : σ) : StepResult σ :=
  let (result, outer) := Script.run world.evaluate code context state.bindings outer
  let state := { state with bindings := result.bindings }
  match result.outcome with
  | .error (.shape fault) => (.error (.collection fault), state, outer)
  | .error (.form problems) => (.error (.invalidParameters problems), state, outer)
  | .ok outcome =>
    if !outcome.ok then (.error (.script outcome.error), state, outer)
    else
      match openAll world {} outcome.opened outer with
      | (.error fault, outer) => (.error fault, state, outer)
      | (.ok urls, outer) => (.ok (scriptOutput outcome.result urls), state, outer)

def perform (world : Surroundings σ) (context : Context) (state : PassState) (outer : σ) :
    Step → StepResult σ
  | runScript code => script world code context state outer
  | openUrl url target =>
    match context.fill state.bindings url with
    | .error fault => (.error fault, state, outer)
    | .ok url =>
      let address := Text.strip url
      match world.openPage address target outer with
      | (.error fault, outer) => (.error fault, state, outer)
      | (.ok _, outer) => (.ok (.object [("openedUrl", .text address)]), state, outer)
  | saveVariable assignment =>
    match assignment.evaluate context state.bindings with
    | .error fault => (.error fault, state, outer)
    | .ok value =>
      (assignment.output value,
       { state with bindings := state.bindings.set assignment.name value }, outer)
  | logMessage message =>
    match context.fill state.bindings message with
    | .error fault => (.error fault, state, outer)
    | .ok message => (.ok (.object [("message", .text message)]), state, outer)
  | addScore points reason =>
    ask world (.adjustScore context.sender.email context.sender.name points reason)
      (.object [("pointsAdded", .float points)]) state outer
  | markEmail marker =>
    ask world (.markEmail context.email.id marker)
      (.object [("marker", .text marker), ("emailId", .text context.email.id)]) state outer
  | notify title body =>
    match context.fill state.bindings title with
    | .error fault => (.error fault, state, outer)
    | .ok title =>
      match context.fill state.bindings body with
      | .error fault => (.error fault, state, outer)
      | .ok body =>
        ask world (.notify title body)
          (.object [("title", .text title), ("body", .text body)]) state outer
  | deleteEmail =>
    ask world (.deleteEmail context.email.id)
      (.object [("deleted", .bool true), ("emailId", .text context.email.id)]) state outer
  | markAsRead =>
    ask world (.markAsRead context.email.id)
      (.object [("markedAsRead", .bool true), ("emailId", .text context.email.id)]) state outer
  | requestSummary =>
    match world.request (.requestSummary context.email context.sender) outer with
    | (.error fault, outer) => (.error fault, state, outer)
    | (.ok (.object summary), outer) => (.ok (.object summary), state, outer)
    | (.ok _, outer) => (.ok (.object [("emailId", .text context.email.id)]), state, outer)
  | goToNext =>
    (.ok (.object [("navigatedTo", .text Navigation.next.name)]),
     { state with navigation := some .next }, outer)
  | goToPrevious =>
    (.ok (.object [("navigatedTo", .text Navigation.previous.name)]),
     { state with navigation := some .previous }, outer)

end Step

namespace Action

def step (action : Action) : Except ActionFault Step :=
  match ActionKind.ofName? action.kind with
  | none => .error .unknownKind
  | some kind =>
    match (Step.ofFields kind action.parameters ⟨0, 0⟩).1 with
    | .ok step => .ok step
    | .error problems => .error (.invalidParameters problems)

def report (action : Action) : Except ActionFault Value → ActionReport
  | .ok output =>
    { actionId := some action.id, kind := action.kind, success := true, output := output }
  | .error fault =>
    { actionId := some action.id, kind := action.kind, success := false, error := some fault.text }

def execute (world : Surroundings σ) (context : Context) (action : Action) (state : PassState)
    (outer : σ) : ActionReport × PassState × σ :=
  match action.step with
  | .error fault => (action.report (.error fault), state, outer)
  | .ok step =>
    let (result, state, outer) := step.perform world context state outer
    (action.report result, state, outer)

/-- Carries out actions in order. -/
def executeAll (world : Surroundings σ) (context : Context) :
    List Action → PassState → σ → List ActionReport × PassState × σ
  | [], state, outer => ([], state, outer)
  | action :: rest, state, outer =>
    let (report, state, outer) := action.execute world context state outer
    let (reports, state, outer) := executeAll world context rest state outer
    (report :: reports, state, outer)

end Action

end MailTriage

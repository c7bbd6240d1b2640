import MailTriage.Json.Reader
import MailTriage.Script.Evaluation
import MailTriage.Script.Grammar
import MailTriage.Script.Runner

/-!
# The script engine

A script runs as the body of a function. It is given the parts of its input, a console, a window
that takes addresses to open, and a tool that searches texts; these last three are frozen. What it
leaves in the variables of its input is collected together with its result, its log and the
addresses.
-/

namespace MailTriage.Script

/-- The names that a script is given, with the keys of the input that they stand for. -/
def inputNames : List String :=
  ["email", "senderInfo", "extractedLinks", "senderScore", "variables"]

/-- Names that a script finds declared, but without a value. -/
def withheld : List String :=
  ["setTimeout", "setInterval", "clearTimeout", "clearInterval", "queueMicrotask", "fetch",
   "XMLHttpRequest", "WebSocket"]

def failures : List String :=
  ["Error", "TypeError", "RangeError", "SyntaxError", "ReferenceError", "EvalError", "URIError"]

def frozen (fields : List (String × Datum)) : Run Datum :=
  allocate ⟨.plain, fields, true⟩

/-- Sets the names up that a script is given, and puts its input into the heap. -/
def prepare (input : Value) : Run Datum := do
  let given ← inputNames.mapM fun name => do return (name, ← load (input.member name))
  let console ← frozen
    [("log", .service (.log "log")), ("error", .service (.log "error")),
      ("warn", .service (.log "warn"))]
  let window ← frozen [("open", .service .openPage)]
  let utils ← frozen [("extractRegex", .service .extract)]
  modify fun m =>
    { m with
      locals := given ++ [("console", console), ("window", window), ("utils", utils)]
        ++ withheld.map fun name => (name, .undefined)
      globals := constants ++ failures.map fun name => (name, .service (.failure name)) }
  return (given.lookup "variables").getD .undefined

def declareNames (names : List String) : Run Unit :=
  names.forM fun name => modify fun m =>
    if (m.locals.lookup name).isSome then m
    else { m with locals := m.locals ++ [(name, .undefined)] }

def resultText (result : Datum) : Run String := do
  let m ← get
  match documentOf m.heap [] (m.heap.size + 1) result with
  | .ok text => return text.getD "null"
  | .error _ => return "null"

def collect (bindings result : Datum) : Run String := do
  let result ← resultText result
  let bindings ← document bindings
  let m ← get
  let texts (items : List String) : String := "[" ++ ",".intercalate items ++ "]"
  return objectText
    [("variables", bindings),
     ("logs", some
       (texts (m.logs.map fun (level, line) => texts [quotedText level, quotedText line]))),
     ("opened", some (texts (m.opened.map quotedText))),
     ("result", some result)]

/-- Runs statements on an input and collects what they leave behind. -/
def runStatements (input : Value) (statements : List Statement) : Run String := do
  let bindings ← prepare input
  declareNames (declaredIn statements)
  let result ← performAll statements
  collect bindings (result.getD .undefined)

def firstLine (text : String) : String :=
  String.ofList (text.toList.takeWhile fun c => c ≠ '\n')

/-- Runs the code of a script on the document that it may see. -/
def evaluate (run : ScriptRun) : ScriptReply :=
  match Json.parse run.input, read run.code with
  | .error _, _ => .thrown "SyntaxError: Invalid or unexpected token"
  | _, .error message => .thrown ("SyntaxError: " ++ message)
  | .ok input, .ok statements =>
    match (runStatements input statements).run {} with
    | .error text => .thrown (firstLine text)
    | .ok (document, _) => .collected document

end MailTriage.Script

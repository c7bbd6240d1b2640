import MailTriage.Form.Scalar

/-!
# Outcomes of scripts

What a script leaves behind: its result, the variables, the lines it logged and the addresses it
asked to open. The engine hands these over in one JSON document, and since scripts run in the same
place as the code that collects them, the document may have any shape.
-/

namespace MailTriage

/-- What became of a script. -/
structure ScriptOutcome where
  ok : Bool
  error : Option String := none
  result : Value := .null
  bindings : Fields := []
  logs : List (String × String) := []
  opened : List String := []
  deriving Inhabited

def ScriptOutcome.toValue (outcome : ScriptOutcome) : Value :=
  .object
    [("ok", .bool outcome.ok),
     ("error", .ofText? outcome.error),
     ("result", outcome.result),
     ("variables", .object outcome.bindings),
     ("logs", .list (outcome.logs.map fun (level, message) => .list [.text level, .text message])),
     ("opened_urls", .list (outcome.opened.map .text))]

/-- How a value that should have parts fails to have them. -/
inductive ShapeFault
  | missingKey (key : String)
  | noKeys (value : Value)
  | noItems (value : Value)
  | noPair (value : Value)
  | tooFew (count : Nat)
  | tooMany

def Value.typeName : Value → String
  | .null => "NoneType"
  | .bool _ => "bool"
  | .int _ => "int"
  | .float _ => "float"
  | .text _ => "str"
  | .list _ => "list"
  | .object _ => "dict"

namespace ShapeFault

def kind : ShapeFault → String
  | missingKey _ => "KeyError"
  | noKeys _ => "TypeError"
  | noItems _ => "TypeError"
  | noPair _ => "TypeError"
  | tooFew _ => "ValueError"
  | tooMany => "ValueError"

def message : ShapeFault → String
  | missingKey key => Text.quoted key
  | noKeys (.list _) => "list indices must be integers or slices, not str"
  | noKeys (.text _) => "string indices must be integers, not 'str'"
  | noKeys value => "'" ++ value.typeName ++ "' object is not subscriptable"
  | noItems value => "'" ++ value.typeName ++ "' object is not iterable"
  | noPair value => "cannot unpack non-iterable " ++ value.typeName ++ " object"
  | tooFew count =>
    "not enough values to unpack (expected 2, got " ++ String.ofList (Nat.toDigits 10 count) ++ ")"
  | tooMany => "too many values to unpack (expected 2)"

end ShapeFault

/-- Why the collected document of a script cannot be used. -/
inductive CollectionFault
  | shape (fault : ShapeFault)
  | form (problems : List Form.Problem)

namespace Value

/-- The items that a value is made of: those of a list, the characters of a text, the keys of an
object. -/
def items? : Value → Option (List Value)
  | .list items => some items
  | .text s => some (s.toList.map fun c => .text (String.ofList [c]))
  | .object fields => some (fields.map fun (key, _) => .text key)
  | _ => none

def pair (value : Value) : Except ShapeFault (Value × Value) :=
  match value.items? with
  | none => .error (.noPair value)
  | some [a, b] => .ok (a, b)
  | some items => .error (if items.length < 2 then .tooFew items.length else .tooMany)

end Value

/-- The fields of a collected document. -/
structure Collection where
  bindings : Option Fields
  result : Value
  logs : List (Value × Value)
  /-- The addresses to open, none when the key is missing. -/
  opened : Option Value

namespace Collection

def logsOf (fields : Fields) : Except ShapeFault (List (Value × Value)) :=
  match Fields.get? "logs" fields with
  | none => .error (.missingKey "logs")
  | some logs =>
    match logs.items? with
    | none => .error (.noItems logs)
    | some items => items.mapM Value.pair

def ofDocument : Value → Except ShapeFault Collection
  | .object fields => do
    let logs ← logsOf fields
    let bindings := match Fields.get? "variables" fields with
      | some (Value.object bindings) => some bindings
      | _ => none
    return { bindings := bindings, result := (Fields.get? "result" fields).getD .null, logs := logs
             opened := Fields.get? "opened" fields }
  | value => .error (.noKeys value)

def readLog (level message : Value) : Form.Gather (String × String) :=
  Prod.mk <$> (Form.text level).under "0" <*> (Form.text message).under "1"

def readLogs (position : Nat) : List (Value × Value) → Form.Gather (List (String × String))
  | [] => pure []
  | (level, message) :: rest =>
    List.cons <$> (readLog level message).under (String.ofList (Nat.toDigits 10 position))
      <*> readLogs (position + 1) rest

/-- The outcome of a script that ran to its end, with the variables it leaves. -/
def outcome (collection : Collection) (bindings : Fields) : Except CollectionFault ScriptOutcome :=
  match collection.opened with
  | none => .error (.shape (.missingKey "opened"))
  | some opened =>
    let read : Form.Gather ScriptOutcome :=
      ScriptOutcome.mk true none collection.result bindings
        <$> (readLogs 0 collection.logs).under "logs"
        <*> (Form.listOf Form.text opened).under "opened_urls"
    match (read ⟨0, 0⟩).1 with
    | .ok outcome => .ok outcome
    | .error problems => .error (.form problems)

end Collection

end MailTriage

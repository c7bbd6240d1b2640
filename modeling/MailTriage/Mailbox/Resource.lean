import MailTriage.Form.Problem
import MailTriage.Value

/-!
# Resources of a mailbox

A mailbox service answers with JSON data that should have a certain shape. Where they have another,
looking into them fails.
-/

namespace MailTriage

/-- Why the data of a service could not be used. -/
inductive ResourceFault
  | missingKey (key : String)
  /-- A part is asked for its members and is no object. -/
  | noMembers
  /-- A part is used as what it is not. -/
  | wrongKind
  /-- A number is beyond what a floating number can hold, or has no whole part. -/
  | overflow (message : String)
  /-- A time is too far away for a calendar. -/
  | tooFar
  | form (problems : List Form.Problem)

namespace ResourceFault

def kind : ResourceFault → String
  | missingKey _ => "KeyError"
  | noMembers => "AttributeError"
  | wrongKind => "TypeError"
  | overflow _ => "OverflowError"
  | tooFar => "OSError"
  | form _ => "ValidationError"

def message : ResourceFault → String
  | missingKey key => Text.quoted key
  | noMembers => "no such attribute"
  | wrongKind => "unsupported type"
  | overflow message => message
  | tooFar => "[Errno 75] Value too large for defined data type"
  | form problems => Form.problemsText "" problems

end ResourceFault

namespace Resource

def members : Value → Except ResourceFault Fields
  | .object fields => .ok fields
  | _ => .error .noMembers

def require (key : String) : Value → Except ResourceFault Value
  | .object fields =>
    match Fields.get? key fields with
    | some value => .ok value
    | none => .error (.missingKey key)
  | _ => .error .wrongKind

/-- The items that a value is run through for: those of a list, the keys of an object, the
characters of a text. -/
def items : Value → Except ResourceFault (List Value)
  | .list items => .ok items
  | .object fields => .ok (fields.map fun (key, _) => .text key)
  | .text s => .ok (s.toList.map fun c => .text (String.ofList [c]))
  | _ => .error .wrongKind

end Resource

end MailTriage

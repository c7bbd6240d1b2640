import MailTriage.Mailbox.Resource
import MailTriage.Text.Base64
import MailTriage.Text.Utf8

/-!
# Bodies of messages

The payload of a message is a tree of parts. Its plain and its HTML body are the first ones that are
met when the parts are visited in order, each part before those that it holds; the visit ends when
both are found.
-/

namespace MailTriage

/-- The text of the body of a part; a body that cannot be decoded is empty. -/
def decodeBody (data : String) : String :=
  match Text.Base64.decode (Text.Base64.pad data.toList) with
  | some bytes => String.ofList (Text.Utf8.decode bytes)
  | none => ""

/-- The bodies that are found. -/
structure Bodies where
  plain : Option String := none
  html : Option String := none
  deriving DecidableEq, Inhabited

namespace Bodies

def orElse (found later : Bodies) : Bodies :=
  { plain := found.plain.or later.plain, html := found.html.or later.html }

def isComplete (bodies : Bodies) : Bool := bodies.plain.isSome && bodies.html.isSome

end Bodies

/-- A part of a message: the bodies that it has itself, and the parts that it holds. -/
inductive Part
  /-- Something that is no part. -/
  | broken (fault : ResourceFault)
  | node (own : Bodies) (parts : List Part)

namespace Part

def ownBodies (mimeType data : Value) : Except ResourceFault Bodies :=
  if data.isVoid then .ok {}
  else
    match mimeType, data with
    | .text "text/plain", .text s => .ok { plain := some (decodeBody s) }
    | .text "text/plain", _ => .error .wrongKind
    | .text "text/html", .text s => .ok { html := some (decodeBody s) }
    | .text "text/html", _ => .error .wrongKind
    | _, _ => .ok {}

def dataOf (fields : Fields) : Except ResourceFault Value :=
  match fields.get? "body" with
  | none => .ok .null
  | some (.object body) => .ok ((Fields.get? "data" body).getD .null)
  | some _ => .error .noMembers

def ownOf (fields : Fields) : Except ResourceFault Bodies := do
  ownBodies ((fields.get? "mimeType").getD (.text "")) (← dataOf fields)

mutual

def ofValue : Value → Part
  | .object fields =>
    match ownOf fields with
    | .error fault => broken fault
    | .ok own => node own (ofParts fields)
  | _ => broken .noMembers

def ofParts : List (String × Value) → List Part
  | [] => []
  | (key, value) :: rest => if key = "parts" then ofHeld value else ofParts rest

def ofHeld : Value → List Part
  | .list items => ofItems items
  | .null => []
  | .bool false => []
  | .object fields => if fields.isEmpty then [] else [broken .noMembers]
  | .text s => if s.isEmpty then [] else [broken .noMembers]
  | .int n => if n = 0 then [] else [broken .wrongKind]
  | .float x => if x.eq Binary64.zero then [] else [broken .wrongKind]
  | .bool true => [broken .wrongKind]

def ofItems : List Value → List Part
  | [] => []
  | item :: rest => ofValue item :: ofItems rest

end

mutual

def bodies : Part → Except ResourceFault Bodies
  | broken fault => .error fault
  | node own parts => bodiesFrom own parts

def bodiesFrom (found : Bodies) : List Part → Except ResourceFault Bodies
  | [] => .ok found
  | part :: rest =>
    match part.bodies with
    | .error fault => .error fault
    | .ok later =>
      let found := found.orElse later
      if found.isComplete then .ok found else bodiesFrom found rest

end

end Part

end MailTriage

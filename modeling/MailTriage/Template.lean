import MailTriage.Email
import MailTriage.Json.Printer
import MailTriage.Number.Reading

/-!
# Templates

A template is text with tokens: a dollar sign and, in braces, alternatives between double bars. A
token stands for the first alternative with a text of its own, where a quoted alternative is its own
text and any other is a path into the context. A template is read once, from left to right: what a
token is replaced by is not read again. A path that leads to a number with more digits than are
written spoils the whole template.
-/

namespace MailTriage

open Text

/-- How a value is spelled inside a template, with all its digits. Null is empty, and a whole
floating number shows no point. -/
def Value.spelled : Value → String
  | .null => ""
  | .bool true => "true"
  | .bool false => "false"
  | .int n => String.ofList (Json.encodeInt n)
  | .float x =>
    match x.isInteger, x.truncate? with
    | true, some n => String.ofList (Json.encodeInt n)
    | _, _ => x.text .report
  | .text s => s
  | .list items => Json.line (.list items)
  | .object fields => Json.line (.object fields)

/-- The text of a value inside a template; a number with more digits than are written has none. -/
def Value.display (v : Value) : Except Json.WriteFault String :=
  if Json.isWritable v then .ok v.spelled else .error .numberTooLong

/-- The entry of a list at an index; a negative index counts from the end. -/
def Value.atIndex? (items : List Value) (index : Int) : Option Value :=
  if 0 ≤ index then items[index.toNat]?
  else if index.natAbs ≤ items.length then items[items.length - index.natAbs]?
  else none

/-- One step of a path: a key of an object or an index of a list. Anything missing is null. -/
def Value.step (part : List Char) : Value → Value
  | .object fields => (Fields.get? (String.ofList part) fields).getD .null
  | .list items =>
    match Number.freeInteger? part with
    | some index => (atIndex? items index).getD .null
    | none => .null
  | _ => .null

namespace Template

def pathParts : List Char → List (List Char)
  | [] => [[]]
  | c :: rest =>
    if c = '.' then [] :: pathParts rest
    else
      match pathParts rest with
      | part :: parts => (c :: part) :: parts
      | [] => [[c]]

def walk (v : Value) (path : List Char) : Value :=
  (pathParts path).foldl (fun current part => current.step part) v

/-- The alternatives of a token, between double bars. -/
def splitBars : List Char → List (List Char)
  | [] => [[]]
  | '|' :: '|' :: rest => [] :: splitBars rest
  | c :: rest =>
    match splitBars rest with
    | part :: parts => (c :: part) :: parts
    | [] => [[c]]

/-- The text between quotes, when an alternative begins and ends with one quote. -/
def literal? (alternative : List Char) : Option (List Char) :=
  match alternative with
  | c :: d :: rest =>
    if (c = '\x27' ∨ c = '"') ∧ (d :: rest).getLast? = some c then some (d :: rest).dropLast
    else none
  | _ => none

def alternativeText (view : Fields) (alternative : List Char) :
    Except Json.WriteFault (List Char) :=
  let trimmed := trimWhere isBlank alternative
  match literal? trimmed with
  | some text => .ok text
  | none =>
    if trimmed.isEmpty then .ok [] else (walk (.object view) trimmed).display.map String.toList

/-- The first of some texts that is not empty. Those that follow it are not looked at. -/
def firstNonEmpty : List (Except Json.WriteFault (List Char)) → Except Json.WriteFault (List Char)
  | [] => .ok []
  | text :: rest => do
    let text ← text
    if text.isEmpty then firstNonEmpty rest else .ok text

def tokenText (view : Fields) (body : List Char) : Except Json.WriteFault (List Char) :=
  firstNonEmpty ((splitBars body).map (alternativeText view))

/-- A part of a template. -/
inductive Piece
  | plain (c : Char)
  | token (body : List Char)
  deriving DecidableEq

/-- The body of a token that begins here, up to its closing brace, and what follows it. -/
def tokenBody? : List Char → Option (List Char × List Char)
  | [] => none
  | c :: rest =>
    if c = '\x7d' then some ([], rest)
    else if c = '\x7b' then none
    else (tokenBody? rest).map fun (body, after) => (c :: body, after)

theorem tokenBody?_length {cs body after : List Char} (h : tokenBody? cs = some (body, after)) :
    after.length < cs.length := by
  induction cs generalizing body with
  | nil => simp [tokenBody?] at h
  | cons c rest ih =>
    unfold tokenBody? at h
    split at h
    · simp only [Option.some.injEq, Prod.mk.injEq] at h
      obtain ⟨_, rfl⟩ := h
      simp
    · split at h
      · simp at h
      · cases hb : tokenBody? rest with
        | none => simp [hb] at h
        | some p =>
          obtain ⟨b, a⟩ := p
          simp only [hb, Option.map_some, Option.some.injEq, Prod.mk.injEq] at h
          obtain ⟨_, rfl⟩ := h
          have := ih hb
          simp only [List.length_cons]
          omega

/-- The pieces of a template: every token, and every character outside of one. -/
def pieces : List Char → List Piece
  | [] => []
  | [c] => [.plain c]
  | c :: d :: rest =>
    if c = '$' ∧ d = '\x7b' then
      match h : tokenBody? rest with
      | some (body, after) =>
        have := tokenBody?_length h
        .token body :: pieces after
      | none => .plain c :: pieces (d :: rest)
    else .plain c :: pieces (d :: rest)
  termination_by cs => cs.length

def Piece.render (view : Fields) : Piece → Except Json.WriteFault (List Char)
  | .plain c => .ok [c]
  | .token body => tokenText view body

def joinTexts : List (Except Json.WriteFault (List Char)) → Except Json.WriteFault (List Char)
  | [] => .ok []
  | text :: rest => do
    let front ← text
    let back ← joinTexts rest
    .ok (front ++ back)

def expand (view : Fields) (template : List Char) : Except Json.WriteFault (List Char) :=
  joinTexts ((pieces template).map (Piece.render view))

end Template

/-- The text of a template in a context, with the variables of the pass. -/
def Context.resolve (context : Context) (bindings : Fields) (template : String) :
    Except Json.WriteFault String :=
  (Template.expand (context.view bindings) template.toList).map String.ofList

end MailTriage

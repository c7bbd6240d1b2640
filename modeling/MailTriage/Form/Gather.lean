import MailTriage.Form.Problem
import MailTriage.Json.Printer

/-!
# Gathering the parts of a record

A record is put together from parts that are read one after another. A part that cannot be read does
not stop the reading: every problem is kept, in the order of the parts, and the record exists
exactly when there is none. Identifiers that parts need are issued in the same order, from a supply:
one names the kind of record, the time in milliseconds and the number of identifiers issued before
it.
-/

namespace MailTriage

/-- The clock, and how many identifiers have been issued. -/
structure Supply where
  now : Int
  issued : Nat := 0
  deriving DecidableEq, Inhabited

namespace Supply

def nextId (kind : String) (supply : Supply) : String :=
  kind ++ "_" ++ String.ofList (Json.encodeInt supply.now) ++ "_" ++
    String.ofList (Text.hexDigits 9 supply.issued)

def issue (kind : String) (supply : Supply) : String × Supply :=
  (supply.nextId kind, { supply with issued := supply.issued + 1 })

end Supply

end MailTriage

namespace MailTriage.Form

/-- A value, or the problems that stand in its way, with the supply that is left. -/
def Gather (α : Type) : Type := Supply → Except (List Problem) α × Supply

namespace Gather

def both {α β : Type} :
    Except (List Problem) (α → β) → Except (List Problem) α → Except (List Problem) β
  | .ok f, .ok a => .ok (f a)
  | .ok _, .error problems => .error problems
  | .error problems, .ok _ => .error problems
  | .error problems, .error more => .error (problems ++ more)

def of {α : Type} (a : α) : Gather α := fun supply => (.ok a, supply)

def apply {α β : Type} (f : Gather (α → β)) (x : Unit → Gather α) : Gather β := fun supply =>
  let (function, supply) := f supply
  let (argument, supply) := x () supply
  (both function argument, supply)

instance : Applicative Gather where
  pure := of
  seq := apply

def refuse {α : Type} (fault : Fault) : Gather α := fun supply =>
  (.error [⟨[], fault⟩], supply)

def ofExcept {α : Type} : Except Fault α → Gather α
  | .ok a => of a
  | .error fault => refuse fault

def issue (kind : String) : Gather String := fun supply =>
  let (id, supply) := supply.issue kind
  (.ok id, supply)

def now : Gather Int := fun supply => (.ok supply.now, supply)

def under {α : Type} (key : String) (x : Gather α) : Gather α := fun supply =>
  match x supply with
  | (.ok a, supply) => (.ok a, supply)
  | (.error problems, supply) => (.error (problems.map (Problem.under key)), supply)

/-- A further condition on a value that could be read. -/
def andThen {α β : Type} (x : Gather α) (check : α → Except Fault β) : Gather β := fun supply =>
  match x supply with
  | (.ok a, supply) => ofExcept (check a) supply
  | (.error problems, supply) => (.error problems, supply)

end Gather

/-- A way of reading a value as a part of a record. -/
abbrev Reader (α : Type) := Value → Gather α

def readItems {α : Type} (read : Reader α) (position : Nat) : List Value → Gather (List α)
  | [] => pure []
  | item :: rest =>
    List.cons <$> (read item).under (String.ofList (Nat.toDigits 10 position))
      <*> readItems read (position + 1) rest

def listOf {α : Type} (read : Reader α) : Reader (List α)
  | .list items => readItems read 0 items
  | _ => .refuse .notList

def optional {α : Type} (read : Reader α) : Reader (Option α)
  | .null => pure none
  | value => some <$> read value

def anything : Reader Value := pure

def mapping : Reader Fields
  | .object fields => pure fields
  | _ => .refuse .notMapping

def record {α : Type} (name : String) (read : Fields → Gather α) : Reader α
  | .object fields => read fields
  | _ => .refuse (.notRecord name)

def firstPresent? (keys : List String) (fields : Fields) : Option (String × Value) :=
  keys.findSome? fun key => (fields.get? key).map fun value => (key, value)

def field {α : Type} (keys : List String) (read : Reader α) (absent : Gather α) (fields : Fields) :
    Gather α :=
  match firstPresent? keys fields with
  | some (key, value) => (read value).under key
  | none => absent

def required {α : Type} (keys : List String) (read : Reader α) : Fields → Gather α :=
  field keys read (Gather.under (keys.headD "") (.refuse .missing))

def defaulting {α : Type} (keys : List String) (read : Reader α) (value : α) : Fields → Gather α :=
  field keys read (pure value)

end MailTriage.Form

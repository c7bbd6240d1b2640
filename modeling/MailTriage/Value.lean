import MailTriage.Number.Binary64

/-!
# Dynamic values

Rule parameters, variables and templates hold JSON-like data. A whole number and a floating one are
different values, and an object keeps its keys in the order in which they were first written.
-/

namespace MailTriage

/-- A JSON-like value. -/
inductive Value
  | null
  | bool (b : Bool)
  | int (n : Int)
  | float (x : Binary64)
  | text (s : String)
  | list (items : List Value)
  | object (fields : List (String × Value))
  deriving Inhabited

/-- The members of an object, in order. -/
abbrev Fields := List (String × Value)

namespace Fields

def get? (key : String) : Fields → Option Value
  | [] => none
  | (k, v) :: rest => if k = key then some v else get? key rest

/-- Gives a key a value: in its place when it is there, at the end otherwise. -/
def set (key : String) (value : Value) : Fields → Fields
  | [] => [(key, value)]
  | (k, v) :: rest => if k = key then (k, value) :: rest else (k, v) :: set key value rest

def erase (key : String) (fields : Fields) : Fields :=
  fields.filter fun entry => entry.1 ≠ key

/-- Writes the entries one after another: the first place of a key counts, and its last value. -/
def ofEntries (entries : List (String × Value)) : Fields :=
  entries.foldl (fun fields entry => set entry.1 entry.2 fields) []

/-- Lets the entries of `updates` override those of `fields`. -/
def merge (fields updates : Fields) : Fields :=
  updates.foldl (fun fields entry => set entry.1 entry.2 fields) fields

def hasKey (key : String) (fields : Fields) : Bool :=
  (get? key fields).isSome

@[simp] theorem get?_nil (key : String) : get? key [] = none := rfl

@[simp] theorem get?_set_self (key : String) (value : Value) (fields : Fields) :
    get? key (set key value fields) = some value := by
  induction fields with
  | nil => simp [set, get?]
  | cons entry rest ih =>
    obtain ⟨k, v⟩ := entry
    by_cases h : k = key <;> simp [set, get?, h, ih]

theorem get?_set_of_ne {key other : String} (h : other ≠ key) (value : Value) (fields : Fields) :
    get? other (set key value fields) = get? other fields := by
  induction fields with
  | nil => simp [set, get?, Ne.symm h]
  | cons entry rest ih =>
    obtain ⟨k, v⟩ := entry
    by_cases hk : k = key
    · subst hk
      simp [set, get?, Ne.symm h]
    · have hset : set key value ((k, v) :: rest) = (k, v) :: set key value rest := by
        simp [set, hk]
      rw [hset]
      by_cases ho : k = other
      · simp [get?, ho]
      · simp [get?, ho, ih]

end Fields

namespace Value

def ofText? : Option String → Value
  | some s => text s
  | none => null

def ofInt? : Option Int → Value
  | some n => int n
  | none => null

def ofFloat? : Option Binary64 → Value
  | some x => float x
  | none => null

def nat (n : Nat) : Value := int n

/-- Whether a value counts as nothing where a default may stand in for it: null, false, zero, and
whatever is empty. -/
def isVoid : Value → Bool
  | null => true
  | bool b => !b
  | int n => n = 0
  | float x => x.eq Binary64.zero
  | text s => s.isEmpty
  | list items => items.isEmpty
  | object fields => fields.isEmpty

/-- The members of an object; none for anything else. -/
def fields : Value → Fields
  | object fs => fs
  | _ => []

def member? (v : Value) (key : String) : Option Value :=
  Fields.get? key v.fields

def member (v : Value) (key : String) : Value :=
  (v.member? key).getD null

end Value

end MailTriage

import MailTriage.Pattern.Matcher
import MailTriage.Pattern.Reader
import MailTriage.Script.Memory
import MailTriage.Script.Tree

/-!
# Running the statements of a script

What each expression and statement does to the memory of a script. Names are looked up among the
declared ones first and then among those that all scripts share; what is written to a frozen thing
is dropped.
-/

namespace MailTriage.Script

/-- What a statement ends with: a value to give back when the script is over. -/
abbrev Completion := Option Datum

/-! ### Operators -/

/-- The kind of a value, as a script is told. -/
def typeName : Datum → String
  | .undefined => "undefined"
  | .null => "object"
  | .bool _ => "boolean"
  | .number _ => "number"
  | .text _ => "string"
  | .service _ => "function"
  | .thing _ => "object"

/-- Whether two values are one, without looking through their kinds. -/
def same : Datum → Datum → Bool
  | .number x, .number y => x.eq y
  | a, b => a = b

/-- The value that a loose comparison sees in place of a truth value. -/
def loosened : Datum → Datum
  | .bool b => .number (if b then Binary64.ofInt 1 else Binary64.zero)
  | value => value

/-- Whether a loose comparison takes a value for nothing. -/
def isNothing : Datum → Bool
  | .undefined => true
  | .null => true
  | _ => false

/-- Whether two values are equal when texts and truth values count as the numbers that they
spell. -/
def loosely (a b : Datum) : Run Bool := do
  if isNothing a || isNothing b then return isNothing a && isNothing b
  else
    match loosened a, loosened b with
    | .thing p, .thing q => return p = q
    | .text s, .text t => return s = t
    | .number x, .number y => return x.eq y
    | x, y =>
      match ← primitive x, ← primitive y with
      | .text s, .text t => return s = t
      | x, y => return (← asNumber x).eq (← asNumber y)

/-- Compares two values by order: as texts when both are texts, else as numbers. -/
def compareBy (onTexts : List Nat → List Nat → Bool) (onNumbers : Binary64 → Binary64 → Bool)
    (a b : Datum) :
    Run Datum := do
  match ← primitive a, ← primitive b with
  | .text s, .text t => return .bool (onTexts (units s) (units t))
  | x, y => return .bool (onNumbers (← asNumber x) (← asNumber y))

/-- Joins two texts, or adds two numbers. -/
def plus (a b : Datum) : Run Datum := do
  match ← primitive a, ← primitive b with
  | .text s, y => return .text (s ++ (← asText y))
  | x, .text t => return .text ((← asText x) ++ t)
  | x, y => return .number ((← asNumber x).add (← asNumber y))

def calculate (f : Binary64 → Binary64 → Binary64) (a b : Datum) : Run Datum := do
  let x ← asNumber a
  let y ← asNumber b
  return .number (f x y)

/-- An operation on two values that are both needed. -/
def operate : BinaryOp → Datum → Datum → Run Datum
  | .add, a, b => plus a b
  | .sub, a, b => calculate Binary64.sub a b
  | .mul, a, b => calculate Binary64.mul a b
  | .div, a, b => calculate Binary64.div a b
  | .rem, a, b => calculate Binary64.rem a b
  | .less, a, b => compareBy unitsBefore Binary64.lt a b
  | .greater, a, b => compareBy (fun s t => unitsBefore t s) (fun x y => y.lt x) a b
  | .atMost, a, b => compareBy (fun s t => !unitsBefore t s) (fun x y => x.lt y || x.eq y) a b
  | .atLeast, a, b => compareBy (fun s t => !unitsBefore s t) (fun x y => y.lt x || x.eq y) a b
  | .same, a, b => pure (.bool (same a b))
  | .notSame, a, b => pure (.bool (!same a b))
  | .equal, a, b => do return .bool (← loosely a b)
  | .notEqual, a, b => do return .bool (!(← loosely a b))
  | .and, a, b => pure (if a.truth then b else a)
  | .or, a, b => pure (if a.truth then a else b)

/-- Whether the first value settles an operation, so that the second is not computed. -/
def settles : BinaryOp → Datum → Bool
  | .and, a => !a.truth
  | .or, a => a.truth
  | _, _ => false

def operateOnOne : UnaryOp → Datum → Run Datum
  | .not, a => pure (.bool (!a.truth))
  | .negate, a => do return .number (← asNumber a).neg
  | .toNumber, a => do return .number (← asNumber a)
  | .typeOf, a => pure (.text (typeName a))
  | .discard, _ => pure .undefined

/-! ### Places -/

def lookUp? (name : String) : Run (Option Datum) := do
  let m ← get
  return (m.locals.lookup name).orElse fun _ => m.globals.lookup name

def valueOfName (name : String) : Run Datum := do
  match ← lookUp? name with
  | some value => return value
  | none => fail "ReferenceError" (name ++ " is not defined")

def constants : List (String × Datum) :=
  [("undefined", .undefined), ("NaN", .number .nan),
    ("Infinity", .number (Binary64.infinity false))]

/-- Gives a name a value; a name that nothing declares becomes one that all scripts share. -/
def assignName (name : String) (value : Datum) : Run Unit := do
  let m ← get
  if (m.locals.lookup name).isSome then set { m with locals := put name value m.locals }
  else if (constants.lookup name).isSome then return
  else set { m with globals := put name value m.globals }

def textProperty (s key : String) : Datum :=
  let all := units s
  if key = "length" then .ofNat all.length
  else
    match (indexOf? key).bind fun index => all[index]? with
    | some unit => .text (String.ofList [Char.ofNat unit])
    | none => .undefined

def thingProperty (thing : Thing) (key : String) : Datum :=
  match thing.fields.lookup key, thing.nature with
  | some value, _ => value
  | none, .array length => if key = "length" then .ofNat length else .undefined
  | none, .failure name message =>
    if key = "message" then .text message else if key = "name" then .text name else .undefined
  | none, .plain => .undefined

def property (target : Datum) (key : String) : Run Datum := do
  match target with
  | .undefined | .null =>
    fail "TypeError"
      ("Cannot read properties of " ++ target.plainText ++ " (reading '" ++ key ++ "')")
  | .text s => return textProperty s key
  | .thing place => return thingProperty (← thingAt place) key
  | .bool _ | .number _ | .service _ => return .undefined

/-- Sets a property of a thing. An array grows with its indexes and is cut with its length. -/
def Thing.withProperty (thing : Thing) (key : String) (value : Datum) : Thing :=
  if thing.frozen then thing
  else
    match thing.nature with
    | .array length =>
      match indexOf? key, value with
      | some index, _ =>
        { thing with nature := .array (max length (index + 1)),
                     fields := put key value thing.fields }
      | none, .number x =>
        if key = "length" then
          let count := (x.truncate?.getD 0).toNat
          { thing with nature := .array count, fields := thing.fields.filter fun entry =>
              (indexOf? entry.1).all fun index => index < count }
        else { thing with fields := put key value thing.fields }
      | none, _ => { thing with fields := put key value thing.fields }
    | .failure name message =>
      match value with
      | .text text =>
        if key = "message" then { thing with nature := .failure name text }
        else if key = "name" then { thing with nature := .failure text message }
        else { thing with fields := put key value thing.fields }
      | _ => { thing with fields := put key value thing.fields }
    | .plain => { thing with fields := put key value thing.fields }

def assignProperty (target : Datum) (key : String) (value : Datum) : Run Unit := do
  match target with
  | .undefined | .null =>
    fail "TypeError"
      ("Cannot set properties of " ++ target.plainText ++ " (setting '" ++ key ++ "')")
  | .thing place =>
    let thing ← thingAt place
    modify fun m => { m with heap := m.heap.setIfInBounds place (thing.withProperty key value) }
  | .text _ | .bool _ | .number _ | .service _ => return

def removeProperty (target : Datum) (key : String) : Run Datum := do
  match target with
  | .undefined | .null => fail "TypeError" "Cannot convert undefined or null to object"
  | .thing place =>
    let thing ← thingAt place
    if thing.frozen then return .bool (thing.fields.lookup key).isNone
    else
      let rest := thing.fields.filter fun entry => entry.1 ≠ key
      modify fun m => { m with heap := m.heap.setIfInBounds place { thing with fields := rest } }
      return .bool true
  | .text _ | .bool _ | .number _ | .service _ => return .bool true

/-! ### Calls -/

def logged (value : Datum) : Run String := do
  match value with
  | .text s => return s
  | _ =>
    let m ← get
    match documentOf m.heap [] (m.heap.size + 1) value with
    | .ok text => return text.getD ""
    | .error _ => asText value

def extracted (text pattern group : Datum) : Run Datum := do
  let subject := (← asText text).toList.toArray
  let pattern ← if pattern = .undefined then pure "" else asText pattern
  let key ← if group.truth then asText group else pure "0"
  match Pattern.read ("(?a)" ++ pattern) false with
  | .error _ => return .null
  | .ok pattern =>
    let found := do
      let found ← pattern.search? subject
      found.group? subject (← indexOf? key)
    return (found.map Datum.text).getD .null

def Service.call (service : Service) (arguments : List Datum) : Run Datum := do
  match service with
  | .log level =>
    let line := " ".intercalate (← arguments.mapM logged)
    modify fun m => { m with logs := m.logs ++ [(level, line)] }
    return .undefined
  | .openPage =>
    let url ← asText (arguments.headD .undefined)
    modify fun m => { m with opened := m.opened ++ [url] }
    return .null
  | .extract =>
    extracted (arguments.getD 0 .undefined) (arguments.getD 1 .undefined)
      (arguments.getD 2 .undefined)
  | .failure name =>
    let message ← match arguments.headD .undefined with
      | .undefined => pure ""
      | value => asText value
    allocate ⟨.failure name message, [], false⟩

def call (source : String) (callee : Datum) (arguments : List Datum) : Run Datum :=
  match callee with
  | .service service => service.call arguments
  | _ => fail "TypeError" (source ++ " is not a function")

def construct (source : String) (callee : Datum) (arguments : List Datum) : Run Datum :=
  match callee with
  | .service (.failure name) => (Service.failure name).call arguments
  | _ => fail "TypeError" (source ++ " is not a constructor")

/-! ### Expressions -/

def newArray (items : List Datum) : Run Datum :=
  allocate ⟨.array items.length, items.zipIdx.map fun (item, index) => (natText index, item), false⟩

def newObject (fields : List (String × Datum)) : Run Datum :=
  allocate ⟨.plain, fields.foldl (fun all (key, value) => put key value all) [], false⟩

/-- Gives a place the value that an operation makes from its old one, and tells both. -/
def update (old : Run Datum) (store : Datum → Run Unit) (change : Datum → Run (Datum × Datum)) :
    Run Datum := do
  let (new, result) ← change (← old)
  store new
  return result

/-- What counting does: the new value, and the one that the expression has. -/
def counted (up before : Bool) (old : Datum) : Run (Datum × Datum) := do
  let x ← asNumber old
  let one := Binary64.ofInt 1
  let y := Datum.number (if up then x.add one else x.sub one)
  return (y, if before then y else .number x)

mutual

def Expr.evaluate : Expr → Run Datum
  | .number x => pure (.number x)
  | .text s => pure (.text s)
  | .bool b => pure (.bool b)
  | .null => pure .null
  | .name s => valueOfName s
  | .array items => do newArray (← evaluateAll items)
  | .object fields => do newObject (← evaluateFields fields)
  | .member target key => do property (← target.evaluate) key
  | .index target key => do
    let target ← target.evaluate
    let key ← key.evaluate
    property target (← asText key)
  | .call callee arguments => do
    let f ← callee.evaluate
    call callee.source f (← evaluateAll arguments)
  | .construct callee arguments => do
    let f ← callee.evaluate
    construct callee.source f (← evaluateAll arguments)
  | .unary .typeOf (.name s) => do
    operateOnOne .typeOf ((← lookUp? s).getD .undefined)
  | .unary op e => do operateOnOne op (← e.evaluate)
  | .binary op a b => do
    let x ← a.evaluate
    if settles op x then return x
    else operate op x (← b.evaluate)
  | .remove (.member target key) => do removeProperty (← target.evaluate) key
  | .remove (.index target key) => do
    let target ← target.evaluate
    let key ← key.evaluate
    removeProperty target (← asText key)
  | .remove (.name s) => do return .bool ((← lookUp? s).isNone)
  | .remove e => do
    let _ ← e.evaluate
    return .bool true
  | .assign op (.name s) value =>
    update (if op.isNone then pure .undefined else valueOfName s) (assignName s) fun old => do
      let value ← value.evaluate
      let new ← match op with
        | some op => operate op old value
        | none => pure value
      return (new, new)
  | .assign op (.member target key) value => do
    let target ← target.evaluate
    update (if op.isNone then pure .undefined
      else property target key) (assignProperty target key) fun old => do
      let value ← value.evaluate
      let new ← match op with
        | some op => operate op old value
        | none => pure value
      return (new, new)
  | .assign op (.index target key) value => do
    let target ← target.evaluate
    let key ← asText (← key.evaluate)
    update (if op.isNone then pure .undefined
      else property target key) (assignProperty target key) fun old => do
      let value ← value.evaluate
      let new ← match op with
        | some op => operate op old value
        | none => pure value
      return (new, new)
  | .assign .. => fail "SyntaxError" "Invalid left-hand side in assignment"
  | .count up before (.name s) => update (valueOfName s) (assignName s) (counted up before)
  | .count up before (.member target key) => do
    let target ← target.evaluate
    update (property target key) (assignProperty target key) (counted up before)
  | .count up before (.index target key) => do
    let target ← target.evaluate
    let key ← asText (← key.evaluate)
    update (property target key) (assignProperty target key) (counted up before)
  | .count .. => fail "SyntaxError" "Invalid left-hand side expression in postfix operation"
  | .choose test yes no => do
    if (← test.evaluate).truth then yes.evaluate else no.evaluate

/-- The values of expressions, from left to right. -/
def evaluateAll : List Expr → Run (List Datum)
  | [] => pure []
  | e :: rest => do
    let first ← e.evaluate
    return first :: (← evaluateAll rest)

/-- The fields of an object, from left to right. -/
def evaluateFields : List (String × Expr) → Run (List (String × Datum))
  | [] => pure []
  | (key, e) :: rest => do
    let first ← e.evaluate
    return (key, first) :: (← evaluateFields rest)

end

/-! ### Statements -/

/-- How often a loop may go round. -/
def patience : Nat := 1000000

/-- Goes round a loop until a round ends it. -/
def goRound (round : Run (Option Completion)) : (fuel : Nat) → Run Completion
  | 0 => throw "JavaScript was terminated by timeout"
  | fuel + 1 => do
    match ← round with
    | some completion => return completion
    | none => goRound round fuel

/-- Gives declared names their first values. -/
def declareAll : List (String × Option Expr) → Run Unit
  | [] => pure ()
  | (_, none) :: rest => declareAll rest
  | (name, some e) :: rest => do
    assignName name (← e.evaluate)
    declareAll rest

/-- The value of an expression that may be left out. -/
def evaluate? (e : Option Expr) (absent : Datum) : Run Datum :=
  match e with
  | some e => e.evaluate
  | none => pure absent

mutual

def Statement.perform : Statement → Run Completion
  | .nothing => pure none
  | .declare bindings => do
    declareAll bindings
    return none
  | .run e => do
    let _ ← e.evaluate
    return none
  | .block body => performAll body
  | .branch test yes (some no) => do
    if (← test.evaluate).truth then yes.perform else no.perform
  | .branch test yes none => do
    if (← test.evaluate).truth then yes.perform else return none
  | .loop start test update body => do
    let _ ← start.perform
    goRound (do
      if (← evaluate? test (.bool true)).truth then
        match ← body.perform with
        | some value => return some (some value)
        | none =>
          let _ ← evaluate? update .undefined
          return none
      else return some none) patience
  | .give e => do return some (← evaluate? e .undefined)
  | .raise e => do throw (← asText (← e.evaluate))

/-- Performs statements up to the one that gives a value back. -/
def performAll : List Statement → Run Completion
  | [] => pure none
  | statement :: rest => do
    match ← statement.perform with
    | some value => return some value
    | none => performAll rest

end

end MailTriage.Script

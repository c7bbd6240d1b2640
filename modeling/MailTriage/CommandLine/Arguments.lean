import MailTriage.Text.Class
import MailTriage.Text.Part

/-!
# Arguments

A command takes options, each perhaps with a value, and perhaps one word. An option may be cut short
as long as no other one begins in the same way; its value follows it, or is joined to it by an
equals sign. Two hyphens alone divide the options from what are only words.
-/

namespace MailTriage.CommandLine

/-- How arguments end a program before it begins: with an explanation, or because they make no
sense. -/
inductive Exit
  | help
  | usage
  deriving DecidableEq

def Exit.code : Exit → Nat
  | help => 0
  | usage => 2

/-- An option: its name, and which values it takes, if it takes one. -/
structure Choice where
  name : String
  accepts : Option (String → Bool) := none

/-- Whether a command takes a word. -/
inductive Slot
  | absent
  | optional
  | required
  deriving DecidableEq

/-- What a command takes. -/
structure Synopsis where
  choices : List Choice := []
  slot : Slot := .absent

/-- An argument by its looks. -/
inductive Token
  | word (s : String)
  | divider
  /-- A request for help, and how it ends. -/
  | help (stop : Exit)
  | choice (choice : Choice) (tail : Option String)
  | unknown
  | ambiguous

/-- Whether a text is a number with a minus, which is a word. -/
def isNegative (cs : List Char) : Bool :=
  let isDigit (c : Char) : Bool := Text.isDecimalDigit c
  match cs with
  | '-' :: rest =>
    let rest := if rest.getLast? = some '\n' then rest.dropLast else rest
    let (whole, more) := rest.span isDigit
    match more with
    | [] => !whole.isEmpty
    | '.' :: fraction => !fraction.isEmpty && fraction.all isDigit
    | _ => false
  | _ => false

/-- Splits a text at its first equals sign. -/
def splitTail (s : String) : String × Option String :=
  match s.toList.span fun c => c ≠ '=' with
  | (_, []) => (s, none)
  | (name, _ :: tail) => (String.ofList name, some (String.ofList tail))

def helpWith (tail : Option String) : Token := .help (if tail.isSome then .usage else .help)

/-- A short request for help with more letters behind it: the first other than its own decides,
which may be neither a hyphen nor an equals sign. -/
def shortHelp (letters : List Char) : Token :=
  match letters.dropWhile fun c => c = 'h' with
  | '-' :: _ => .help .usage
  | '=' :: _ => .help .usage
  | _ => .help .help

def named? (synopsis : Synopsis) (name : String) (tail : Option String) : Option Token :=
  if name = "-h" || name = "--help" then some (helpWith tail)
  else (synopsis.choices.find? fun choice => choice.name = name).map fun choice =>
    .choice choice tail

def candidates (synopsis : Synopsis) (name : String) (tail : Option String) : List Token :=
  (if Text.beginsWith "--help" name then [helpWith tail] else []) ++
    (synopsis.choices.filter fun choice => Text.beginsWith choice.name name).map fun choice =>
      .choice choice tail

/-- What begins with a hyphen and is not the name of an option. -/
def classifyOther (synopsis : Synopsis) (arg : String) : Token :=
  let stray : Token :=
    if isNegative arg.toList || arg.toList.contains ' ' then .word arg else .unknown
  let (name, tail) := splitTail arg
  if Text.beginsWith arg "--" then
    match candidates synopsis name tail with
    | [] => stray
    | [token] => token
    | _ => .ambiguous
  else if Text.beginsWith arg "-h" then shortHelp (arg.toList.drop 2)
  else stray

/-- What an argument in front of the divider looks like. -/
def classify (synopsis : Synopsis) (arg : String) : Token :=
  let (name, tail) := splitTail arg
  if !Text.beginsWith arg "-" || arg = "-" then .word arg
  else
    match named? synopsis arg none with
    | some token => token
    | none =>
      match tail with
      | none => classifyOther synopsis arg
      | some _ => (named? synopsis name tail).getD (classifyOther synopsis arg)

def tokens (synopsis : Synopsis) : List String → List Token
  | [] => []
  | arg :: rest =>
    if arg = "--" then .divider :: rest.map .word else classify synopsis arg :: tokens synopsis rest

/-- Arguments that have been read: the options with their values in order, and the word. -/
structure Arguments where
  values : List (String × String) := []
  word : Option String := none
  /-- Something was there that the command does not take. -/
  surplus : Bool := false

namespace Arguments

def value? (name : String) (arguments : Arguments) : Option String :=
  arguments.values.reverse.lookup name

def has (name : String) (arguments : Arguments) : Bool := (arguments.value? name).isSome

end Arguments

def accept (choice : Choice) (value : String) (arguments : Arguments) : Except Exit Arguments :=
  if (choice.accepts.getD fun _ => true) value then
    .ok { arguments with values := arguments.values ++ [(choice.name, value)] }
  else .error .usage

def readTokens (synopsis : Synopsis) (arguments : Arguments) : List Token → Except Exit Arguments
  | [] => .ok arguments
  | .help stop :: _ => .error stop
  | .ambiguous :: _ => .error .usage
  | .unknown :: rest => readTokens synopsis { arguments with surplus := true } rest
  | .divider :: rest =>
    readTokens synopsis
      { arguments with surplus := arguments.surplus || synopsis.slot = .absent } rest
  | .word s :: rest =>
    if synopsis.slot = .absent || arguments.word.isSome then
      readTokens synopsis { arguments with surplus := true } rest
    else readTokens synopsis { arguments with word := some s } rest
  | .choice choice tail :: rest =>
    match choice.accepts, tail, rest with
    | none, none, rest => do
      readTokens synopsis (← accept choice "" arguments) rest
    | none, some _, _ => .error .usage
    | some _, some value, rest => do
      readTokens synopsis (← accept choice value arguments) rest
    | some _, none, .word value :: rest => do
      readTokens synopsis (← accept choice value arguments) rest
    | some _, none, _ => .error .usage

/-- Reads the arguments of a command. An option that can be read in two ways spoils them all. -/
def read (synopsis : Synopsis) (args : List String) : Except Exit Arguments := do
  let tokens := tokens synopsis args
  if tokens.any fun token => token matches .ambiguous then throw .usage
  let arguments ← readTokens synopsis {} tokens
  if arguments.surplus || (synopsis.slot = .required && arguments.word.isNone) then throw .usage
  return arguments

end MailTriage.CommandLine

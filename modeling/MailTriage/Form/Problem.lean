import MailTriage.Text.Quoted
import MailTriage.Json.Printer

/-!
# Problems with a form

A form is data that claims to be a record. Each problem says where in the form it lies and what is
wrong there; a fault has a message for people and a code for programs.
-/

namespace MailTriage.Form

/-- The texts that a field may hold, quoted, the last two joined by "or". -/
def optionsText (options : List String) : String :=
  match options.reverse with
  | [] => ""
  | [only] => Text.quoted only
  | last :: before :: earlier =>
    String.join (earlier.reverse.map fun option => Text.quoted option ++ ", ") ++
      Text.quoted before ++ " or " ++ Text.quoted last

/-- What is wrong at one place of a form. -/
inductive Fault
  | missing
  | notText
  | tooShort (least : Nat)
  | notBoolean
  | unclearBoolean
  | notInteger
  | fractional
  | unreadableInteger
  | oversizedInteger
  | belowMinimum (least : Int)
  | notAbove (bound : Int)
  | notNumber
  | unreadableNumber
  | notFinite
  | notList
  | notMapping
  | notRecord (name : String)
  | notAmong (options : List String)
  | notConstant (options : List String)
  | rejected (reason : String)
  deriving DecidableEq

namespace Fault

def message : Fault → String
  | missing => "Field required"
  | notText => "Input should be a valid string"
  | tooShort least =>
    "String should have at least " ++ String.ofList (Nat.toDigits 10 least) ++
      (if least = 1 then " character" else " characters")
  | notBoolean => "Input should be a valid boolean"
  | unclearBoolean => "Input should be a valid boolean, unable to interpret input"
  | notInteger => "Input should be a valid integer"
  | fractional => "Input should be a valid integer, got a number with a fractional part"
  | unreadableInteger => "Input should be a valid integer, unable to parse string as an integer"
  | oversizedInteger => "Unable to parse input string as an integer, exceeded maximum size"
  | belowMinimum least =>
    "Input should be greater than or equal to " ++ String.ofList (Json.encodeInt least)
  | notAbove bound => "Input should be greater than " ++ String.ofList (Json.encodeInt bound)
  | notNumber => "Input should be a valid number"
  | unreadableNumber => "Input should be a valid number, unable to parse string as a number"
  | notFinite => "Input should be a finite number"
  | notList => "Input should be a valid list"
  | notMapping => "Input should be a valid dictionary"
  | notRecord name => "Input should be a valid dictionary or instance of " ++ name
  | notAmong options => "Input should be " ++ optionsText options
  | notConstant options => "Input should be " ++ optionsText options
  | rejected reason => "Value error, " ++ reason

def code : Fault → String
  | missing => "missing"
  | notText => "string_type"
  | tooShort _ => "string_too_short"
  | notBoolean => "bool_type"
  | unclearBoolean => "bool_parsing"
  | notInteger => "int_type"
  | fractional => "int_from_float"
  | unreadableInteger => "int_parsing"
  | oversizedInteger => "int_parsing_size"
  | belowMinimum _ => "greater_than_equal"
  | notAbove _ => "greater_than"
  | notNumber => "float_type"
  | unreadableNumber => "float_parsing"
  | notFinite => "finite_number"
  | notList => "list_type"
  | notMapping => "dict_type"
  | notRecord _ => "model_type"
  | notAmong _ => "enum"
  | notConstant _ => "literal_error"
  | rejected _ => "value_error"

end Fault

/-- A fault and the keys and positions that lead to it. -/
structure Problem where
  place : List String
  fault : Fault
  deriving DecidableEq

namespace Problem

/-- A problem seen from outside: one more key leads to it. -/
def under (key : String) (problem : Problem) : Problem :=
  { problem with place := key :: problem.place }

/-- The place and the message; `whole` names the form itself. -/
def text (whole : String) (problem : Problem) : String :=
  let place := ".".intercalate problem.place
  (if place.isEmpty then whole else place) ++ ": " ++ problem.fault.message

end Problem

def problemsText (whole : String) (problems : List Problem) : String :=
  "; ".intercalate (problems.map (Problem.text whole))

end MailTriage.Form

import MailTriage.Number.Binary64
import MailTriage.Text.Class

/-!
# Numbers written in texts

Three ways of reading a number from a text. *Free* numbers are what people type into conditions and
paths: digits of any script, single underscores between digits, blanks around. *Form* numbers are
what rule data holds: ASCII digits, underscores, and for integers a fraction of zeros. *Plain*
numbers are the digit runs of JSON. A whole number may have to fit a signed machine word of 64 bits.
-/

namespace MailTriage

def wordBound : Int := 9223372036854775808

/-- Whether a whole number fits a machine word. -/
def fitsWord (n : Int) : Bool := -wordBound ≤ n && n < wordBound

end MailTriage

namespace MailTriage.Number

open MailTriage.Text

/-- The longest digit run that is read as an integer. -/
def digitLimit : Nat := 4300

/-- Whether a whole number is short enough to be read. -/
def isReadable (n : Int) : Bool := (Nat.toDigits 10 n.natAbs).length ≤ digitLimit

def ofDigits (digits : List Char) : Nat :=
  digits.foldl (fun n c => 10 * n + (c.toNat - 48)) 0

/-- A list of characters with decimal digits of other scripts replaced by ASCII ones. -/
def withAsciiDigits (cs : List Char) : List Char :=
  cs.map fun c =>
    match decimalDigit? c with
    | some d => Char.ofNat (48 + d)
    | none => c

/-- Drops single underscores between digits; `none` when one stands elsewhere. -/
def joinDigits? : List Char → Option (List Char)
  | [] => some []
  | [c] => if c = '_' then none else some [c]
  | c :: '_' :: rest =>
    match rest with
    | d :: _ => if c.isDigit && d.isDigit then (joinDigits? rest).map (c :: ·) else none
    | [] => none
  | c :: rest => if c = '_' then none else (joinDigits? rest).map (c :: ·)

/-- Splits off a sign; `true` for a minus. -/
def signed : List Char → Bool × List Char
  | '-' :: rest => (true, rest)
  | '+' :: rest => (false, rest)
  | cs => (false, cs)

def withSign (negative : Bool) (n : Nat) : Int :=
  if negative then -(n : Int) else n

/-- An integer as people type it; `none` also past the digit limit. -/
def freeInteger? (cs : List Char) : Option Int :=
  let (negative, digits) := signed (withAsciiDigits (trimWhere isWhiteSpace cs))
  match joinDigits? digits with
  | some run =>
    if run ≠ [] ∧ run.all Char.isDigit ∧ run.length ≤ digitLimit then
      some (withSign negative (ofDigits run))
    else none
  | none => none

/-- Reads `[digits][.digits][e[sign]digits]`, with a digit in front of the exponent. -/
def decimal? (negative : Bool) (cs : List Char) : Option Binary64 :=
  let whole := cs.takeWhile Char.isDigit
  let rest := cs.dropWhile Char.isDigit
  let (fraction, rest) := match rest with
    | '.' :: more => (more.takeWhile Char.isDigit, more.dropWhile Char.isDigit)
    | other => ([], other)
  if whole = [] ∧ fraction = [] then none
  else
    let digits := ofDigits (whole ++ fraction)
    let scale : Int := -(fraction.length : Int)
    match rest with
    | [] => some (Binary64.ofDecimal negative digits scale)
    | mark :: more =>
      if mark = 'e' ∨ mark = 'E' then
        let (down, exponent) := signed more
        if exponent ≠ [] ∧ exponent.all Char.isDigit then
          some (Binary64.ofDecimal negative digits (scale + withSign down (ofDigits exponent)))
        else none
      else none

/-- A decimal, an infinity or a NaN, in any case, with an optional sign. -/
def signedDecimal? (cs : List Char) : Option Binary64 :=
  let (negative, body) := signed cs
  let word := String.ofList (body.map Char.toLower)
  if word = "inf" ∨ word = "infinity" then some (Binary64.infinity negative)
  else if word = "nan" then some .nan
  else decimal? negative body

def freeNumber? (cs : List Char) : Option Binary64 :=
  match joinDigits? (withAsciiDigits (trimWhere isBlank cs)) with
  | some plain => signedDecimal? plain
  | none => none

/-- Drops underscores, none of which may stand first, last or beside another. -/
def loosenUnderscores? (cs : List Char) : Option (List Char) :=
  let rec doubled : List Char → Bool
    | '_' :: '_' :: _ => true
    | _ :: rest => doubled rest
    | [] => false
  if cs.head? = some '_' ∨ cs.getLast? = some '_' ∨ doubled cs then none
  else some (cs.filter (· ≠ '_'))

def formNumber? (cs : List Char) : Option Binary64 :=
  match signedDecimal? (trimWhere isWhiteSpace cs) with
  | some x => some x
  | none =>
    match loosenUnderscores? cs with
    | some plain => signedDecimal? (trimWhere isWhiteSpace plain)
    | none => none

/-- What is wrong with the text of an integer in rule data. -/
inductive IntegerFault
  | unreadable
  | oversized
  deriving DecidableEq

/-- Drops zeros in front of a number without a minus, and underscores among them. -/
def dropLeadingZeros? : List Char → Option (List Char)
  | '0' :: rest =>
    match rest.dropWhile (fun c => c = '0' ∨ c = '_') with
    | [] => some [rest.getLast?.getD '0']
    | c :: more =>
      if c.isDigit then some (c :: more)
      else if c = '.' then some ('0' :: c :: more)
      else none
  | '-' :: rest => some ('-' :: rest)
  | c :: rest => if c.isDigit then some (c :: rest) else none
  | [] => none

def dropZeroFraction (cs : List Char) : List Char :=
  match cutAt '.' cs with
  | (whole, some fraction) => if fraction.all (· = '0') then whole else cs
  | (_, none) => cs

/-- Reads an integer without blanks or underscores; a number has no zero in front. -/
def strictInteger (cs : List Char) : Except IntegerFault Int :=
  let (negative, digits) := match cs with
    | '-' :: rest => (true, rest)
    | other => (false, other)
  if digits = [] ∨ !digits.all Char.isDigit then .error .unreadable
  else if digits.head? = some '0' ∧ digits ≠ ['0'] then .error .unreadable
  else if digitLimit < digits.length then .error .oversized
  else .ok (withSign negative (ofDigits digits))

/-- An integer in rule data: blanks around it, a plus, zeros in front of a positive number, single
underscores and a fraction of zeros are let pass. -/
def formInteger (cs : List Char) : Except IntegerFault Int :=
  let body := match trimWhere isWhiteSpace cs with
    | '+' :: '-' :: _ => []
    | '+' :: rest => rest
    | other => other
  match dropLeadingZeros? body with
  | none => .error .unreadable
  | some significant =>
    match loosenUnderscores? (dropZeroFraction significant) with
    | none => .error .unreadable
    | some plain => strictInteger plain

end MailTriage.Number

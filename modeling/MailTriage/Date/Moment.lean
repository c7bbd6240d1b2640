import MailTriage.Number.Binary64

/-!
# Moments

A day of the calendar, a time of that day, and the distance from universal time if it is known. A
moment is written the way ISO 8601 wants it, with a fraction of six digits unless the second is
whole.
-/

namespace MailTriage

/-- A date and a time. -/
structure Moment where
  year : Nat
  month : Nat
  day : Nat
  hour : Nat := 0
  minute : Nat := 0
  second : Nat := 0
  microsecond : Nat := 0
  /-- Minutes east of universal time. -/
  offset : Option Int := none
  deriving DecidableEq, Inhabited

namespace Moment

def isLeap (year : Nat) : Bool :=
  year % 4 = 0 && (year % 100 ≠ 0 || year % 400 = 0)

def daysIn (year month : Nat) : Nat :=
  if month = 2 then (if isLeap year then 29 else 28)
  else if month = 4 || month = 6 || month = 9 || month = 11 then 30
  else 31

/-- Whether the calendar and the clock have such a moment, and its distance is less than a day. -/
def exists? (m : Moment) : Bool :=
  1 ≤ m.year && m.year ≤ 9999 && 1 ≤ m.month && m.month ≤ 12 &&
    1 ≤ m.day && m.day ≤ daysIn m.year m.month &&
    m.hour < 24 && m.minute < 60 && m.second < 60 && m.microsecond < 1000000 &&
    m.offset.all fun minutes => minutes.natAbs < 24 * 60

def digits (width n : Nat) : List Char :=
  let text := Nat.toDigits 10 n
  List.replicate (width - text.length) '0' ++ text

def offsetText (minutes : Int) : List Char :=
  (if minutes < 0 then '-' else '+') ::
    (digits 2 (minutes.natAbs / 60) ++ ':' :: digits 2 (minutes.natAbs % 60))

def text (m : Moment) : String :=
  String.ofList (digits 4 m.year ++ '-' :: digits 2 m.month ++ '-' :: digits 2 m.day ++
    'T' :: digits 2 m.hour ++ ':' :: digits 2 m.minute ++ ':' :: digits 2 m.second ++
    (if m.microsecond = 0 then [] else '.' :: digits 6 m.microsecond) ++
    (match m.offset with
     | some minutes => offsetText minutes
     | none => []))

/-- The day that lies a number of days after the first of March of year zero: year, month and
day. -/
def civil (days : Int) : Int × Nat × Nat :=
  let era := Int.fdiv days 146097
  let ofEra := (Int.fmod days 146097).toNat
  let ofYears := (ofEra - ofEra / 1460 + ofEra / 36524 - ofEra / 146096) / 365
  let ofYear := ofEra - (365 * ofYears + ofYears / 4 - ofYears / 100)
  let shifted := (5 * ofYear + 2) / 153
  let day := ofYear - (153 * shifted + 2) / 5 + 1
  let month := if shifted < 10 then shifted + 3 else shifted - 9
  (era * 400 + ofYears + (if month ≤ 2 then 1 else 0), month, day)

/-- The moment of universal time at a number of seconds and microseconds since 1970; none outside of
the years 1 to 9999. -/
def ofSeconds? (seconds : Int) (microsecond : Nat) : Option Moment :=
  let (year, month, day) := civil (Int.fdiv seconds 86400 + 719468)
  let rest := (Int.fmod seconds 86400).toNat
  if 1 ≤ year && year ≤ 9999 then
    some { year := year.toNat, month := month, day := day, hour := rest / 3600
           minute := rest / 60 % 60, second := rest % 60, microsecond :=
             microsecond, offset := some 0 }
  else none

/-- The whole seconds of a number of seconds, and the microseconds beyond them: the fraction is
rounded to a microsecond, a half to the even one. -/
def splitSeconds? (x : Binary64) : Option (Int × Nat) := do
  let whole ← x.truncate?
  let fraction := (x.sub (Binary64.ofInt whole)).mul (Binary64.ofInt 1000000)
  let nearest : Int := match fraction with
    | .nan => 0
    | .ranked negative rank =>
      let (numerator, denominator) := Binary64.ratio rank.val
      let n : Int := Binary64.roundHalfEven numerator denominator
      if negative then -n else n
  if 1000000 ≤ nearest then some (whole + 1, (nearest - 1000000).toNat)
  else if nearest < 0 then some (whole - 1, (nearest + 1000000).toNat)
  else some (whole, nearest.toNat)

end Moment

end MailTriage

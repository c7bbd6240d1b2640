import MailTriage.Date.Moment
import MailTriage.Number.Reading
import MailTriage.Text.Part

/-!
# Dates in headers

Two ways of writing a date are read: that of mail headers, with a day of the week or without one, as
in `Tue, 14 Nov 2023 22:13:20 +0530`, and that of ISO 8601, as in `2023-11-14T22:13:20Z`. The time
and the zone may be left out. A zone is a distance, a name of universal time, or another name, which
then tells nothing.
-/

namespace MailTriage.Moment

def isLetter (c : Char) : Bool := c.isAlpha

def monthNames : List (List String) :=
  [["jan", "january"], ["feb", "february"], ["mar", "march"], ["apr", "april"], ["may"],
   ["jun", "june"], ["jul", "july"], ["aug", "august"], ["sep", "sept", "september"],
   ["oct", "october"], ["nov", "november"], ["dec", "december"]]

def weekdayNames : List String :=
  ["mon", "monday", "tue", "tuesday", "wed", "wednesday", "thu", "thursday", "fri", "friday", "sat",
   "saturday", "sun", "sunday"]

def lowered (cs : List Char) : String := String.ofList (cs.map Char.toLower)

def monthOf? (cs : List Char) : Option Nat :=
  (monthNames.findIdx? fun names => names.contains (lowered cs)).map (· + 1)

def dropBlanks (cs : List Char) : List Char := cs.dropWhile Text.isBlank

/-- A run of digits of a length within bounds, and what follows it. -/
def number? (least most : Nat) (cs : List Char) : Option (Nat × List Char) :=
  let run := cs.takeWhile Char.isDigit
  if least ≤ run.length && run.length ≤ most then some (Number.ofDigits run, cs.drop run.length)
  else none

/-- A fraction of a second in microseconds; further digits do not count. -/
def fraction (cs : List Char) : Nat × List Char :=
  match cs with
  | '.' :: rest =>
    let run := rest.takeWhile Char.isDigit
    let six := (run ++ List.replicate 6 '0').take 6
    (Number.ofDigits six, rest.drop run.length)
  | _ => (0, cs)

/-- Puts a time into a moment: hours and minutes, and seconds unless they are left out. -/
def withTime? (m : Moment) (cs : List Char) : Option (Moment × List Char) := do
  let (hour, rest) ← number? 1 2 cs
  match rest with
  | ':' :: rest =>
    let (minute, rest) ← number? 1 2 rest
    match rest with
    | ':' :: rest =>
      let (second, rest) ← number? 1 2 rest
      let (microsecond, rest) := fraction rest
      return ({ m with hour := hour, minute := minute, second := second,
                       microsecond := microsecond }, rest)
    | rest => return ({ m with hour := hour, minute := minute }, rest)
  | _ => none

/-- Puts a time of four or six digits into a moment. -/
def withShortTime? (m : Moment) (cs : List Char) : Option (Moment × List Char) :=
  let run := cs.takeWhile Char.isDigit
  let part (first : Nat) := Number.ofDigits ((run.drop first).take 2)
  if run.length = 4 then some ({ m with hour := part 0, minute := part 2 }, cs.drop 4)
  else if run.length = 6 then
    let (microsecond, rest) := fraction (cs.drop 6)
    some ({ m with hour := part 0, minute := part 2, second := part 4, microsecond := microsecond },
      rest)
  else none

def distance? (cs : List Char) : Option (Nat × List Char) :=
  let run := cs.takeWhile Char.isDigit
  let rest := cs.drop run.length
  if run.length = 4 then
    some (Number.ofDigits (run.take 2) * 60 + Number.ofDigits (run.drop 2), rest)
  else if run.length = 1 || run.length = 2 then
    match rest with
    | ':' :: more => do
      let (minutes, rest) ← number? 2 2 more
      return (Number.ofDigits run * 60 + minutes, rest)
    | _ => some (Number.ofDigits run * 60, rest)
  else none

def universalNames : List String := ["UTC", "GMT", "Z", "z"]

def zone? (cs : List Char) : Option (Option Int × List Char) :=
  match cs with
  | '+' :: rest => (distance? rest).map fun (minutes, rest) => (some (minutes : Int), rest)
  | '-' :: rest => (distance? rest).map fun (minutes, rest) => (some (-(minutes : Int)), rest)
  | _ =>
    let name := cs.takeWhile isLetter
    let rest := cs.drop name.length
    if universalNames.contains (String.ofList name) then some (some 0, rest)
    else if 3 ≤ name.length && name.length ≤ 5 && name.all Char.isUpper then some (none, rest)
    else none

/-- Whether nothing is left but a name of the zone in parentheses. -/
def isComment (cs : List Char) : Bool :=
  match dropBlanks cs with
  | [] => true
  | '(' :: rest =>
    let name := rest.takeWhile isLetter
    3 ≤ name.length && name.all Char.isUpper &&
      (match rest.drop name.length with
       | ')' :: after => (dropBlanks after).isEmpty
       | _ => false)
  | _ => false

def withZone? (m : Moment) (cs : List Char) : Option Moment :=
  let rest := dropBlanks cs
  if rest.isEmpty then some m
  else
    match zone? rest with
    | some (offset, after) => if isComment after then some { m with offset := offset } else none
    | none => none

/-- A time with a zone, if anything is left. -/
def withClock? (m : Moment) (cs : List Char) : Option Moment :=
  let rest := dropBlanks cs
  if rest.isEmpty then some m
  else
    match (withTime? m rest).orElse fun _ => withShortTime? m rest with
    | some (m, rest) => withZone? m rest
    | none => none

def afterWeekday (cs : List Char) : List Char :=
  let name := cs.takeWhile isLetter
  if weekdayNames.contains (lowered name) then
    match cs.drop name.length with
    | ',' :: rest => dropBlanks rest
    | rest => dropBlanks rest
  else cs

def ofMail? (cs : List Char) : Option Moment := do
  let (day, rest) ← number? 1 2 (afterWeekday cs)
  let rest := dropBlanks rest
  let name := rest.takeWhile isLetter
  let month ← monthOf? name
  let (year, rest) ← number? 4 4 (dropBlanks (rest.drop name.length))
  withClock? { year := year, month := month, day := day } rest

/-- What follows the date in ISO 8601: nothing, or a time after the letter T or a blank. -/
def afterDate? (m : Moment) (cs : List Char) : Option Moment :=
  match cs with
  | [] => some m
  | c :: rest =>
    if c = 'T' || c = 't' then (if rest.isEmpty then none else withClock? m rest)
    else if Text.isBlank c then withClock? m rest
    else none

def ofIso? (cs : List Char) : Option Moment :=
  let run := cs.takeWhile Char.isDigit
  if run.length = 8 then
    afterDate?
      { year := Number.ofDigits (run.take 4), month := Number.ofDigits ((run.drop 4).take 2)
        day := Number.ofDigits (run.drop 6) } (cs.drop 8)
  else do
    let (year, rest) ← number? 4 4 cs
    match rest with
    | '-' :: rest =>
      let (month, rest) ← number? 1 2 rest
      match rest with
      | '-' :: rest =>
        let (day, rest) ← number? 1 2 rest
        afterDate? { year := year, month := month, day := day } rest
      | _ => none
    | _ => none

/-- Reads a date of either kind, if there is such a moment. -/
def ofHeader? (header : String) : Option Moment := do
  let cs := Text.trimWhere Text.isBlank header.toList
  let m ← (ofMail? cs).orElse fun _ => ofIso? cs
  if m.exists? then some m else none

end MailTriage.Moment

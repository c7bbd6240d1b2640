import MailTriage.Number.Binary64

/-!
# Shortest decimal texts

A finite number is written with the fewest decimal digits that read back as the same number; of
several such texts the one nearest to the number is taken, and of two equally near ones the one with
an even last digit. How the digits are laid out (where the exponent takes over, whether a whole
number keeps its point) is a record of its own.
-/

namespace MailTriage

namespace Binary64

/-- The numbers that round to a magnitude lie between these two, in quarters of a unit of the last
place; the ends belong when the significand is even. -/
def quarters (rank : Nat) : Nat × Nat × Nat × Int :=
  let (significand, exponent) := parts rank
  let below := if significand = leadingBit ∧ -1074 < exponent then 1 else 2
  (4 * significand - below, 4 * significand, 4 * significand + 2, exponent - 2)

def digitCount (n : Nat) : Nat :=
  (Nat.toDigits 10 n).length

/-- The best decimal with its last digit at the power `place`, if one reads back as the number. The
number is `middle / scale`, and it is read back from `low / scale` to `high / scale`. -/
def onGrid? (low middle high scale : Nat) (inclusive : Bool) (place : Int) : Option Nat :=
  let up := if place < 0 then Nat.pow 10 place.natAbs else 1
  let unit := if place < 0 then scale else scale * Nat.pow 10 place.natAbs
  let floor := middle * up / unit
  let within (d : Nat) : Bool :=
    if inclusive then decide (low * up ≤ d * unit) && decide (d * unit ≤ high * up)
    else decide (low * up < d * unit) && decide (d * unit < high * up)
  let under := middle * up - floor * unit
  let beyond := (floor + 1) * unit - middle * up
  match within floor, within (floor + 1) with
  | true, true =>
    if under < beyond then some floor
    else if beyond < under then some (floor + 1)
    else some (floor + floor % 2)
  | true, false => some floor
  | false, true => some (floor + 1)
  | false, false => none

def firstGrid (low middle high scale : Nat) (inclusive : Bool) (top : Int) : Nat → Nat → Nat × Int
  | 0, _ => (0, 0)
  | fuel + 1, tried =>
    let place := top - tried
    match onGrid? low middle high scale inclusive place with
    | some digits => (digits, place)
    | none => firstGrid low middle high scale inclusive top fuel (tried + 1)

def dropZeros : (fuel : Nat) → Nat × Int → Nat × Int
  | 0, d => d
  | fuel + 1, (digits, place) =>
    if digits ≠ 0 ∧ digits % 10 = 0 then dropZeros fuel (digits / 10, place + 1)
    else (digits, place)

/-- The shortest decimal of a positive finite magnitude: digits and the power of ten of the last. -/
def shortest (rank : Nat) : Nat × Int :=
  let (low, middle, high, exponent) := quarters rank
  let up := if exponent < 0 then 1 else Nat.pow 2 exponent.natAbs
  let scale := if exponent < 0 then Nat.pow 2 exponent.natAbs else 1
  let whole := middle * up / scale
  let top : Int :=
    if 0 < whole then digitCount whole else 1 - (digitCount (scale / (middle * up)) : Int)
  let inclusive := (parts rank).1 % 2 == 0
  dropZeros 32 (firstGrid (low * up) (middle * up) (high * up) scale inclusive top 40 0)

end Binary64

/-- How decimal digits are laid out. -/
structure DecimalLayout where
  /-- The least power of ten of a leading digit that is written without an exponent. -/
  lowest : Int
  /-- The first power of ten of a leading digit that takes an exponent. -/
  highest : Int
  /-- Whether a whole number without an exponent ends in a point and a zero. -/
  wholePoint : Bool
  /-- The least number of digits of an exponent. -/
  exponentWidth : Nat
  /-- Whether a zero keeps its sign. -/
  signedZero : Bool
  nanText : String
  infinityText : String

namespace DecimalLayout

def report : DecimalLayout :=
  { lowest := -4, highest := 16, wholePoint := true, exponentWidth := 2, signedZero := true
    nanText := "nan", infinityText := "inf" }

/-- The layout of JSON documents, which differs in the names of the non-finite numbers. -/
def document : DecimalLayout :=
  { report with nanText := "NaN", infinityText := "Infinity" }

def script : DecimalLayout :=
  { lowest := -6, highest := 21, wholePoint := false, exponentWidth := 1, signedZero := false
    nanText := "NaN", infinityText := "Infinity" }

/-- Digits with a point after the first, when more follow. -/
def pointed : List Char → List Char
  | [] => []
  | [d] => [d]
  | d :: rest => d :: '.' :: rest

def exponentText (layout : DecimalLayout) (exponent : Int) : List Char :=
  let digits := Nat.toDigits 10 exponent.natAbs
  'e' :: (if exponent < 0 then '-' else '+') ::
    (List.replicate (layout.exponentWidth - digits.length) '0' ++ digits)

/-- Lays out digits whose last stands at the power `place` of ten. -/
def write (layout : DecimalLayout) (digits : Nat) (place : Int) : List Char :=
  let text := Nat.toDigits 10 digits
  let leading : Int := place + text.length - 1
  if layout.lowest ≤ leading ∧ leading < layout.highest then
    if 0 ≤ place then
      text ++ List.replicate place.toNat '0' ++ (if layout.wholePoint then ['.', '0'] else [])
    else if 0 ≤ leading then
      let whole := leading.toNat + 1
      text.take whole ++ '.' :: text.drop whole
    else
      '0' :: '.' :: (List.replicate (-leading - 1).toNat '0' ++ text)
  else
    pointed text ++ layout.exponentText leading

end DecimalLayout

namespace Binary64

def text (layout : DecimalLayout) : Binary64 → String
  | nan => layout.nanText
  | ranked negative rank =>
    if rank.val = 0 then
      let sign := if negative && layout.signedZero then "-" else ""
      sign ++ (if layout.wholePoint then "0.0" else "0")
    else
      let sign := if negative then "-" else ""
      if rank.val = infinityRank then sign ++ layout.infinityText
      else
        let (digits, place) := shortest rank.val
        sign ++ String.ofList (layout.write digits place)

end Binary64

end MailTriage

import MailTriage.Number.Binary64
import MailTriage.Number.Reading

/-!
# Columns of numbers

A column of a database that prefers numbers takes a decimal text for a floating number in a way of
its own, of which no more than fifteen digits are promised. One way is to scale the digits by powers
of ten with significands of 64 bits, and to round what comes of it. It is exact for whole numbers
and misses others now and then by their last bit.
-/

namespace MailTriage

/-- How a column of numbers reads. -/
structure NumberColumn where
  /-- The floating number that a decimal text is taken for. -/
  read : String → Binary64

/-- A magnitude `significand * 2 ^ exponent`, whose significand has 64 bits unless it is zero. -/
structure Extended where
  significand : Nat
  exponent : Int

namespace Extended

open Binary64 (roundHalfEven log2Ratio)

def ofRatio (numerator denominator : Nat) : Extended :=
  if numerator = 0 then ⟨0, 0⟩
  else
    let exponent := log2Ratio numerator denominator - 63
    if exponent < 0 then
      ⟨roundHalfEven (numerator * Nat.pow 2 exponent.natAbs) denominator, exponent⟩
    else ⟨roundHalfEven numerator (denominator * Nat.pow 2 exponent.natAbs), exponent⟩

def mul (x y : Extended) : Extended :=
  let product := ofRatio (x.significand * y.significand) 1
  ⟨product.significand, product.exponent + x.exponent + y.exponent⟩

def powerOfTen (exponent : Int) : Extended :=
  if exponent < 0 then ofRatio 1 (Nat.pow 10 exponent.natAbs)
  else ofRatio (Nat.pow 10 exponent.natAbs) 1

def scale (power : Int) : (times : Nat) → Extended → Extended
  | 0, x => x
  | times + 1, x => scale power times (x.mul (powerOfTen power))

/-- Multiplies by a power of ten, in steps of a hundred, of ten and of one. -/
def scaleBy (exponent : Int) (x : Extended) : Extended :=
  let step (n : Int) : Int := if exponent < 0 then -n else n
  let size := exponent.natAbs
  scale (step 1) (size % 10) (scale (step 10) (size % 100 / 10) (scale (step 100) (size / 100) x))

/-- The nearest number of double precision; what is past the greatest finite one is infinity. -/
def toBinary64 (negative : Bool) (x : Extended) : Binary64 :=
  let up := if x.exponent < 0 then 1 else Nat.pow 2 x.exponent.natAbs
  let down := if x.exponent < 0 then Nat.pow 2 x.exponent.natAbs else 1
  let greatest := (Nat.pow 2 53 - 1) * Nat.pow 2 971
  if greatest * down < x.significand * up then .infinity negative
  else .ofRatio negative (x.significand * up) down

end Extended

namespace NumberColumn

/-- Takes digits up as long as there is room for one more in 64 bits: the number that they stand
for, and how many were left. -/
def takeDigits (room : Nat) : (sofar : Nat) → List Char → Nat × Nat
  | sofar, [] => (sofar, 0)
  | sofar, c :: rest =>
    if sofar < room then takeDigits room (10 * sofar + (c.toNat - 48)) rest
    else (sofar, rest.length + 1)

/-- Moves powers of ten from the exponent into the digits while there is room. -/
def moveDown (room : Nat) : (fuel : Nat) → Nat × Int → Nat × Int
  | 0, d => d
  | fuel + 1, (digits, exponent) =>
    if 0 < exponent ∧ digits < room then moveDown room fuel (10 * digits, exponent - 1)
    else (digits, exponent)

/-- Moves zeros at the end of the digits into a negative exponent. -/
def moveUp : (fuel : Nat) → Nat × Int → Nat × Int
  | 0, d => d
  | fuel + 1, (digits, exponent) =>
    if exponent < 0 ∧ digits % 10 = 0 then moveUp fuel (digits / 10, exponent + 1)
    else (digits, exponent)

def scaled (negative : Bool) (digits : Nat) (exponent : Int) : Binary64 :=
  if digits = 0 then .ofRank negative 0
  else
    let (digits, exponent) :=
      moveUp 20 (moveDown ((Nat.pow 2 64 - 0x800) / 10) 20 (digits, exponent))
    if exponent = 0 then .ofRatio negative digits 1
    else ((Extended.ofRatio digits 1).scaleBy exponent).toBinary64 negative

def scaling : NumberColumn where
  read s :=
    let room := (Nat.pow 2 64 - 10) / 10
    let (negative, cs) := Number.signed s.toList
    let whole := cs.takeWhile Char.isDigit
    let rest := cs.dropWhile Char.isDigit
    let fraction := match rest with
      | '.' :: more => more.takeWhile Char.isDigit
      | _ => []
    let power : Int := match (match rest with
        | '.' :: more => more.dropWhile Char.isDigit
        | other => other) with
      | 'e' :: more =>
        let (down, exponent) := Number.signed more
        Number.withSign down (Number.ofDigits exponent)
      | _ => 0
    let (front, dropped) := takeDigits room 0 whole
    let (digits, left) := takeDigits room front fraction
    scaled negative digits (power + dropped - (fraction.length - left : Nat))

end NumberColumn

end MailTriage

/-!
# Double-precision numbers

A number of the IEEE 754 format binary64 is a sign and the rank of its magnitude among all
magnitudes, zero having rank 0 and infinity the last one. Order and equality are those of signed
ranks, so they are decidable facts about integers; arithmetic computes the exact ratio and rounds it
to the nearest rank, a tie going to the even one.
-/

namespace MailTriage

def Binary64.infinityRank : Nat := 0x7ff0000000000000

/-- A double-precision number. -/
inductive Binary64
  | nan
  | ranked (negative : Bool) (rank : Fin (Binary64.infinityRank + 1))
  deriving DecidableEq

namespace Binary64

instance : Inhabited Binary64 := ⟨nan⟩

/-- The magnitude of a given rank; ranks past infinity are infinity. -/
def ofRank (negative : Bool) (rank : Nat) : Binary64 :=
  ranked negative ⟨min rank infinityRank, Nat.lt_succ_of_le (Nat.min_le_right ..)⟩

def zero : Binary64 := ofRank false 0

def infinity (negative : Bool) : Binary64 := ofRank negative infinityRank

/-- The place of a number in the order of all numbers; both zeros share one. -/
def key? : Binary64 → Option Int
  | nan => none
  | ranked negative rank => some (if negative then -(rank.val : Int) else rank.val)

/-- Numerical equality: the zeros are equal, and nothing equals a NaN. -/
def eq (x y : Binary64) : Bool :=
  match x.key?, y.key? with
  | some a, some b => a = b
  | _, _ => false

/-- Numerical order; a NaN is neither below nor above anything. -/
def lt (x y : Binary64) : Bool :=
  match x.key?, y.key? with
  | some a, some b => a < b
  | _, _ => false

def isNaN (x : Binary64) : Bool := x.key?.isNone

def isFinite : Binary64 → Bool
  | nan => false
  | ranked _ rank => rank.val < infinityRank

def isNegative : Binary64 → Bool
  | nan => false
  | ranked negative _ => negative

def neg : Binary64 → Binary64
  | nan => nan
  | ranked negative rank => ranked (!negative) rank

def leadingBit : Nat := 4503599627370496

/-- The significand and the power of two of a finite magnitude. -/
def parts (rank : Nat) : Nat × Int :=
  let exponent : Nat := rank / leadingBit
  let fraction : Nat := rank % leadingBit
  if exponent = 0 then (fraction, -1074) else (fraction + leadingBit, Int.ofNat exponent - 1075)

/-- `numerator / denominator` to the nearest natural number, a tie to the even one. -/
def roundHalfEven (numerator denominator : Nat) : Nat :=
  let quotient := numerator / denominator
  let twice := 2 * (numerator % denominator)
  if twice < denominator then quotient
  else if denominator < twice then quotient + 1
  else quotient + quotient % 2

/-- The greatest power of two, as an exponent, that is at most `numerator / denominator`. -/
def log2Ratio (numerator denominator : Nat) : Int :=
  let guess : Int := (Nat.log2 numerator : Int) - Nat.log2 denominator
  let holds : Bool :=
    if guess < 0 then decide (denominator ≤ numerator * Nat.pow 2 guess.natAbs)
    else decide (denominator * Nat.pow 2 guess.natAbs ≤ numerator)
  if holds then guess else guess - 1

def rankOfRatio (numerator denominator : Nat) : Nat :=
  if numerator = 0 then 0
  else
    let exponent := max (-1074) (log2Ratio numerator denominator - 52)
    let significand :=
      if exponent < 0 then roundHalfEven (numerator * Nat.pow 2 exponent.natAbs) denominator
      else roundHalfEven numerator (denominator * Nat.pow 2 exponent.natAbs)
    (exponent + 1074).toNat * leadingBit + significand

def ofRatio (negative : Bool) (numerator denominator : Nat) : Binary64 :=
  ofRank negative (rankOfRatio numerator denominator)

/-- The number nearest to an integer; `none` past the finite range. -/
def ofInt? (n : Int) : Option Binary64 :=
  let rank := rankOfRatio n.natAbs 1
  if rank < infinityRank then some (ofRank (n < 0) rank) else none

/-- The number nearest to an integer, infinity past the finite range. -/
def ofInt (n : Int) : Binary64 := ofRatio (n < 0) n.natAbs 1

def ofDecimal (negative : Bool) (digits : Nat) (exponent : Int) : Binary64 :=
  if digits = 0 then ofRank negative 0
  else
    let size : Int := (Nat.log2 digits : Int) / 4 + exponent
    if 400 < size then infinity negative
    else if (Nat.log2 digits : Int) / 3 + exponent < -400 then ofRank negative 0
    else if exponent < 0 then ofRatio negative digits (Nat.pow 10 exponent.natAbs)
    else ofRatio negative (digits * Nat.pow 10 exponent.natAbs) 1

def ratio (rank : Nat) : Nat × Nat :=
  let (significand, exponent) := parts rank
  if exponent < 0 then (significand, Nat.pow 2 exponent.natAbs)
  else (significand * Nat.pow 2 exponent.natAbs, 1)

/-- The integer a finite number lies on or next to, toward zero. -/
def truncate? : Binary64 → Option Int
  | nan => none
  | ranked negative rank =>
    if rank.val < infinityRank then
      let (numerator, denominator) := ratio rank.val
      let whole : Int := (numerator / denominator : Nat)
      some (if negative then -whole else whole)
    else none

def isInteger : Binary64 → Bool
  | nan => false
  | ranked _ rank =>
    rank.val < infinityRank &&
      (let (numerator, denominator) := ratio rank.val
       numerator % denominator == 0)

/-- The exact sum of two finite numbers, rounded; a sum of zero is negative only for two
negatives. -/
def addFinite (x y : Bool × Nat) : Binary64 :=
  let (a, b) := ratio x.2
  let (c, d) := ratio y.2
  let signed (negative : Bool) (n : Nat) : Int := if negative then -(n : Int) else n
  let total := signed x.1 (a * d) + signed y.1 (c * b)
  if total = 0 then ofRank (x.1 && y.1) 0 else ofRatio (total < 0) total.natAbs (b * d)

def add : Binary64 → Binary64 → Binary64
  | nan, _ => nan
  | _, nan => nan
  | ranked n₁ r₁, ranked n₂ r₂ =>
    if r₁.val = infinityRank then
      if r₂.val = infinityRank && n₁ != n₂ then nan else ranked n₁ r₁
    else if r₂.val = infinityRank then ranked n₂ r₂
    else addFinite (n₁, r₁.val) (n₂, r₂.val)

def sub (x y : Binary64) : Binary64 := add x y.neg

def mul : Binary64 → Binary64 → Binary64
  | nan, _ => nan
  | _, nan => nan
  | ranked n₁ r₁, ranked n₂ r₂ =>
    let negative := n₁ != n₂
    if r₁.val = infinityRank || r₂.val = infinityRank then
      if r₁.val = 0 || r₂.val = 0 then nan else infinity negative
    else
      let (a, b) := ratio r₁.val
      let (c, d) := ratio r₂.val
      ofRatio negative (a * c) (b * d)

def div : Binary64 → Binary64 → Binary64
  | nan, _ => nan
  | _, nan => nan
  | ranked n₁ r₁, ranked n₂ r₂ =>
    let negative := n₁ != n₂
    if r₁.val = infinityRank then
      if r₂.val = infinityRank then nan else infinity negative
    else if r₂.val = infinityRank then ofRank negative 0
    else if r₂.val = 0 then
      if r₁.val = 0 then nan else infinity negative
    else
      let (a, b) := ratio r₁.val
      let (c, d) := ratio r₂.val
      ofRatio negative (a * d) (b * c)

/-- The remainder with the sign of the dividend, after a quotient cut toward zero. -/
def rem : Binary64 → Binary64 → Binary64
  | nan, _ => nan
  | _, nan => nan
  | ranked n₁ r₁, ranked n₂ r₂ =>
    if r₁.val = infinityRank || r₂.val = 0 then nan
    else if r₂.val = infinityRank then ranked n₁ r₁
    else
      let _ := n₂
      let (a, b) := ratio r₁.val
      let (c, d) := ratio r₂.val
      ofRatio n₁ (a * d % (c * b)) (b * d)

end Binary64

end MailTriage

import MailTriage.Number.Shortest
import MailTriage.Proofs.Number.Rounding
import Mathlib.Data.Nat.Cast.Order.Field

/-!
# Shortest decimals read back

The shortest decimal of a magnitude is found on one of the grids that are tried, since a grid with a
spacing of at most half a unit of the last place has a point near the magnitude; every point that is
taken lies between the halfway points to the neighbours. So the decimal rounds to the magnitude.
-/

namespace MailTriage

namespace Binary64

/-- The number of a decimal: digits and the power of ten of the last. -/
def decimal (d : Nat × Int) : ℚ := d.1 * 10 ^ d.2

theorem decimal_pos {d : Nat × Int} : 0 < decimal d ↔ 0 < d.1 := by
  unfold decimal
  rw [mul_pos_iff_of_pos_right (by positivity)]
  exact Nat.cast_pos

/-- Between two ends, which belong or do not. -/
def Between (inclusive : Bool) (low high v : ℚ) : Prop :=
  if inclusive then low ≤ v ∧ v ≤ high else low < v ∧ v < high

theorem near_of_between {rank : Nat} {v : ℚ}
    (h : Between ((parts rank).1 % 2 == 0) (halfBelow rank) (halfAbove rank) v) : Near rank v := by
  unfold Between at h
  split at h
  · next heven =>
    rw [beq_iff_eq] at heven
    exact ⟨h.1, h.2, fun hodd => absurd (heven.symm.trans hodd) (by decide)⟩
  · exact ⟨h.1.le, h.2.le, fun _ => h⟩

/-! ## Grids -/

/-- The factor that makes the points of a grid whole. -/
def gridUp (place : Int) : Nat := if place < 0 then Nat.pow 10 place.natAbs else 1

/-- The spacing of a grid after that, with a denominator of the number. -/
def gridUnit (scale : Nat) (place : Int) : Nat :=
  if place < 0 then scale else scale * Nat.pow 10 place.natAbs

theorem gridUp_pos (place : Int) : 0 < gridUp place := by
  unfold gridUp
  split
  · exact Nat.pow_pos (by decide)
  · exact Nat.one_pos

theorem gridUnit_eq (scale : Nat) (place : Int) :
    (gridUnit scale place : ℚ) = 10 ^ place * (gridUp place * scale) := by
  unfold gridUnit gridUp
  split
  · next hneg =>
    obtain ⟨k, rfl⟩ : ∃ k : Nat, place = -(k : Int) := ⟨place.natAbs, by omega⟩
    have hpower : (10 : ℚ) ^ k ≠ 0 := by positivity
    simp [hpower]
  · next hpos =>
    obtain ⟨k, rfl⟩ := Int.eq_ofNat_of_zero_le (not_lt.mp hpos)
    simp [mul_comm]

theorem gridUnit_pos {scale : Nat} (hscale : 0 < scale) (place : Int) :
    0 < gridUnit scale place := by
  unfold gridUnit
  split
  · exact hscale
  · exact Nat.mul_pos hscale (Nat.pow_pos (by decide))

/-- Whether a point of a grid lies between two numbers. -/
def onGrid (low high scale : Nat) (inclusive : Bool) (place : Int) (d : Nat) : Bool :=
  if inclusive then
    decide (low * gridUp place ≤ d * gridUnit scale place) &&
      decide (d * gridUnit scale place ≤ high * gridUp place)
  else
    decide (low * gridUp place < d * gridUnit scale place) &&
      decide (d * gridUnit scale place < high * gridUp place)

section Grid

variable {low middle high scale d : Nat} {inclusive : Bool} {place : Int}

theorem onGrid_iff (hscale : 0 < scale) :
    onGrid low high scale inclusive place d = true ↔
      Between inclusive ((low : ℚ) / scale) (high / scale) (decimal (d, place)) := by
  have hscaleq : (scale : ℚ) ≠ 0 := by exact_mod_cast hscale.ne'
  have hpos : (0 : ℚ) < gridUp place * scale := by
    exact_mod_cast Nat.mul_pos (gridUp_pos place) hscale
  have hpoint :
      ((d * gridUnit scale place : Nat) : ℚ) = decimal (d, place) * (gridUp place * scale) := by
    rw [Nat.cast_mul, gridUnit_eq, decimal, mul_assoc]
  have hnumber (a : Nat) : ((a * gridUp place : Nat) : ℚ) = a / scale * (gridUp place * scale) := by
    rw [Nat.cast_mul]
    field_simp
  unfold onGrid Between
  split <;> rw [Bool.and_eq_true, decide_eq_true_eq, decide_eq_true_eq]
  · rw [← Nat.cast_le (α := ℚ), ← Nat.cast_le (α := ℚ), hpoint, hnumber, hnumber,
      mul_le_mul_iff_of_pos_right hpos, mul_le_mul_iff_of_pos_right hpos]
  · rw [← Nat.cast_lt (α := ℚ), ← Nat.cast_lt (α := ℚ), hpoint, hnumber, hnumber,
      mul_lt_mul_iff_of_pos_right hpos, mul_lt_mul_iff_of_pos_right hpos]

/-- The point below or the point above is taken, when one of them lies between the ends. -/
theorem onGrid?_cases (low middle high scale : Nat) (inclusive : Bool) (place : Int) :
    (∃ d, onGrid? low middle high scale inclusive place = some d ∧
      onGrid low high scale inclusive place d = true) ∨
    (onGrid? low middle high scale inclusive place = none ∧
      onGrid low high scale inclusive place (middle * gridUp place / gridUnit scale place) = false ∧
      onGrid low high scale inclusive place (middle * gridUp place / gridUnit scale place + 1) =
        false) := by
  have hup : (if place < 0 then Nat.pow 10 place.natAbs else 1) = gridUp place := rfl
  have hunit :
      (if place < 0 then scale else scale * Nat.pow 10 place.natAbs) = gridUnit scale place := rfl
  unfold onGrid?
  dsimp only
  simp only [hup, hunit]
  have hpoint (d : Nat) : (if inclusive then
      decide (low * gridUp place ≤ d * gridUnit scale place) &&
        decide (d * gridUnit scale place ≤ high * gridUp place)
    else
      decide (low * gridUp place < d * gridUnit scale place) &&
        decide (d * gridUnit scale place < high * gridUp place)) = onGrid low high scale inclusive
          place d := rfl
  simp only [hpoint]
  generalize middle * gridUp place / gridUnit scale place = floor
  cases hfloor : onGrid low high scale inclusive place floor <;>
    cases hceil : onGrid low high scale inclusive place (floor + 1) <;> dsimp only
  · exact .inr ⟨rfl, rfl, rfl⟩
  · exact .inl ⟨_, rfl, hceil⟩
  · exact .inl ⟨_, rfl, hfloor⟩
  · refine .inl ?_
    split
    · exact ⟨_, rfl, hfloor⟩
    · split
      · exact ⟨_, rfl, hceil⟩
      · rcases Nat.mod_two_eq_zero_or_one floor with heven | hodd
        · exact ⟨_, rfl, by rw [heven, Nat.add_zero, hfloor]⟩
        · exact ⟨_, rfl, by rw [hodd, hceil]⟩

theorem between_of_onGrid? (hscale : 0 < scale)
    (h : onGrid? low middle high scale inclusive place = some d) :
    Between inclusive ((low : ℚ) / scale) (high / scale) (decimal (d, place)) := by
  rw [← onGrid_iff hscale]
  rcases onGrid?_cases low middle high scale inclusive place with ⟨d', hd, hpoint⟩ | ⟨hnone, -⟩
  · exact Option.some.inj (hd.symm.trans h) ▸ hpoint
  · exact absurd (hnone.symm.trans h) (by simp)

/-- A grid with a spacing no wider than what lies above a number up to the end has a point beside
it. -/
theorem onGrid?_isSome (hscale : 0 < scale) (hlow : low < middle) (hhigh : middle < high)
    (hspacing : (10 : ℚ) ^ place ≤ (high - middle) / scale) :
    (onGrid? low middle high scale inclusive place).isSome := by
  rcases onGrid?_cases low middle high scale inclusive place with ⟨d, hd, -⟩ | ⟨-, hfloor, hceil⟩
  · rw [hd, Option.isSome_some]
  exfalso
  have hunit := gridUnit_pos hscale place
  have hup := gridUp_pos place
  have hbelow :
      middle * gridUp place / gridUnit scale place * gridUnit scale place ≤ middle * gridUp place :=
    Nat.div_mul_le_self ..
  have habove : middle * gridUp place <
      (middle * gridUp place / gridUnit scale place + 1) * gridUnit scale place :=
    Nat.lt_mul_of_div_lt (Nat.lt_succ_self _) hunit
  have hnarrow : gridUnit scale place + middle * gridUp place ≤ high * gridUp place := by
    have hscaleq : (scale : ℚ) ≠ 0 := by exact_mod_cast hscale.ne'
    have hpos : (0 : ℚ) ≤ gridUp place * scale := by positivity
    have hunitq : (gridUnit scale place : ℚ) ≤ (high - middle) * gridUp place := by
      calc (gridUnit scale place : ℚ) = 10 ^ place *
        (gridUp place * scale) := gridUnit_eq scale place
        _ ≤ (high - middle) / scale * (gridUp place * scale) :=
          mul_le_mul_of_nonneg_right hspacing hpos
        _ = (high - middle) * gridUp place := by field_simp
    rw [sub_mul, le_sub_iff_add_le] at hunitq
    exact_mod_cast hunitq
  generalize middle * gridUp place / gridUnit scale place = floor at *
  have hlow' : low * gridUp place < middle * gridUp place := Nat.mul_lt_mul_of_pos_right hlow hup
  have hhigh' : middle * gridUp place < high * gridUp place := Nat.mul_lt_mul_of_pos_right hhigh hup
  rw [Nat.succ_mul] at habove
  rcases hbelow.eq_or_lt with heq | hlt
  · -- the number is a point of the grid itself
    have hin : onGrid low high scale inclusive place floor = true := by
      unfold onGrid
      split <;> simp only [Bool.and_eq_true, decide_eq_true_eq] <;> omega
    exact Bool.false_ne_true (hfloor.symm.trans hin)
  · have hin : onGrid low high scale inclusive place (floor + 1) = true := by
      unfold onGrid
      rw [Nat.succ_mul]
      split <;> simp only [Bool.and_eq_true, decide_eq_true_eq] <;> omega
    exact Bool.false_ne_true (hceil.symm.trans hin)

/-- When one of the grids that are tried has a point between the ends, the first point found is
one. -/
theorem between_firstGrid (hscale : 0 < scale) {top : Int} {fuel tried k : Nat} (hk : k < fuel)
    (hsome : (onGrid? low middle high scale inclusive (top - (tried + k : Nat))).isSome) :
    Between inclusive ((low : ℚ) / scale) (high / scale)
      (decimal (firstGrid low middle high scale inclusive top fuel tried)) := by
  induction fuel generalizing tried k with
  | zero => exact absurd hk (Nat.not_lt_zero k)
  | succ fuel ih =>
    unfold firstGrid
    dsimp only
    split
    · next d hd => exact between_of_onGrid? hscale hd
    · next hnone =>
      cases k with
      | zero =>
        rw [Nat.add_zero, hnone] at hsome
        exact absurd hsome (by simp)
      | succ k =>
        refine ih (k := k) (Nat.lt_of_succ_lt_succ hk) ?_
        rwa [Nat.add_assoc, Nat.add_comm 1 k]

end Grid

theorem decimal_dropZeros (fuel : Nat) (d : Nat × Int) :
    decimal (dropZeros fuel d) = decimal d := by
  induction fuel generalizing d with
  | zero => rfl
  | succ fuel ih =>
    obtain ⟨digits, place⟩ := d
    unfold dropZeros
    split
    · next hzero =>
      have hdigits : digits = digits / 10 * 10 :=
        (Nat.div_mul_cancel (Nat.dvd_of_mod_eq_zero hzero.2)).symm
      rw [ih, decimal, decimal]
      dsimp only
      conv_rhs => rw [hdigits]
      rw [zpow_add_one₀ (by norm_num), Nat.cast_mul]
      ring
    · rfl

/-! ## The decimal of a magnitude -/

theorem lt_pow_digitCount (n : Nat) : n < 10 ^ digitCount n :=
  (Nat.length_toDigits_le_iff (by decide) Nat.length_toDigits_pos).mp le_rfl

theorem pow_digitCount_le {n : Nat} (h : 0 < n) : 10 ^ (digitCount n - 1) ≤ n := by
  rcases Nat.eq_zero_or_pos (digitCount n - 1) with hone | hmore
  · rwa [hone, Nat.pow_zero]
  · have hlength := (@Nat.length_toDigits_le_iff 10 n _ (by decide) hmore).not
    rw [not_le, not_lt] at hlength
    exact hlength.mp (by unfold digitCount at *; omega)

def searchTop (a scale : Nat) : Int :=
  if 0 < a / scale then digitCount (a / scale) else 1 - (digitCount (scale / a) : Int)

/-- The search starts from at most ten times the number. -/
theorem zpow_searchTop_le {a scale : Nat} (ha : 0 < a) (hscale : 0 < scale) :
    (10 : ℚ) ^ (searchTop a scale - 1) ≤ a / scale := by
  have haq : (0 : ℚ) < a := by exact_mod_cast ha
  have hscaleq : (0 : ℚ) < scale := by exact_mod_cast hscale
  unfold searchTop
  split
  · next hwhole =>
    have hcount : 1 ≤ digitCount (a / scale) := Nat.length_toDigits_pos
    have hexponent : (digitCount (a / scale) : Int) - 1 = (digitCount (a / scale) - 1 : Nat) := by
      omega
    rw [hexponent, zpow_natCast]
    have hpow : ((10 ^ (digitCount (a / scale) - 1) : Nat) : ℚ) ≤ (a / scale : Nat) := by
      exact_mod_cast pow_digitCount_le hwhole
    push_cast at hpow
    exact hpow.trans Nat.cast_div_le
  · have hexponent : 1 - (digitCount (scale / a) : Int) - 1 = -(digitCount (scale / a) : Int) := by
      ring
    have hlt : scale < 10 ^ digitCount (scale / a) * a :=
      (Nat.div_lt_iff_lt_mul ha).mp (lt_pow_digitCount (scale / a))
    rw [hexponent, zpow_neg, zpow_natCast, inv_le_iff_one_le_mul₀' (by positivity), ← mul_div_assoc,
      one_le_div hscaleq]
    exact_mod_cast hlt.le

def powerUp (e : Int) : Nat := if e < 0 then 1 else Nat.pow 2 e.natAbs

def powerDown (e : Int) : Nat := if e < 0 then Nat.pow 2 e.natAbs else 1

theorem powerDown_pos (e : Int) : 0 < powerDown e := by
  unfold powerDown
  split
  · exact Nat.pow_pos (by decide)
  · exact Nat.one_pos

theorem powerUp_pos (e : Int) : 0 < powerUp e := by
  unfold powerUp
  split
  · exact Nat.one_pos
  · exact Nat.pow_pos (by decide)

theorem mul_powerUp_div (a : Nat) (e : Int) :
    ((a * powerUp e : Nat) : ℚ) / powerDown e = a * 2 ^ e := by
  rw [zpow_two_eq_pow_natAbs]
  unfold powerUp powerDown
  split <;> simp [div_eq_mul_inv]

/-- The lower end of what rounds to a magnitude, in quarters of a unit of the last place. -/
def lowQuarters (rank : Nat) : Nat :=
  4 * (parts rank).1 - if (parts rank).1 = leadingBit ∧ -1074 < (parts rank).2 then 1 else 2

theorem four_mul_zpow (e : Int) : (4 : ℚ) * 2 ^ (e - 2) = 2 ^ e := by
  rw [zpow_sub₀ two_ne_zero]
  norm_num
  ring

theorem halfAbove_eq (rank : Nat) :
    halfAbove rank = (4 * (parts rank).1 + 2 : Nat) * 2 ^ ((parts rank).2 - 2) := by
  rw [halfAbove, ← four_mul_zpow (parts rank).2]
  push_cast
  ring

theorem lowQuarters_lt {rank : Nat} (hrank : 0 < rank) : lowQuarters rank < 4 * (parts rank).1 := by
  have hs := significand_pos hrank
  unfold lowQuarters
  split <;> omega

theorem halfBelow_eq {rank : Nat} (hrank : 0 < rank) :
    halfBelow rank = lowQuarters rank * 2 ^ ((parts rank).2 - 2) := by
  have hs := significand_pos hrank
  have hcast : (lowQuarters rank : ℚ) = 4 * (parts rank).1 -
      if (parts rank).1 = leadingBit ∧ -1074 < (parts rank).2 then 1 else 2 := by
    unfold lowQuarters
    split
    · rw [Nat.cast_sub (by omega)]
      push_cast
      ring
    · rw [Nat.cast_sub (by omega)]
      push_cast
      ring
  rw [halfBelow, hcast, ← four_mul_zpow (parts rank).2]
  split <;> ring

/-- A grid eighteen places below the first one is fine enough for every magnitude. -/
theorem zpow_sub_le_of_zpow_le {rank : Nat} {top : Int}
    (htop : (10 : ℚ) ^ (top - 1) ≤ magnitude rank) :
    (10 : ℚ) ^ (top - 18) ≤ 2 * 2 ^ ((parts rank).2 - 2) := by
  have hs : ((parts rank).1 : ℚ) ≤ 2 * leadingBit := by exact_mod_cast (significand_lt rank).le
  have hpower : (0 : ℚ) < 2 ^ ((parts rank).2 - 2) := by positivity
  have hbit : (leadingBit : ℚ) = 2 ^ 52 := by norm_num [leadingBit]
  have hstep : (10 : ℚ) ^ (top - 1) = 10 ^ (top - 18) * 10 ^ 17 := by
    rw [← zpow_natCast, ← zpow_add₀ (by norm_num)]
    congr 1
    omega
  rw [hstep, magnitude, ← four_mul_zpow] at htop
  rw [hbit] at hs
  have hbound : (10 : ℚ) ^ (top - 18) * 10 ^ 17 ≤ 2 * 2 ^ 52 * (4 * 2 ^ ((parts rank).2 - 2)) :=
    htop.trans (mul_le_mul_of_nonneg_right hs (by positivity))
  linarith

/-- The search for the decimal of a magnitude, with the powers of two of its exponent. -/
theorem decimal_shortest (rank : Nat) :
    decimal (shortest rank) = decimal (firstGrid (lowQuarters rank * powerUp ((parts rank).2 - 2))
      (4 * (parts rank).1 * powerUp ((parts rank).2 - 2))
      ((4 * (parts rank).1 + 2) * powerUp ((parts rank).2 - 2)) (powerDown ((parts rank).2 - 2))
      ((parts rank).1 % 2 == 0)
      (searchTop (4 * (parts rank).1 *
        powerUp ((parts rank).2 - 2)) (powerDown ((parts rank).2 - 2)))
      40 0) :=
  decimal_dropZeros ..

theorem near_decimal_shortest {rank : Nat} (hrank : 0 < rank) :
    Near rank (decimal (shortest rank)) := by
  refine near_of_between ?_
  have hmiddle : (4 * (parts rank).1 : Nat) * (2 : ℚ) ^ ((parts rank).2 - 2) = magnitude rank := by
    rw [magnitude, ← four_mul_zpow (parts rank).2]
    push_cast
    ring
  have hdown := powerDown_pos ((parts rank).2 - 2)
  have hup := powerUp_pos ((parts rank).2 - 2)
  have hdiv := fun a => mul_powerUp_div a ((parts rank).2 - 2)
  rw [decimal_shortest, halfBelow_eq hrank, halfAbove_eq, ← hdiv, ← hdiv]
  rw [← hdiv] at hmiddle
  have hstep := fun top => @zpow_sub_le_of_zpow_le rank top
  generalize powerUp ((parts rank).2 - 2) = up at *
  generalize powerDown ((parts rank).2 - 2) = scale at *
  refine between_firstGrid (k := 18) hdown (by decide) (onGrid?_isSome hdown ?_ ?_ ?_)
  · exact Nat.mul_lt_mul_of_pos_right (lowQuarters_lt hrank) hup
  · exact Nat.mul_lt_mul_of_pos_right (Nat.lt_add_of_pos_right (by decide)) hup
  · have hpos : 0 < 4 * (parts rank).1 * up :=
      Nat.mul_pos (Nat.mul_pos (by decide) (significand_pos hrank)) hup
    refine (hstep _ ((zpow_searchTop_le hpos hdown).trans_eq hmiddle)).trans_eq ?_
    rw [sub_div, hdiv, hdiv]
    push_cast
    ring

/-! ## Reading a decimal -/

theorem halfAbove_lt_of_finite {rank : Nat} (h : rank < infinityRank) :
    halfAbove rank < 10 ^ (400 : Int) := by
  have hexponent : (parts rank).2 ≤ 971 := by
    have hrank := rank_eq rank
    by_contra hlarge
    have hplace : 2046 ≤ ((parts rank).2 + 1074).toNat := by omega
    have hbit := leadingBit_le_significand (show (parts rank).2 ≠ -1074 by omega)
    have hmul := Nat.mul_le_mul_right leadingBit hplace
    have hinfinity : infinityRank = 2046 * leadingBit + leadingBit := by decide
    omega
  calc halfAbove rank < 2 * leadingBit * 2 ^ (parts rank).2 := halfAbove_lt rank
    _ ≤ 2 * leadingBit * 2 ^ (971 : Int) := by
      refine mul_le_mul_of_nonneg_left ?_ (by positivity)
      exact zpow_le_zpow_right₀ (by norm_num) hexponent
    _ ≤ 10 ^ (400 : Int) := by
      have hpow : 2 * leadingBit * 2 ^ 971 ≤ 10 ^ 400 := by decide +kernel
      exact_mod_cast hpow

theorem lt_halfBelow {rank : Nat} (h : 0 < rank) : 10 ^ (-400 : Int) < halfBelow rank := by
  have hs : (1 : ℚ) ≤ (parts rank).1 := by exact_mod_cast significand_pos h
  have hpow : (2 : ℚ) * 2 ^ 1074 < 10 ^ 400 := by
    exact_mod_cast (by decide +kernel : 2 * 2 ^ 1074 < 10 ^ 400)
  calc (10 : ℚ) ^ (-400 : Int) < 1 / 2 * 2 ^ (-1074 : Int) := by
        rw [zpow_neg, zpow_neg, one_div, ← mul_inv]
        exact inv_strictAnti₀ (by positivity) hpow
    _ ≤ ((parts rank).1 - 1 / 2 : ℚ) * 2 ^ (parts rank).2 := by
      refine mul_le_mul (by linarith) ?_ (by positivity) (by linarith)
      exact zpow_le_zpow_right₀ (by norm_num) (exponent_ge rank)
    _ ≤ halfBelow rank := le_halfBelow rank

theorem zpow_log2_div_le {digits : Nat} (h : 0 < digits) (place : Int) :
    (10 : ℚ) ^ ((Nat.log2 digits : Int) / 4 + place) ≤ decimal (digits, place) := by
  have hpow : 10 ^ (digits.log2 / 4) ≤ digits := by
    calc 10 ^ (digits.log2 / 4) ≤ 16 ^ (digits.log2 / 4) := Nat.pow_le_pow_left (by decide) _
      _ = 2 ^ (4 * (digits.log2 / 4)) := by rw [Nat.pow_mul]
      _ ≤ 2 ^ digits.log2 := Nat.pow_le_pow_right (by decide) (Nat.mul_div_le ..)
      _ ≤ digits := Nat.log2_self_le h.ne'
  have hexponent : (Nat.log2 digits : Int) / 4 = (digits.log2 / 4 : Nat) := by omega
  rw [decimal, zpow_add₀ (by norm_num), hexponent, zpow_natCast]
  exact mul_le_mul_of_nonneg_right (by exact_mod_cast hpow) (by positivity)

theorem decimal_lt_zpow_log2_div (digits : Nat) (place : Int) :
    decimal (digits, place) < 10 ^ ((Nat.log2 digits : Int) / 3 + 1 + place) := by
  have hpow : digits < 10 ^ (digits.log2 / 3 + 1) := by
    calc digits < 2 ^ (digits.log2 + 1) := Nat.lt_log2_self
      _ ≤ 2 ^ (3 * (digits.log2 / 3 + 1)) := Nat.pow_le_pow_right (by decide) (by omega)
      _ = 8 ^ (digits.log2 / 3 + 1) := by rw [Nat.pow_mul]
      _ ≤ 10 ^ (digits.log2 / 3 + 1) := Nat.pow_le_pow_left (by decide) _
  have hexponent : (Nat.log2 digits : Int) / 3 + 1 = (digits.log2 / 3 + 1 : Nat) := by omega
  rw [decimal, zpow_add₀ (by norm_num), hexponent, zpow_natCast]
  exact mul_lt_mul_of_pos_right (by exact_mod_cast hpow) (by positivity)

theorem ofDecimal_of_near {rank digits : Nat} {place : Int} (hrank : 0 < rank)
    (hfinite : rank < infinityRank) (h : Near rank (decimal (digits, place))) (negative : Bool) :
    ofDecimal negative digits place = ofRank negative rank := by
  have hdigits : 0 < digits := decimal_pos.mp ((halfBelow_pos hrank).trans_le h.above)
  have hsmall : ¬400 < (Nat.log2 digits : Int) / 4 + place := fun hlarge => by
    have hle :=
      (zpow_log2_div_le hdigits place).trans (h.below.trans (halfAbove_lt_of_finite hfinite).le)
    exact absurd ((zpow_le_zpow_iff_right₀ (by norm_num)).mp hle) (by omega)
  have hlarge : ¬(Nat.log2 digits : Int) / 3 + place < -400 := fun hsmall => by
    have hlt :=
      (lt_halfBelow hrank).trans_le (h.above.trans (decimal_lt_zpow_log2_div digits place).le)
    exact absurd ((zpow_lt_zpow_iff_right₀ (by norm_num)).mp hlt) (by omega)
  unfold ofDecimal
  rw [if_neg hdigits.ne', if_neg hsmall, if_neg hlarge]
  have hpower : 0 < Nat.pow 10 place.natAbs := Nat.pow_pos (by decide)
  split
  · next hneg =>
    rw [ofRatio, rankOfRatio_of_near hrank hpower]
    obtain ⟨k, rfl⟩ : ∃ k : Nat, place = -(k : Int) := ⟨place.natAbs, by omega⟩
    simpa [decimal, div_eq_mul_inv] using h
  · next hpos =>
    rw [ofRatio, rankOfRatio_of_near hrank Nat.one_pos]
    obtain ⟨k, rfl⟩ := Int.eq_ofNat_of_zero_le (not_lt.mp hpos)
    simpa [decimal] using h

end Binary64

end MailTriage

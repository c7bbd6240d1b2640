import MailTriage.Number.Reading
import MailTriage.Proofs.Number.Rounding

/-!
# The range of the whole numbers

A whole number has a nearest floating number unless it lies at the point halfway between the
greatest finite number and the power of two after it, or past that point: the tie there goes to the
power of two, whose significand is even. Such a number is short: far longer ones are still written.
-/

namespace MailTriage

namespace Binary64

/-- Rounding reaches an even whole number from half a unit below it. -/
theorem le_roundHalfEven_iff {n d k : Nat} (hd : 0 < d) (heven : k % 2 = 0) :
    k ≤ roundHalfEven n d ↔ (k : ℚ) - 1 / 2 ≤ n / d := by
  have hwhole : (k : ℚ) - 1 / 2 ≤ n / d ↔ 2 * (k * d) ≤ 2 * n + d := by
    rw [le_div_iff₀ (by exact_mod_cast hd), ← @Nat.cast_le ℚ]
    push_cast
    constructor
    · intro h
      linarith
    · intro h
      linarith
  rw [hwhole]
  have hn := Nat.div_add_mod' n d
  have hrest := Nat.mod_lt n hd
  unfold roundHalfEven
  dsimp only
  generalize n / d = q at *
  generalize n % d = r at *
  subst hn
  rcases Nat.lt_trichotomy k (q + 1) with hbelow | rfl | habove
  · have hproduct := Nat.mul_le_mul_right d (Nat.le_of_lt_succ hbelow)
    have hround : q ≤ if 2 * r < d then q else if d < 2 * r then q + 1 else q + q % 2 := by
      split
      · exact le_rfl
      · split <;> omega
    omega
  · rw [Nat.add_mul q 1 d]
    split
    · omega
    · split <;> omega
  · have hproduct := Nat.mul_le_mul_right d (show q + 2 ≤ k from habove)
    rw [Nat.add_mul q 2 d] at hproduct
    split
    · omega
    · split <;> omega

/-- The least whole number past the finite range: halfway between the greatest finite number and the
power of two after it. -/
def overflow : Nat := (2 ^ 54 - 1) * 2 ^ 970

theorem zpow_two_succ (k : Nat) : (2 : ℚ) ^ (1 + (k : Int)) = 2 * (2 ^ k : Nat) := by
  rw [zpow_one_add₀ two_ne_zero]
  simp

theorem cast_overflow : (overflow : ℚ) = (2 * leadingBit - 1 / 2) * 2 ^ (971 : Int) := by
  rw [show (971 : Int) = 1 + (970 : Nat) from rfl, zpow_two_succ, overflow]
  generalize 2 ^ 970 = power
  push_cast [leadingBit]
  ring

theorem one_le_leadingBit : (1 : ℚ) ≤ leadingBit := by
  norm_num [leadingBit]

theorem zpow_two_eq_two_mul (k : Int) : (2 : ℚ) ^ k = 2 * 2 ^ (k - 1) := by
  rw [← zpow_one_add₀ two_ne_zero, add_sub_cancel]

/-- At a lower exponent a significand does not reach the halfway point after the greatest
significand. -/
theorem scaled_lt {significand : ℚ} {e k : Int} (hsmall : significand < 2 * leadingBit)
    (he : e < k) :
    significand * 2 ^ e < (2 * leadingBit - 1 / 2) * 2 ^ k := by
  have hbit := one_le_leadingBit
  calc significand * 2 ^ e < 2 * leadingBit *
    2 ^ e := mul_lt_mul_of_pos_right hsmall (by positivity)
    _ ≤ 2 * leadingBit * 2 ^ (k - 1) := by
      gcongr
      exact Int.le_sub_one_of_lt he
    _ ≤ (2 * leadingBit - 1 / 2) * 2 ^ k := by
      rw [zpow_two_eq_two_mul k, ← mul_assoc]
      gcongr ?_ * _
      linarith

theorem le_scaled {significand : ℚ} {e k : Int} (hfull : leadingBit ≤ significand) (he : k < e) :
    (2 * leadingBit - 1 / 2) * 2 ^ k ≤ significand * 2 ^ e := by
  have hbit := one_le_leadingBit
  calc (2 * (leadingBit : ℚ) - 1 / 2) * 2 ^ k ≤ (2 * leadingBit - 1 / 2) * 2 ^ (e - 1) := by
        gcongr
        · linarith
        · exact Int.le_sub_one_of_lt he
    _ ≤ (leadingBit : ℚ) * 2 ^ e := by
      rw [zpow_two_eq_two_mul e, ← mul_assoc]
      gcongr ?_ * _
      linarith
    _ ≤ significand * 2 ^ e := by gcongr

theorem infinityRank_le_rankOfRatio_iff {n : Nat} :
    infinityRank ≤ rankOfRatio n 1 ↔ overflow ≤ n := by
  rcases n.eq_zero_or_pos with rfl | hn
  · have hpositive : 0 < overflow := by
      unfold overflow
      positivity
    simp [rankOfRatio, infinityRank, hpositive.ne']
  obtain ⟨hfull, hhigh⟩ := significand_bounds hn Nat.one_pos
  obtain ⟨a, b, hb, hvalue, hrank⟩ := exists_rankOfRatio_eq hn Nat.one_pos
  rw [← hvalue] at hfull hhigh
  have hscaled : (n : ℚ) = a / b * 2 ^ exponentOf n 1 := by
    rw [hvalue, div_mul_cancel₀ _ (by positivity)]
    simp
  rw [hrank, show overflow ≤ n ↔ (overflow : ℚ) ≤ n by norm_cast, cast_overflow, hscaled]
  generalize exponentOf n 1 = e at *
  -- the exponent of the greatest finite number decides, and at that exponent the significand does
  rcases lt_trichotomy e 971 with hsmall | rfl | hlarge
  · have hround : ¬ 2 * leadingBit + 2 ≤ roundHalfEven a b := by
      rw [le_roundHalfEven_iff hb (by decide)]
      push_cast
      linarith
    refine iff_of_false ?_ (not_le.mpr (scaled_lt hhigh hsmall))
    unfold infinityRank leadingBit at *
    omega
  · have hround := le_roundHalfEven_iff (n := a) (k := 2 * leadingBit) hb (by decide)
    push_cast at hround
    rw [mul_le_mul_iff_left₀ (by positivity), ← hround]
    unfold infinityRank leadingBit
    omega
  · have hround : leadingBit ≤ roundHalfEven a b := by
      rw [le_roundHalfEven_iff hb (by decide)]
      linarith [hfull (by omega)]
    refine iff_of_true ?_ (le_scaled (hfull (by omega)) hlarge)
    unfold infinityRank leadingBit at *
    omega

theorem ofInt?_eq_none_iff {n : Int} : ofInt? n = none ↔ overflow ≤ n.natAbs := by
  rw [← infinityRank_le_rankOfRatio_iff, ofInt?]
  simp

end Binary64

namespace Number

theorem isReadable_iff {n : Int} : isReadable n = true ↔ n.natAbs < 10 ^ digitLimit := by
  rw [isReadable, decide_eq_true_iff]
  exact Nat.length_toDigits_le_iff (by decide) (by decide)

theorem two_pow_mul_two_pow_le {a b c : Nat} (h : a + b ≤ c) : 2 ^ a * 2 ^ b ≤ 10 ^ c := by
  rw [← Nat.pow_add]
  calc 2 ^ (a + b) ≤ 10 ^ (a + b) := Nat.pow_le_pow_left (by decide) _
    _ ≤ 10 ^ c := Nat.pow_le_pow_right (by decide) h

/-- A whole number in the range of the floating numbers is short enough to be written. -/
theorem isReadable_of_lt_overflow {n : Int} (h : n.natAbs < Binary64.overflow) :
    isReadable n = true := by
  have hlimit : Binary64.overflow ≤ 10 ^ digitLimit :=
    (Nat.mul_le_mul_right _ (Nat.sub_le _ _)).trans (two_pow_mul_two_pow_le (by decide))
  exact isReadable_iff.mpr (h.trans_le hlimit)

end Number
end MailTriage

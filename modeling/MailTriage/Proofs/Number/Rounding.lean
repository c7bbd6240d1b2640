import MailTriage.Number.Binary64
import Mathlib.Algebra.Order.Field.Power
import Mathlib.Data.Int.Log
import Mathlib.Data.Rat.Floor
import Mathlib.Tactic.FieldSimp
import Mathlib.Tactic.Linarith
import Mathlib.Tactic.NormNum
import Mathlib.Tactic.Positivity
import Mathlib.Tactic.Ring

/-!
# Rounding

The magnitude of a rank is a rational number, and the rank of a ratio is that of the magnitude
nearest to it: a ratio between the halfway points to the neighbours of a magnitude has its rank, and
so has a ratio on such a point when the significand is even. The neighbour below the least
significand of an exponent is nearer than the others.
-/

namespace MailTriage

namespace Binary64

def magnitude (rank : Nat) : ℚ := (parts rank).1 * 2 ^ (parts rank).2

/-! ## Significand and exponent -/

theorem exponent_ge (rank : Nat) : -1074 ≤ (parts rank).2 := by
  unfold parts
  generalize rank / leadingBit = exponent
  dsimp only
  split <;> simp only [Int.ofNat_eq_natCast] <;> omega

theorem significand_lt (rank : Nat) : (parts rank).1 < 2 * leadingBit := by
  have hfraction : rank % leadingBit < leadingBit := Nat.mod_lt _ (by decide)
  unfold parts
  dsimp only
  split <;> simp only <;> omega

theorem leadingBit_le_significand {rank : Nat} (h : (parts rank).2 ≠ -1074) :
    leadingBit ≤ (parts rank).1 := by
  unfold parts at h ⊢
  dsimp only at h ⊢
  split at h
  · exact absurd rfl h
  · next hexponent =>
    rw [if_neg hexponent]
    exact Nat.le_add_left ..

theorem rank_eq (rank : Nat) :
    ((parts rank).2 + 1074).toNat * leadingBit + (parts rank).1 = rank := by
  have hrank := Nat.div_add_mod' rank leadingBit
  unfold parts
  dsimp only
  split
  · next hexponent =>
    rw [hexponent] at hrank
    simpa using hrank
  · next hexponent =>
    have hstep : (Int.ofNat (rank / leadingBit) - 1075 + 1074).toNat = rank / leadingBit - 1 := by
      simp only [Int.ofNat_eq_natCast]
      omega
    have hsplit :
        (rank / leadingBit - 1) * leadingBit + leadingBit = rank / leadingBit * leadingBit := by
      rw [← Nat.succ_mul, Nat.succ_eq_add_one, Nat.sub_add_cancel (Nat.pos_of_ne_zero hexponent)]
    dsimp only
    rw [hstep]
    omega

/-- A power of two with a whole exponent, as a quotient of natural numbers. -/
theorem zpow_two_eq_pow_natAbs {e : Int} :
    (2 : ℚ) ^ e = if e < 0 then (1 : ℚ) / (Nat.pow 2 e.natAbs : Nat)
      else (Nat.pow 2 e.natAbs : Nat) := by
  split
  · next hneg =>
    obtain ⟨k, rfl⟩ : ∃ k : Nat, e = -(k : Int) := ⟨e.natAbs, by omega⟩
    simp [zpow_neg]
  · next hpos =>
    obtain ⟨k, rfl⟩ := Int.eq_ofNat_of_zero_le (not_lt.mp hpos)
    simp

/-! ## Rounding to a whole number -/

theorem div_le_roundHalfEven (n d : Nat) : n / d ≤ roundHalfEven n d := by
  unfold roundHalfEven
  dsimp only
  split
  · exact le_rfl
  · split <;> omega

/-- A ratio within half a unit of a whole number is rounded to it; at the distance of a half, when
the whole number is even. -/
theorem roundHalfEven_eq {n d s : Nat} (hd : 0 < d) (hlow : (s : ℚ) - 1 / 2 ≤ n / d)
    (hhigh : (n : ℚ) / d ≤ s + 1 / 2)
    (hodd : s % 2 = 1 → (s : ℚ) - 1 / 2 < n / d ∧ (n : ℚ) / d < s + 1 / 2) :
    roundHalfEven n d = s := by
  have hdq : (0 : ℚ) < d := by exact_mod_cast hd
  have hvalue : (n : ℚ) / d = (n / d : Nat) + (n % d : Nat) / d := by
    have hn : ((n / d : Nat) : ℚ) * d + (n % d : Nat) = n := by exact_mod_cast Nat.div_add_mod' n d
    rw [← hn, add_div, mul_div_cancel_right₀ _ hdq.ne']
  have hrest : n % d < d := Nat.mod_lt _ hd
  have hfraction : ((n % d : Nat) : ℚ) / d < 1 := by
    rw [div_lt_one hdq]
    exact_mod_cast hrest
  have hnonneg : (0 : ℚ) ≤ (n % d : Nat) / d := by positivity
  rw [hvalue] at hlow hhigh hodd
  unfold roundHalfEven
  dsimp only
  generalize n / d = q at *
  generalize n % d = r at *
  have htwice : (r : ℚ) / d * (2 * d) = 2 * r := by field_simp
  have hcases : q = s ∨ q + 1 = s := by
    have hle : q < s + 1 := by exact_mod_cast show (q : ℚ) < s + 1 by linarith
    have hge : s < q + 2 := by exact_mod_cast show (s : ℚ) < q + 2 by linarith
    omega
  rcases hcases with rfl | rfl
  · have hle : 2 * r ≤ d := by exact_mod_cast show (2 * r : ℚ) ≤ d by nlinarith
    have hlt : q % 2 = 1 → 2 * r < d := fun h => by
      have := (hodd h).2
      exact_mod_cast show (2 * r : ℚ) < d by nlinarith
    split
    · rfl
    · split <;> omega
  · push_cast at hlow hodd
    have hle : d ≤ 2 * r := by exact_mod_cast show (d : ℚ) ≤ 2 * r by nlinarith
    have hlt : (q + 1) % 2 = 1 → d < 2 * r := fun h => by
      have := (hodd h).1
      exact_mod_cast show (d : ℚ) < 2 * r by nlinarith
    split
    · omega
    · split <;> omega

/-! ## The greatest power of two below a ratio -/

/-- Comparing a ratio with a power of two needs no division. -/
theorem holds_iff_zpow_two_le {n d : Nat} (hd : 0 < d) (e : Int) :
    (if e < 0 then decide (d ≤ n * Nat.pow 2 e.natAbs)
      else decide (d * Nat.pow 2 e.natAbs ≤ n)) = true ↔
      (2 : ℚ) ^ e ≤ n / d := by
  have hdq : (0 : ℚ) < d := by exact_mod_cast hd
  rw [zpow_two_eq_pow_natAbs, le_div_iff₀ hdq]
  have hpower : (0 : ℚ) < (Nat.pow 2 e.natAbs : Nat) := by exact_mod_cast Nat.pow_pos (by decide)
  split
  · rw [decide_eq_true_eq, one_div_mul_eq_div, div_le_iff₀ hpower]
    exact_mod_cast Iff.rfl
  · rw [decide_eq_true_eq, mul_comm]
    exact_mod_cast Iff.rfl

theorem log2Ratio_eq_log {n d : Nat} (hn : 0 < n) (hd : 0 < d) :
    log2Ratio n d = Int.log 2 ((n : ℚ) / d) := by
  have hdq : (0 : ℚ) < d := by exact_mod_cast hd
  have hratio : (0 : ℚ) < n / d := by positivity
  have hn₁ : (2 : ℚ) ^ n.log2 ≤ n := by exact_mod_cast Nat.log2_self_le hn.ne'
  have hn₂ : (n : ℚ) < 2 ^ (n.log2 + 1) := by exact_mod_cast Nat.lt_log2_self
  have hd₁ : (2 : ℚ) ^ d.log2 ≤ d := by exact_mod_cast Nat.log2_self_le hd.ne'
  have hd₂ : (d : ℚ) < 2 ^ (d.log2 + 1) := by exact_mod_cast Nat.lt_log2_self
  -- the exponents of both parts tell the exponent of the ratio up to one
  have hlow : (2 : ℚ) ^ ((n.log2 : Int) - d.log2 - 1) < n / d := by
    have hpower : (2 : ℚ) ^ ((n.log2 : Int) - d.log2 - 1) = 2 ^ n.log2 / 2 ^ (d.log2 + 1) := by
      rw [← zpow_natCast, ← zpow_natCast, ← zpow_sub₀ two_ne_zero]
      push_cast
      ring_nf
    rw [hpower]
    exact div_lt_div₀' hn₁ hd₂ (by positivity) hdq
  have hhigh : (n : ℚ) / d < 2 ^ ((n.log2 : Int) - d.log2 + 1) := by
    have hpower : (2 : ℚ) ^ ((n.log2 : Int) - d.log2 + 1) = 2 ^ (n.log2 + 1) / 2 ^ d.log2 := by
      rw [← zpow_natCast, ← zpow_natCast, ← zpow_sub₀ two_ne_zero]
      push_cast
      ring_nf
    rw [hpower]
    exact div_lt_div₀ hn₂ hd₁ (by positivity) (by positivity)
  unfold log2Ratio
  dsimp only
  generalize (n.log2 : Int) - d.log2 = guess at hlow hhigh ⊢
  have hceil := (Int.lt_zpow_iff_log_lt (b := 2) (by decide) hratio).mp (by exact_mod_cast hhigh)
  have hfloor := (Int.zpow_le_iff_le_log (b := 2) (by decide) hratio).mp (by exact_mod_cast hlow.le)
  by_cases hholds : (2 : ℚ) ^ guess ≤ n / d
  · rw [if_pos ((holds_iff_zpow_two_le hd guess).mpr hholds)]
    have := (Int.zpow_le_iff_le_log (b := 2) (by decide) hratio).mp (by exact_mod_cast hholds)
    omega
  · rw [if_neg fun h => hholds ((holds_iff_zpow_two_le hd guess).mp h)]
    have :=
      (Int.lt_zpow_iff_log_lt (b := 2) (by decide) hratio).mp (by exact_mod_cast not_le.mp hholds)
    omega

/-! ## The rank of a ratio -/

def exponentOf (n d : Nat) : Int := max (-1074) (log2Ratio n d - 52)

theorem leadingBit_mul_zpow (e : Int) : (leadingBit : ℚ) * 2 ^ e = 2 ^ (e + 52) := by
  have hpower : (leadingBit : ℚ) = 2 ^ (52 : Int) := by norm_num [leadingBit]
  rw [hpower, ← zpow_add₀ two_ne_zero, add_comm]

theorem exponentOf_eq {n d : Nat} {e : Int} (hn : 0 < n) (hd : 0 < d) (he : -1074 ≤ e)
    (hlow : (leadingBit : ℚ) * 2 ^ e ≤ n / d ∨ e = -1074)
    (hhigh : (n : ℚ) / d < 2 * leadingBit * 2 ^ e) : exponentOf n d = e := by
  have hratio : (0 : ℚ) < n / d := by positivity
  rw [mul_assoc, leadingBit_mul_zpow, ← zpow_one_add₀ two_ne_zero] at hhigh
  have hceil := (Int.lt_zpow_iff_log_lt (b := 2) (by decide) hratio).mp (by exact_mod_cast hhigh)
  rw [exponentOf, log2Ratio_eq_log hn hd]
  rcases hlow with hlow | rfl
  · rw [leadingBit_mul_zpow] at hlow
    have hfloor := (Int.zpow_le_iff_le_log (b := 2) (by decide) hratio).mp (by exact_mod_cast hlow)
    omega
  · omega

theorem exists_rankOfRatio_eq {n d : Nat} (hn : 0 < n) (hd : 0 < d) :
    ∃ a b : Nat, 0 < b ∧ (a : ℚ) / b = n / d / 2 ^ exponentOf n d ∧
      rankOfRatio n d = (exponentOf n d + 1074).toNat * leadingBit + roundHalfEven a b := by
  unfold rankOfRatio
  rw [if_neg hn.ne', zpow_two_eq_pow_natAbs]
  change ∃ a b :
      Nat, 0 < b ∧ _ ∧ (exponentOf n d + 1074).toNat * leadingBit + (if exponentOf n d < 0 then
    roundHalfEven (n * Nat.pow 2 (exponentOf n d).natAbs) d
    else roundHalfEven n (d * Nat.pow 2 (exponentOf n d).natAbs)) = _
  have hpower : 0 < Nat.pow 2 (exponentOf n d).natAbs := Nat.pow_pos (by decide)
  by_cases hneg : exponentOf n d < 0
  · refine ⟨n * Nat.pow 2 (exponentOf n d).natAbs, d, hd, ?_, by rw [if_pos hneg]⟩
    rw [if_pos hneg, Nat.cast_mul, div_div_eq_mul_div, div_one]
    ring
  · refine ⟨n, d * Nat.pow 2 (exponentOf n d).natAbs, Nat.mul_pos hd hpower,
      ?_, by rw [if_neg hneg]⟩
    rw [if_neg hneg, Nat.cast_mul, div_div]

/-- The significand of a ratio has its leading bit, unless the exponent is the least one, and at
most one more. -/
theorem significand_bounds {n d : Nat} (hn : 0 < n) (hd : 0 < d) :
    (-1074 < exponentOf n d → (leadingBit : ℚ) ≤ n / d / 2 ^ exponentOf n d) ∧
      (n : ℚ) / d / 2 ^ exponentOf n d < 2 * leadingBit := by
  have hratio : (0 : ℚ) < n / d := by positivity
  have hpower : (0 : ℚ) < 2 ^ exponentOf n d := by positivity
  rw [le_div_iff₀ hpower, div_lt_iff₀ hpower, mul_assoc,
    leadingBit_mul_zpow, ← zpow_one_add₀ two_ne_zero]
  constructor
  · intro hexponent
    have hlog : exponentOf n d + 52 ≤ Int.log 2 ((n : ℚ) / d) := by
      rw [exponentOf, log2Ratio_eq_log hn hd] at *
      omega
    exact_mod_cast (Int.zpow_le_iff_le_log (b := 2) (by decide) hratio).mpr hlog
  · have hlog : Int.log 2 ((n : ℚ) / d) < 1 + (exponentOf n d + 52) := by
      rw [exponentOf, log2Ratio_eq_log hn hd]
      omega
    exact_mod_cast (Int.lt_zpow_iff_log_lt (b := 2) (by decide) hratio).mpr hlog

/-- A ratio that lies next to a significand at its exponent has the rank that they make up. -/
theorem rankOfRatio_eq {n d s : Nat} {e : Int} (hn : 0 < n) (hd : 0 < d) (he : exponentOf n d = e)
    (hlow : ((s : ℚ) - 1 / 2) * 2 ^ e ≤ n / d) (hhigh : (n : ℚ) / d ≤ (s + 1 / 2) * 2 ^ e)
    (hodd : s % 2 = 1 → ((s : ℚ) - 1 / 2) * 2 ^ e < n / d ∧ (n : ℚ) / d < (s + 1 / 2) * 2 ^ e) :
    rankOfRatio n d = (e + 1074).toNat * leadingBit + s := by
  obtain ⟨a, b, hb, hvalue, hrank⟩ := exists_rankOfRatio_eq hn hd
  rw [he] at hvalue hrank
  have hpower : (0 : ℚ) < 2 ^ e := by positivity
  rw [hrank, roundHalfEven_eq hb]
  · rwa [hvalue, le_div_iff₀ hpower]
  · rwa [hvalue, div_le_iff₀ hpower]
  · intro h
    rw [hvalue, lt_div_iff₀ hpower, div_lt_iff₀ hpower]
    exact hodd h

theorem significand_pos {rank : Nat} (h : 0 < rank) : 0 < (parts rank).1 := by
  by_contra hzero
  have hexponent : (parts rank).2 = -1074 := by
    by_contra hne
    have := leadingBit_le_significand hne
    have : 0 < leadingBit := by decide
    omega
  have hrank := rank_eq rank
  rw [hexponent, Nat.eq_zero_of_not_pos hzero] at hrank
  simp at hrank
  omega

/-- The point halfway between a magnitude and the one below it. -/
def halfBelow (rank : Nat) : ℚ :=
  ((parts rank).1 - if (parts rank).1 = leadingBit ∧ -1074 < (parts rank).2 then 1 / 4 else 1 / 2) *
    2 ^ (parts rank).2

def halfAbove (rank : Nat) : ℚ := ((parts rank).1 + 1 / 2) * 2 ^ (parts rank).2

/-- A number is near a magnitude: between its halfway points, and on one of them only when the
significand is even. -/
structure Near (rank : Nat) (v : ℚ) : Prop where
  above : halfBelow rank ≤ v
  below : v ≤ halfAbove rank
  inside : (parts rank).1 % 2 = 1 → halfBelow rank < v ∧ v < halfAbove rank

theorem halfAbove_lt (rank : Nat) : halfAbove rank < 2 * leadingBit * 2 ^ (parts rank).2 := by
  have hs : ((parts rank).1 : ℚ) + 1 ≤ 2 * leadingBit := by exact_mod_cast significand_lt rank
  exact mul_lt_mul_of_pos_right (by linarith) (by positivity)

theorem halfBelow_pos {rank : Nat} (h : 0 < rank) : 0 < halfBelow rank := by
  have hs : (1 : ℚ) ≤ (parts rank).1 := by exact_mod_cast significand_pos h
  refine mul_pos ?_ (by positivity)
  split <;> linarith

theorem le_halfBelow (rank : Nat) :
    ((parts rank).1 - 1 / 2 : ℚ) * 2 ^ (parts rank).2 ≤ halfBelow rank := by
  refine mul_le_mul_of_nonneg_right ?_ (by positivity)
  split <;> linarith

/-- A ratio near a magnitude, but below the least significand of an exponent, has the exponent
before. -/
theorem rankOfRatio_of_near_leadingBit {rank n d : Nat} (hn : 0 < n) (hd : 0 < d)
    (h : Near rank ((n : ℚ) / d)) (hs : (parts rank).1 = leadingBit) (he : -1074 < (parts rank).2)
    (hless : (n : ℚ) / d < leadingBit * 2 ^ (parts rank).2) : rankOfRatio n d = rank := by
  have hrank := rank_eq rank
  have habove := h.above
  rw [halfBelow, if_pos ⟨hs, he⟩, hs] at habove
  rw [hs] at hrank
  generalize (parts rank).2 = e at *
  have hstep : (2 : ℚ) ^ e = 2 * 2 ^ (e - 1) := by
    rw [← zpow_one_add₀ two_ne_zero, add_sub_cancel]
  have hpower : (0 : ℚ) < 2 ^ (e - 1) := by positivity
  have hbit : (1 : ℚ) ≤ leadingBit := by norm_num [leadingBit]
  rw [hstep] at habove hless
  have hexponent : exponentOf n d = e - 1 :=
    exponentOf_eq hn hd (by omega) (.inl (by nlinarith)) (by linarith)
  have heven : 2 * leadingBit % 2 ≠ 1 := by decide
  rw [rankOfRatio_eq (s := 2 * leadingBit) hn hd hexponent (by push_cast; linarith)
    (by push_cast; linarith) fun hodd => absurd hodd heven, ← hrank]
  have htoNat : (e + 1074).toNat = (e - 1 + 1074).toNat + 1 := by omega
  rw [htoNat]
  ring

theorem rankOfRatio_of_near {rank n d : Nat} (hrank : 0 < rank) (hd : 0 < d)
    (h : Near rank ((n : ℚ) / d)) : rankOfRatio n d = rank := by
  have hratio := (halfBelow_pos hrank).trans_le h.above
  have hn : 0 < n := Nat.pos_of_ne_zero fun hzero => by simp [hzero] at hratio
  by_cases hcorner : ((parts rank).1 = leadingBit ∧ -1074 < (parts rank).2) ∧
      (n : ℚ) / d < leadingBit * 2 ^ (parts rank).2
  · exact rankOfRatio_of_near_leadingBit hn hd h hcorner.1.1 hcorner.1.2 hcorner.2
  have hlow : (leadingBit : ℚ) * 2 ^ (parts rank).2 ≤ n / d ∨ (parts rank).2 = -1074 := by
    by_cases hexponent : (parts rank).2 = -1074
    · exact .inr hexponent
    have hge : -1074 < (parts rank).2 := lt_of_le_of_ne (exponent_ge rank) (Ne.symm hexponent)
    rcases (leadingBit_le_significand hexponent).eq_or_lt with hs | hs
    · exact .inl (not_lt.mp fun hless => hcorner ⟨⟨hs.symm, hge⟩, hless⟩)
    · have hs' : (leadingBit : ℚ) + 1 ≤ (parts rank).1 := by exact_mod_cast hs
      exact .inl (((mul_le_mul_of_nonneg_right (by linarith) (by positivity)).trans
        (le_halfBelow rank)).trans h.above)
  have hexponent :=
    exponentOf_eq hn hd (exponent_ge rank) hlow (h.below.trans_lt (halfAbove_lt rank))
  rw [rankOfRatio_eq hn hd hexponent ((le_halfBelow rank).trans h.above) h.below fun hodd =>
    ⟨(le_halfBelow rank).trans_lt (h.inside hodd).1, (h.inside hodd).2⟩, rank_eq]

end Binary64

end MailTriage

import MailTriage.Number.Reading
import MailTriage.Proofs.Number.Rounding

/-!
# Sums

A sum of finite numbers is exact before it is rounded, and what is not zero then is at least the
least magnitude, so that rounding does not make it zero. A sum is therefore a negative zero only if
its terms are. A finite term never makes a sum that is not a number.
-/

namespace MailTriage

namespace Binary64

open Number (withSign)

/-- A ratio of at least the least magnitude is not rounded to zero. -/
theorem rankOfRatio_pos {n d : Nat} (hn : 0 < n) (hd : 0 < d) (hleast : d ≤ n * 2 ^ 1074) :
    0 < rankOfRatio n d := by
  obtain ⟨a, b, hb, hvalue, hrank⟩ := exists_rankOfRatio_eq hn hd
  by_cases hexponent : exponentOf n d = -1074
  · have hone : 1 ≤ a / b := by
      rw [Nat.le_div_iff_mul_le hb, one_mul]
      have hbq : (0 : ℚ) < b := by exact_mod_cast hb
      have hdq : (0 : ℚ) < d := by exact_mod_cast hd
      have hleastq : (d : ℚ) ≤ n * 2 ^ 1074 := by exact_mod_cast hleast
      have hquotient : (1 : ℚ) ≤ a / b := by
        rw [hvalue, hexponent, zpow_neg, div_inv_eq_mul, div_mul_eq_mul_div,
          le_div_iff₀ hdq, one_mul]
        exact_mod_cast hleastq
      exact_mod_cast (one_le_div hbq).mp hquotient
    have hround := div_le_roundHalfEven a b
    omega
  · have hplace : 1 ≤ (exponentOf n d + 1074).toNat := by
      have : -1074 ≤ exponentOf n d := le_max_left ..
      omega
    have hscale := Nat.mul_le_mul_right leadingBit hplace
    have : 0 < leadingBit := by decide
    omega

/-! ## Magnitudes as ratios -/

theorem exists_ratio_snd_eq (rank : Nat) : ∃ k ≤ 1074, (ratio rank).2 = 2 ^ k := by
  have hge := exponent_ge rank
  unfold ratio
  dsimp only
  split
  · next hneg => exact ⟨(parts rank).2.natAbs, by omega, rfl⟩
  · exact ⟨0, by omega, rfl⟩

theorem ratio_snd_pos (rank : Nat) : 0 < (ratio rank).2 := by
  obtain ⟨k, -, hk⟩ := exists_ratio_snd_eq rank
  rw [hk]
  exact Nat.two_pow_pos k

theorem ratio_fst_pos {rank : Nat} (h : 0 < rank) : 0 < (ratio rank).1 := by
  have hsignificand := significand_pos h
  unfold ratio
  dsimp only
  split
  · exact hsignificand
  · exact Nat.mul_pos hsignificand (Nat.pow_pos (by decide))

/-- The sum of two fractions over powers of two is zero, or at least one over the greater of
them. -/
theorem le_natAbs_mul_of_ne_zero {k l top : Nat} (hk : k ≤ top) (hl : l ≤ top) {a c : Int}
    (h : a * (2 ^ l : Nat) + c * (2 ^ k : Nat) ≠ 0) :
    2 ^ k * 2 ^ l ≤ (a * (2 ^ l : Nat) + c * (2 ^ k : Nat)).natAbs * 2 ^ top := by
  have hpos := Int.natAbs_pos.mpr h
  rcases le_total k l with hle | hle
  · have hdvd : ((2 ^ k : Nat) : Int) ∣ a * (2 ^ l : Nat) + c * (2 ^ k : Nat) :=
      dvd_add (dvd_mul_of_dvd_right (Int.natCast_dvd_natCast.mpr (Nat.pow_dvd_pow 2 hle)) a)
        (dvd_mul_left _ c)
    exact Nat.mul_le_mul (Nat.le_of_dvd hpos (Int.natCast_dvd.mp hdvd))
      (Nat.pow_le_pow_right (by decide) hl)
  · have hdvd : ((2 ^ l : Nat) : Int) ∣ a * (2 ^ l : Nat) + c * (2 ^ k : Nat) :=
      dvd_add (dvd_mul_left _ a)
        (dvd_mul_of_dvd_right (Int.natCast_dvd_natCast.mpr (Nat.pow_dvd_pow 2 hle)) c)
    rw [Nat.mul_comm (2 ^ k)]
    exact Nat.mul_le_mul (Nat.le_of_dvd hpos (Int.natCast_dvd.mp hdvd))
      (Nat.pow_le_pow_right (by decide) hk)

/-! ## Zeros -/

theorem ofRank_zero_inj {m n : Bool} (h : ofRank m 0 = ofRank n 0) : m = n := by
  cases m <;> cases n <;> first | rfl | exact absurd h (by decide)

theorem ofRank_ne_zero {rank : Nat} (h : 0 < rank) (m n : Bool) : ofRank m rank ≠ ofRank n 0 := by
  intro heq
  have hrank : min rank infinityRank = min 0 infinityRank :=
    congrArg Fin.val (ranked.inj heq).2
  have : 0 < infinityRank := by decide
  omega

/-- The sum of two finite numbers before it is rounded, over the product of their denominators. -/
def exactSum (m : Bool) (rank : Nat) (n : Bool) (other : Nat) : Int :=
  withSign m ((ratio rank).1 * (ratio other).2) + withSign n ((ratio other).1 * (ratio rank).2)

theorem addFinite_eq (m : Bool) (rank : Nat) (n : Bool) (other : Nat) :
    addFinite (m, rank) (n, other) =
      if exactSum m rank n other = 0 then ofRank (m && n) 0
      else ofRatio (exactSum m rank n other < 0) (exactSum m rank n other).natAbs
        ((ratio rank).2 * (ratio other).2) := rfl

theorem rankOfRatio_exactSum_pos {m n : Bool} {rank other : Nat} (h : exactSum m rank n other ≠ 0) :
    0 < rankOfRatio (exactSum m rank n other).natAbs ((ratio rank).2 * (ratio other).2) := by
  apply rankOfRatio_pos (Int.natAbs_pos.mpr h)
    (Nat.mul_pos (ratio_snd_pos rank) (ratio_snd_pos other))
  have hsigned : ∀ (negative : Bool) (a b : Nat),
      withSign negative (a * b) = withSign negative a * (b : Nat) := by
    intro negative a b
    cases negative <;> simp [withSign]
  obtain ⟨k, hk, hdenominator⟩ := exists_ratio_snd_eq rank
  obtain ⟨l, hl, hother⟩ := exists_ratio_snd_eq other
  rw [exactSum, hsigned, hsigned, hdenominator, hother] at h ⊢
  exact le_natAbs_mul_of_ne_zero hk hl h

/-- Neither of two negative terms can take the other away. -/
theorem eq_zero_of_exactSum_eq_zero {rank other : Nat} (h : exactSum true rank true other = 0) :
    rank = 0 := by
  by_contra hne
  have hfirst := Nat.mul_pos (ratio_fst_pos (Nat.pos_of_ne_zero hne)) (ratio_snd_pos other)
  simp only [exactSum, withSign, if_true] at h
  omega

/-- A sum of finite numbers is a negative zero only if the first one is. -/
theorem eq_of_addFinite_eq {m n : Bool} {rank other : Nat}
    (h : addFinite (m, rank) (n, other) = ofRank true 0) : m = true ∧ rank = 0 := by
  rw [addFinite_eq] at h
  by_cases hsum : exactSum m rank n other = 0
  · rw [if_pos hsum] at h
    obtain ⟨rfl, rfl⟩ : m = true ∧ n = true := by simpa using ofRank_zero_inj h
    exact ⟨rfl, eq_zero_of_exactSum_eq_zero hsum⟩
  · rw [if_neg hsum] at h
    exact absurd h (ofRank_ne_zero (rankOfRatio_exactSum_pos hsum) _ _)

theorem add_ne_negativeZero {x : Binary64} (hx : x ≠ ofRank true 0) (y : Binary64) :
    x.add y ≠ ofRank true 0 := by
  intro h
  cases x with
  | nan => exact nomatch h
  | ranked m rank =>
    cases y with
    | nan => exact nomatch h
    | ranked n other =>
      unfold add at h
      dsimp only at h
      split at h
      · split at h
        · exact nomatch h
        · exact hx h
      · split at h
        · next hinfinite =>
          have hzero := congrArg Fin.val (ranked.inj h).2
          rw [hinfinite] at hzero
          exact absurd hzero (by decide)
        · obtain ⟨rfl, hrank⟩ := eq_of_addFinite_eq h
          obtain rfl : rank = 0 := Fin.ext hrank
          exact hx rfl

theorem eq_zero_of_eq {x : Binary64} (hx : x ≠ ofRank true 0) (h : x.eq zero = true) :
    x = zero := by
  cases x with
  | nan => exact absurd h (by decide)
  | ranked negative rank =>
    have hrank : rank = 0 := by
      have hkey : (if negative then -(rank.val : Int) else rank.val) = 0 := of_decide_eq_true h
      apply Fin.ext
      change rank.val = 0
      split at hkey <;> omega
    subst hrank
    cases negative with
    | true => exact absurd rfl hx
    | false => rfl

/-! ## Sums that are numbers -/

theorem isNaN_add {x y : Binary64} (hx : x.isNaN = false) (hy : y.isFinite = true) :
    (x.add y).isNaN = false := by
  cases x with
  | nan => exact absurd hx (by decide)
  | ranked m rank =>
    cases y with
    | nan => exact absurd hy (by decide)
    | ranked n other =>
      have hother : other.val ≠ infinityRank := (of_decide_eq_true hy).ne
      unfold add
      dsimp only
      split
      · simp [hother, isNaN, key?]
      · rw [addFinite_eq]
        split <;> rfl

end Binary64

end MailTriage

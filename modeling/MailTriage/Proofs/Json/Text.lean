import MailTriage.Json.Printer
import MailTriage.Json.Reader
import Mathlib.Tactic

/-!
# Texts in documents

A text that was written into a document is read back, character by character: what stands for a
character is read as that character whatever follows. A character beyond the basic plane is written
as two units and read from both; none of the units that are written for other characters is half of
such a pair.
-/

namespace MailTriage.Json

open MailTriage.Text

/-! ## Units -/

theorem hexDigit_hexDigitChar {d : Nat} (h : d < 16) : hexDigit (hexDigitChar d) = d :=
  (by decide : ∀ d < 16, hexDigit (hexDigitChar d) = d) d h

theorem isAsciiHexDigit_hexDigitChar {d : Nat} (h : d < 16) :
    isAsciiHexDigit (hexDigitChar d) = true :=
  (by decide : ∀ d < 16, isAsciiHexDigit (hexDigitChar d) = true) d h

theorem hexNumber_hexDigits (width n : Nat) : hexNumber (hexDigits width n) = n % 16 ^ width := by
  induction width generalizing n with
  | zero => simp [hexDigits, hexNumber, Nat.mod_one]
  | succ width ih =>
    have hlast : n % 16 < 16 := Nat.mod_lt _ (by decide)
    rw [hexDigits, hexNumber, List.foldl_append, ← hexNumber, ih]
    simp only [List.foldl_cons, List.foldl_nil, hexDigit_hexDigitChar hlast]
    rw [Nat.pow_succ, Nat.mul_comm _ 16, Nat.mod_mul, Nat.add_comm]

theorem exists_hexDigits {n : Nat} (h : n < 0x10000) :
    ∃ a b c d, hexDigits 4 n = [a, b, c, d] ∧ unit? a b c d = some n := by
  refine ⟨_, _, _, _, rfl, ?_⟩
  have hdigits (k : Nat) : isAsciiHexDigit (hexDigitChar (k % 16)) = true :=
    isAsciiHexDigit_hexDigitChar (Nat.mod_lt _ (by decide))
  have hnumber := hexNumber_hexDigits 4 n
  rw [Nat.mod_eq_of_lt (by simpa using h)] at hnumber
  unfold unit?
  rw [if_pos (by simp [hdigits])]
  exact congrArg some hnumber

theorem isHighUnit_iff {n : Nat} : isHighUnit n = true ↔ 0xd800 ≤ n ∧ n < 0xdc00 := by
  rw [isHighUnit, Bool.and_eq_true, decide_eq_true_eq, decide_eq_true_eq]

theorem isLowUnit_iff {n : Nat} : isLowUnit n = true ↔ 0xdc00 ≤ n ∧ n < 0xe000 := by
  rw [isLowUnit, Bool.and_eq_true, decide_eq_true_eq, decide_eq_true_eq]

/-! ## Escapes -/

section Escapes

variable {opened : Nat} {rest text left : List Char}
  (hread : readText opened rest = .ok (text, left))
include hread

theorem readText_shortEscape {c escaped : Char} (hu : c ≠ 'u')
    (hc : shortEscape? c = some escaped) :
    readText opened ('\\' :: c :: rest) = .ok (escaped :: text, left) := by
  rw [readText.eq_def]
  split <;> grind

theorem readText_plain {c : Char} (hquote : c ≠ '"') (hslash : c ≠ '\\') (hc : 32 ≤ c.toNat) :
    readText opened (c :: rest) = .ok (c :: text, left) := by
  rw [readText.eq_def]
  split <;> grind

theorem readText_unitEscape (hrest : rest ≠ []) {n : Nat} (h : n < 0x10000)
    (hhigh : isHighUnit n = false) :
    readText opened (unitEscape n ++ rest) = .ok (unitChar n :: text, left) := by
  obtain ⟨a, b, c, d, hdigits, hunit⟩ := exists_hexDigits h
  obtain ⟨next, more, rfl⟩ := List.exists_cons_of_ne_nil hrest
  rw [unitEscape, hdigits, readText.eq_def]
  simp only [List.cons_append, List.nil_append]
  split <;> grind

theorem readText_pair (hrest : rest ≠ []) {high low : Nat} (hhigh : isHighUnit high = true)
    (hlow : isLowUnit low = true) :
    readText opened (unitEscape high ++ unitEscape low ++ rest) =
      .ok (pairChar high low :: text, left) := by
  have hbounds : high < 0x10000 ∧ low < 0x10000 := by
    rw [isHighUnit_iff] at hhigh
    rw [isLowUnit_iff] at hlow
    omega
  obtain ⟨a, b, c, d, hdigits, hunit⟩ := exists_hexDigits hbounds.1
  obtain ⟨a', b', c', d', hdigits', hunit'⟩ := exists_hexDigits hbounds.2
  obtain ⟨next, more, rfl⟩ := List.exists_cons_of_ne_nil hrest
  rw [unitEscape, unitEscape, hdigits, hdigits', readText.eq_def]
  simp only [List.cons_append, List.nil_append]
  split <;> grind

end Escapes

/-! ## Characters -/

theorem toNat_lt_or_gt (c : Char) : c.toNat < 0xd800 ∨ (0xdfff < c.toNat ∧ c.toNat < 0x110000) :=
  c.valid

/-- A character of the basic plane is no half of a pair, and is the character of its unit. -/
theorem unitChar_toNat {c : Char} (h : c.toNat < 0x10000) :
    isHighUnit c.toNat = false ∧ unitChar c.toNat = c := by
  have hc := toNat_lt_or_gt c
  have hsingle : ¬(0xd800 ≤ c.toNat ∧ c.toNat < 0xe000) := by omega
  refine ⟨?_, by rw [unitChar, if_neg hsingle, Char.ofNat_toNat]⟩
  rw [← Bool.not_eq_true, isHighUnit_iff]
  omega

theorem pairChar_surrogates {c : Char} (h : 0x10000 ≤ c.toNat) :
    isHighUnit (surrogates c.toNat).1 = true ∧ isLowUnit (surrogates c.toNat).2 = true ∧
      pairChar (surrogates c.toNat).1 (surrogates c.toNat).2 = c := by
  have hc := toNat_lt_or_gt c
  refine ⟨?_, ?_, ?_⟩
  · rw [isHighUnit_iff, surrogates]
    omega
  · rw [isLowUnit_iff, surrogates]
    omega
  · have hcode :
        0x10000 + ((surrogates c.toNat).1 - 0xd800) * 0x400 + ((surrogates c.toNat).2 - 0xdc00) =
        c.toNat := by
      simp only [surrogates]
      omega
    rw [pairChar, hcode, Char.ofNat_toNat]

theorem readText_encodeChar {opened : Nat} {rest text left : List Char} (hrest : rest ≠ [])
    (hread : readText opened rest = .ok (text, left)) (c : Char) :
    readText opened (encodeChar c ++ rest) = .ok (c :: text, left) := by
  unfold encodeChar
  iterate 5
    split
    · next h =>
      subst h
      exact readText_shortEscape hread (by decide) (by decide)
  split
  · next h =>
    obtain rfl : c = Char.ofNat 8 := h ▸ (Char.ofNat_toNat c).symm
    exact readText_shortEscape hread (by decide) (by decide)
  split
  · next h =>
    obtain rfl : c = Char.ofNat 12 := h ▸ (Char.ofNat_toNat c).symm
    exact readText_shortEscape hread (by decide) (by decide)
  split
  · next hquote hslash _ _ _ _ _ hplain => exact readText_plain hread hquote hslash hplain.1
  split
  · next h =>
    obtain ⟨hhigh, hchar⟩ := unitChar_toNat h
    exact (readText_unitEscape hread hrest h hhigh).trans (by rw [hchar])
  · next h =>
    obtain ⟨hhigh, hlow, hchar⟩ := pairChar_surrogates (not_lt.mp h)
    exact (readText_pair hread hrest hhigh hlow).trans (by rw [hchar])

theorem readText_flatMap_encodeChar (opened : Nat) (cs rest : List Char) :
    readText opened (cs.flatMap encodeChar ++ '"' :: rest) = .ok (cs, rest) := by
  induction cs with
  | nil => rw [List.flatMap_nil, List.nil_append, readText]
  | cons c cs ih =>
    rw [List.flatMap_cons, List.append_assoc]
    exact readText_encodeChar (by simp) ih c

end MailTriage.Json

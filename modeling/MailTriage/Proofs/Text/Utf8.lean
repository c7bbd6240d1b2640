import MailTriage.Text.Utf8
import Mathlib.Tactic

/-!
# Reading back UTF-8

The bytes of a text are those that UTF-8 lays down, and reading them gives the text. A character is
read off its own bytes whatever follows: its first byte tells how many more there are and what the
second one may be, and no character has a second byte that its first one rules out.
-/

namespace MailTriage.Text.Utf8

/-! ## Code points -/

theorem toNat_lt (c : Char) : c.toNat < 0x110000 := by
  rcases c.valid with h | h
  · exact h.trans (by decide)
  · exact h.2

theorem toNat_not_surrogate (c : Char) : c.toNat < 0xd800 ∨ 0xe000 ≤ c.toNat := by
  rcases c.valid with h | h
  · exact .inl h
  · exact .inr h.1

/-! ## The bytes of a text -/

theorem encodeChar_eq (c : Char) : encodeChar c = (String.utf8EncodeChar c).map UInt8.toNat := by
  have hlt := toNat_lt c
  have hval : c.val.toNat = c.toNat := rfl
  simp only [encodeChar, String.utf8EncodeChar, hval]
  split_ifs <;> simp <;> omega

theorem encode_toList (s : String) : encode s.toList = s.toUTF8.data.toList.map UInt8.toNat := by
  have hbytes : s.toUTF8 = s.toList.utf8Encode := s.utf8Encode_toList.symm
  rw [hbytes, List.utf8Encode, List.toList_data_toByteArray, List.map_flatMap, encode]
  congr 1
  funext c
  exact encodeChar_eq c

theorem lt_of_mem_encode {cs : List Char} {b : Nat} (h : b ∈ encode cs) : b < 0x100 := by
  obtain ⟨c, -, hb⟩ := List.mem_flatMap.mp h
  rw [encodeChar_eq] at hb
  obtain ⟨byte, -, rfl⟩ := List.mem_map.mp hb
  exact byte.toNat_lt

/-! ## Reading a character -/

theorem gather_continuation {x : Nat} (h : x < 0x40) (code more : Nat) (rest : List Nat) :
    gather code (more + 1) ((0x80 + x) :: rest) =
      ((gather (code * 0x40 + x) more rest).1, (gather (code * 0x40 + x) more rest).2 + 1) := by
  have hcontinuation : isContinuation (0x80 + x) = true := by
    simp [isContinuation]
    omega
  simp [gather, hcontinuation]

/-- A first byte that asks for `more` bytes, carries `bits` and lets the second byte be what it
is. -/
def Begins (first second more bits : Nat) : Prop :=
  ∃ lead, lead? first = some lead ∧ lead.more = more ∧ lead.bits = bits ∧ lead.lowest ≤ second ∧
    second ≤ lead.highest

theorem begins_two {n : Nat} (hlow : 0x80 ≤ n) (hhigh : n < 0x800) :
    Begins (0xc0 + n / 0x40) (0x80 + n % 0x40) 1 (n / 0x40) := by
  refine ⟨⟨1, 0x80, 0xbf, n / 0x40⟩, ?_, rfl, rfl, by simp, by simp; omega⟩
  rw [lead?, if_pos (by simp; omega), Nat.add_sub_cancel_left]

/-- The second of three bytes is bounded below where two bytes would do, and above where a surrogate
would be. -/
theorem begins_three {n : Nat} (hlow : 0x800 ≤ n) (hhigh : n < 0x10000)
    (hplain : n < 0xd800 ∨ 0xe000 ≤ n) :
    Begins (0xe0 + n / 0x1000) (0x80 + n / 0x40 % 0x40) 2 (n / 0x1000) := by
  by_cases hzero : n / 0x1000 = 0
  · rw [hzero]
    exact ⟨⟨2, 0xa0, 0xbf, 0⟩, rfl, rfl, rfl, by simp; omega, by simp; omega⟩
  by_cases hedge : n / 0x1000 = 0xd
  · rw [hedge]
    exact ⟨⟨2, 0x80, 0x9f, 0xd⟩, rfl, rfl, rfl, by simp, by simp; omega⟩
  · refine ⟨⟨2, 0x80, 0xbf, n / 0x1000⟩, ?_, rfl, rfl, by simp, by simp; omega⟩
    rw [lead?, if_neg (by simp), if_neg (by omega), if_neg (by omega), if_pos (by simp; omega),
      Nat.add_sub_cancel_left]

/-- The second of four bytes is bounded below where three bytes would do, and above where the code
points end. -/
theorem begins_four {n : Nat} (hlow : 0x10000 ≤ n) (hhigh : n < 0x110000) :
    Begins (0xf0 + n / 0x40000) (0x80 + n / 0x1000 % 0x40) 3 (n / 0x40000) := by
  by_cases hzero : n / 0x40000 = 0
  · rw [hzero]
    exact ⟨⟨3, 0x90, 0xbf, 0⟩, rfl, rfl, rfl, by simp; omega, by simp; omega⟩
  by_cases hedge : n / 0x40000 = 4
  · rw [hedge]
    exact ⟨⟨3, 0x80, 0x8f, 4⟩, rfl, rfl, rfl, by simp, by simp; omega⟩
  · refine ⟨⟨3, 0x80, 0xbf, n / 0x40000⟩, ?_, rfl, rfl, by simp, by simp; omega⟩
    rw [lead?, if_neg (by simp; omega), if_neg (by omega), if_neg (by omega), if_neg (by simp),
      if_neg (by omega), if_pos (by simp; omega), Nat.add_sub_cancel_left]

/-- A character is read off its first byte and those that it asks for. -/
theorem decodeFrom_of_begins {first second bits : Nat} {c : Char} (others rest : List Nat)
    (hfirst : 0x80 ≤ first) (h : Begins first second (others.length + 1) bits)
    (hgather : gather bits (others.length + 1) (second :: (others ++ rest)) =
      (c.toNat, others.length + 1)) :
    decodeFrom 0 (first :: second :: (others ++ rest)) = c :: decodeFrom 0 rest := by
  obtain ⟨lead, hlead, hmore, rfl, hlowest, hhighest⟩ := h
  have hread : charAfter first (second :: (others ++ rest)) = (c, others.length + 1) := by
    simp [charAfter, hlead, hmore, hlowest, hhighest, hgather, Char.ofNat_toNat]
  -- what a character took is skipped byte by byte
  have hskip : ∀ read : List Nat, decodeFrom read.length (read ++ rest) = decodeFrom 0 rest := by
    intro read
    induction read with
    | nil => rfl
    | cons b read ih => exact ih
  rw [decodeFrom, if_neg (by omega), hread]
  exact congrArg (c :: ·) (hskip (second :: others))

theorem decodeFrom_encodeChar (c : Char) (rest : List Nat) :
    decodeFrom 0 (encodeChar c ++ rest) = c :: decodeFrom 0 rest := by
  have hlt := toNat_lt c
  have hplain := toNat_not_surrogate c
  simp only [encodeChar]
  split_ifs with hone htwo hthree
  · simp [decodeFrom, hone, Char.ofNat_toNat]
  · refine decodeFrom_of_begins [] rest (by omega) (begins_two (by omega) htwo) ?_
    rw [List.length_nil, gather_continuation (by omega)]
    simp [gather]
    omega
  · refine decodeFrom_of_begins [_] rest (by omega) (begins_three (by omega) hthree hplain) ?_
    rw [List.length_singleton, List.singleton_append, gather_continuation (by omega),
      gather_continuation (by omega)]
    simp [gather]
    omega
  · refine decodeFrom_of_begins [_, _] rest (by omega) (begins_four (by omega) hlt) ?_
    rw [List.length_cons, List.length_singleton, List.cons_append, List.singleton_append,
      gather_continuation (by omega), gather_continuation (by omega),
        gather_continuation (by omega)]
    simp [gather]
    omega

/-- Reading the bytes of a text gives the text. -/
theorem decode_encode (cs : List Char) : decode (encode cs) = cs := by
  induction cs with
  | nil => rfl
  | cons c rest ih =>
    rw [encode, List.flatMap_cons, decode, decodeFrom_encodeChar]
    exact congrArg (c :: ·) ih

end MailTriage.Text.Utf8

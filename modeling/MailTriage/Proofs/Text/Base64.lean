import MailTriage.Text.Base64
import Mathlib.Data.List.DropRight
import Mathlib.Tactic

/-!
# Reading back Base64

Bytes that are written with signs are read back, and for that the equals signs at the end do not
matter: what is left of them is made up to whole groups again. Of texts that were not written so,
those can be read whose signs make whole groups, or in which equals signs stand for what the last
group lacks; what comes after these is not looked at.
-/

namespace MailTriage.Text.Base64

/-! ## Signs -/

theorem bits?_sign {n : Nat} (h : n < 64) : bits? (sign n) = some n :=
  (by decide : ∀ n < 64, bits? (sign n) = some n) n h

theorem sign_ne_equals {n : Nat} (h : n < 64) : sign n ≠ '=' := by
  intro heq
  have hbits := bits?_sign h
  rw [heq, show bits? '=' = none from rfl] at hbits
  cases hbits

theorem isAscii_sign {n : Nat} (h : n < 64) : (sign n).toNat < 0x80 :=
  (by decide : ∀ n < 64, (sign n).toNat < 0x80) n h

theorem decodeFrom_sign {n : Nat} (h : n < 64) (group : Group) (pads : Nat) (rest : List Char) :
    decodeFrom group pads (sign n :: rest) =
      (decodeFrom (group.take n).1 0 rest).map ((group.take n).2 ++ ·) := by
  rw [decodeFrom, if_neg (sign_ne_equals h), bits?_sign h]

/-! ## What was written -/

theorem decodeFrom_encode {bytes : List Nat} (h : ∀ b ∈ bytes, b < 0x100) :
    decodeFrom .start 0 (encode bytes) = some bytes := by
  -- three bytes at a time, as they are written; one or two bytes may be left at the end
  induction bytes using encode.induct with
  | case1 => rfl
  | case2 a =>
    have ha : a < 0x100 := h a (by simp)
    rw [encode, decodeFrom_sign (by omega), decodeFrom_sign (by omega)]
    simp [Group.take, decodeFrom, Group.padding?]
    omega
  | case3 a b =>
    have ha : a < 0x100 := h a (by simp)
    have hb : b < 0x100 := h b (by simp)
    rw [encode, decodeFrom_sign (by omega), decodeFrom_sign (by omega), decodeFrom_sign (by omega)]
    simp [Group.take, decodeFrom, Group.padding?]
    omega
  | case4 a b c rest ih =>
    have ha : a < 0x100 := h a (by simp)
    have hb : b < 0x100 := h b (by simp)
    have hc : c < 0x100 := h c (by simp)
    have hrest := ih fun d hd => h d (by simp [hd])
    rw [encode, decodeFrom_sign (by omega), decodeFrom_sign (by omega), decodeFrom_sign (by omega),
      decodeFrom_sign (by omega)]
    simp [Group.take, hrest]
    omega

/-- What is written is whole groups: signs, and at the end up to two equals signs. -/
theorem exists_encode_eq {bytes : List Nat} (h : ∀ b ∈ bytes, b < 0x100) :
    ∃ (sixes : List Nat) (pads : Nat), encode bytes = sixes.map sign ++ List.replicate pads '=' ∧
      (∀ n ∈ sixes, n < 64) ∧ pads < 3 ∧ 4 ∣ sixes.length + pads := by
  induction bytes using encode.induct with
  | case1 => exact ⟨[], 0, rfl, by simp⟩
  | case2 a =>
    have ha : a < 0x100 := h a (by simp)
    exact ⟨[a / 4, a % 4 * 16], 2, rfl, by simp; omega, by simp⟩
  | case3 a b =>
    have ha : a < 0x100 := h a (by simp)
    have hb : b < 0x100 := h b (by simp)
    exact ⟨[a / 4, a % 4 * 16 + b / 16, b % 16 * 4], 1, rfl, by simp; omega, by simp⟩
  | case4 a b c rest ih =>
    have ha : a < 0x100 := h a (by simp)
    have hb : b < 0x100 := h b (by simp)
    have hc : c < 0x100 := h c (by simp)
    obtain ⟨sixes, pads, hencode, hsixes, hpads, hgroups⟩ := ih fun d hd => h d (by simp [hd])
    refine ⟨a / 4 :: (a % 4 * 16 + b / 16) :: (b % 16 * 4 + c / 64) :: c % 64 :: sixes, pads, ?_,
      ?_, hpads, ?_⟩
    · simp [encode, hencode]
    · simp
      exact ⟨by omega, by omega, by omega, by omega, hsixes⟩
    · simp
      omega

theorem isAscii_encode {bytes : List Nat} (h : ∀ b ∈ bytes, b < 0x100) :
    ∀ c ∈ encode bytes, c.toNat < 0x80 := by
  obtain ⟨sixes, pads, hencode, hsixes, -⟩ := exists_encode_eq h
  intro c hc
  rw [hencode, List.mem_append, List.mem_map, List.mem_replicate] at hc
  rcases hc with ⟨n, hn, rfl⟩ | ⟨-, rfl⟩
  · exact isAscii_sign (hsixes n hn)
  · decide

theorem decode_encode {bytes : List Nat} (h : ∀ b ∈ bytes, b < 0x100) :
    decode (encode bytes) = some bytes := by
  rw [decode, if_pos (by simpa using isAscii_encode h), decodeFrom_encode h]

/-- Equals signs that are missing at the end are made up. -/
theorem pad_rdrop {bytes : List Nat} (h : ∀ b ∈ bytes, b < 0x100) {k : Nat}
    (hk : k ≤ (encode bytes).count '=') :
    pad ((encode bytes).rdrop k) = encode bytes := by
  obtain ⟨sixes, pads, hencode, hsixes, hpads, hgroups⟩ := exists_encode_eq h
  have hnone : (sixes.map sign).count '=' = 0 := by
    refine List.count_eq_zero.mpr ?_
    intro hmem
    obtain ⟨n, hn, heq⟩ := List.mem_map.mp hmem
    exact sign_ne_equals (hsixes n hn) heq
  rw [hencode, List.count_append, hnone, List.count_replicate_self, Nat.zero_add] at hk
  have hsplit :
      encode bytes = sixes.map sign ++ List.replicate (pads - k) '=' ++ List.replicate k '=' := by
    rw [hencode, List.append_assoc, List.replicate_append_replicate, Nat.sub_add_cancel hk]
  have hrest : (encode bytes).rdrop k = sixes.map sign ++ List.replicate (pads - k) '=' := by
    rw [hsplit, List.rdrop]
    exact List.take_left' (by simp; omega)
  have hmissing : (4 - (sixes.length + (pads - k)) % 4) % 4 = k := by omega
  rw [hrest, pad, List.length_append, List.length_map, List.length_replicate, hmissing, hsplit]

/-! ## What can be read -/

def isSign (c : Char) : Bool := (bits? c).isSome

def signCount (cs : List Char) : Nat := cs.countP isSign

/-- The text goes on with an equals sign before any sign. -/
def EqualsNext (cs : List Char) : Prop :=
  ∃ between after, cs = between ++ '=' :: after ∧ signCount between = 0

/-- A text whose signs make whole groups of four, or one of whose equals signs ends a group: after
three of its signs, or after two of them and before another equals sign. -/
def IsGrouped (cs : List Char) : Prop :=
  signCount cs % 4 = 0 ∨ ∃ before after, cs = before ++ '=' :: after ∧
    (signCount before % 4 = 3 ∨ signCount before % 4 = 2 ∧ EqualsNext after)

/-- A text that can be read. -/
structure IsLegible (cs : List Char) : Prop where
  ascii : ∀ c ∈ cs, c.toNat < 0x80
  grouped : IsGrouped cs

def Group.count : Group → Nat
  | start => 0
  | one _ => 1
  | two _ => 2
  | three _ => 3

/-- A text that is grouped when a group has begun before it, of which an equals sign may have been
read already. -/
def GroupedFrom (group : Group) (pads : Nat) (cs : List Char) : Prop :=
  (group.count + signCount cs) % 4 = 0 ∨ (group.count = 2 ∧ 0 < pads ∧ EqualsNext cs) ∨
    ∃ before after, cs = before ++ '=' :: after ∧
      ((group.count + signCount before) % 4 = 3 ∨ (group.count + signCount before) % 4 = 2 ∧
        EqualsNext after)

theorem exists_cut_cons {P : List Char → List Char → Prop} {c : Char} {rest : List Char} :
    (∃ before after, c :: rest = before ++ '=' :: after ∧ P before after) ↔
      (c = '=' ∧ P [] rest) ∨ ∃ before after, rest = before ++ '=' :: after ∧
        P (c :: before) after := by
  constructor
  · rintro ⟨before, after, heq, h⟩
    cases before with
    | nil =>
      obtain ⟨rfl, rfl⟩ := List.cons.inj heq
      exact .inl ⟨rfl, h⟩
    | cons d before =>
      obtain ⟨rfl, rfl⟩ := List.cons.inj heq
      exact .inr ⟨before, after, rfl, h⟩
  · rintro (⟨rfl, h⟩ | ⟨before, after, rfl, h⟩)
    · exact ⟨[], rest, rfl, h⟩
    · exact ⟨c :: before, after, rfl, h⟩

theorem equalsNext_cons {c : Char} {rest : List Char} :
    EqualsNext (c :: rest) ↔ c = '=' ∨ isSign c = false ∧ EqualsNext rest := by
  unfold EqualsNext
  rw [exists_cut_cons (P := fun between _ => signCount between = 0)]
  by_cases hsign : isSign c = true <;> simp [signCount, hsign]

theorem groupedFrom_sign {c : Char} {n : Nat} (h : bits? c = some n) (group : Group) (pads : Nat)
    (rest : List Char) :
    GroupedFrom group pads (c :: rest) ↔ GroupedFrom (group.take n).1 0 rest := by
  have hsign : isSign c = true := by simp [isSign, h]
  have hne : c ≠ '=' := by
    rintro rfl
    cases h
  have hcount : ∀ cs,
      (group.count + signCount (c :: cs)) % 4 = ((group.take n).1.count + signCount cs) % 4 := by
    intro cs
    cases group <;> simp [Group.take, Group.count, signCount, hsign] <;> omega
  simp only [GroupedFrom, exists_cut_cons, equalsNext_cons, hcount]
  simp [hne, hsign]

theorem groupedFrom_other {c : Char} (h : bits? c = none) (hne : c ≠ '=') (group : Group)
    (pads : Nat) (rest : List Char) :
    GroupedFrom group pads (c :: rest) ↔ GroupedFrom group pads rest := by
  have hsign : isSign c = false := by simp [isSign, h]
  have hcount : ∀ cs, signCount (c :: cs) = signCount cs := by simp [signCount, hsign]
  simp only [GroupedFrom, exists_cut_cons, equalsNext_cons, hcount]
  simp [hne, hsign]

/-- An equals sign ends a group, or a second one may. -/
theorem groupedFrom_equals (group : Group) (pads : Nat) (rest : List Char) :
    GroupedFrom group pads ('=' :: rest) ↔
      match group.padding? with
      | none => GroupedFrom group pads rest
      | some needed => needed ≤ pads + 1 ∨ GroupedFrom group (pads + 1) rest := by
  have hsign : isSign '=' = false := rfl
  have hcount : ∀ cs, signCount ('=' :: cs) = signCount cs := by simp [signCount, hsign]
  have hnil : signCount [] = 0 := rfl
  simp only [GroupedFrom, exists_cut_cons, equalsNext_cons, hcount, hnil]
  cases group with
  | start | one _ | three _ => simp [Group.padding?, Group.count]
  | two left =>
    have hpads : 2 ≤ pads + 1 ↔ 0 < pads := by omega
    simpa [Group.padding?, Group.count, hpads] using or_left_comm

theorem isSome_decodeFrom_iff (group : Group) (pads : Nat) (cs : List Char) :
    (decodeFrom group pads cs).isSome = true ↔ GroupedFrom group pads cs := by
  induction cs generalizing group pads with
  | nil => cases group <;> simp [decodeFrom, GroupedFrom, Group.count, EqualsNext, signCount]
  | cons c rest ih =>
    rw [decodeFrom]
    by_cases hequals : c = '='
    · subst hequals
      rw [if_pos rfl, groupedFrom_equals]
      cases group.padding? with
      | none => exact ih group pads
      | some needed =>
        by_cases hneeded : needed ≤ pads + 1
        · simp [hneeded]
        · simpa [hneeded] using ih group (pads + 1)
    · rw [if_neg hequals]
      cases hbits : bits? c with
      | none =>
        rw [groupedFrom_other hbits hequals]
        exact ih group pads
      | some n =>
        rw [groupedFrom_sign hbits]
        simpa using ih (group.take n).1 0

theorem isSome_decode_iff (cs : List Char) : (decode cs).isSome = true ↔ IsLegible cs := by
  have hgrouped : GroupedFrom .start 0 cs ↔ IsGrouped cs := by
    simp [GroupedFrom, IsGrouped, Group.count]
  by_cases hascii : ∀ c ∈ cs, c.toNat < 0x80
  · rw [decode, if_pos (by simpa using hascii), isSome_decodeFrom_iff, hgrouped]
    exact ⟨fun h => ⟨hascii, h⟩, IsLegible.grouped⟩
  · have hnone : decode cs = none := by simp [decode, hascii]
    rw [hnone]
    exact ⟨fun h => absurd h (by simp), fun h => absurd h.ascii hascii⟩

end MailTriage.Text.Base64

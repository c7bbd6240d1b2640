import MailTriage.Text.Case
import Mathlib.Tactic

/-!
# Characters without another case

When case is ignored, a character set written in ASCII also takes characters from far away: whatever
shares a lower case or an upper case with a letter of it. A character that is its own lower case and
shares no upper case is taken only where it is written. The lower case of a text has the beginnings
of schemes only where the text has them itself, in whichever case.
-/

namespace MailTriage.Text

/-- A code point that is its own lower case and has no upper case in common with another. -/
def Caseless (n : Nat) : Prop := lowerCode n = n ∧ upperCaseMates n = []

instance (n : Nat) : Decidable (Caseless n) := inferInstanceAs (Decidable (_ ∧ _))

/-- Only what lies beyond ASCII is moved by the table of lower-case images. -/
theorem le_first_of_mem_lowerTable : ∀ run ∈ lowerTable.runs.toList, 128 ≤ run.first := by
  decide +kernel

theorem le_of_mem_pairs {n image : Nat} (h : (n, image) ∈ lowerTable.pairs) : 128 ≤ n := by
  obtain ⟨run, hrun, hpair⟩ := List.mem_flatMap.mp h
  obtain ⟨i, -, hi⟩ := List.mem_map.mp hpair
  have hfirst := le_first_of_mem_lowerTable run hrun
  have hn : run.first + i * run.step = n := congrArg Prod.fst hi
  omega

theorem le_of_mem_raisedPairs {n m : Nat} (h : (n, m) ∈ raisedPairs) : 128 ≤ m := by
  have hmem : (n, m) ∈ lowerTable.pairs.map fun pair => (pair.2, pair.1) := by
    simpa [raisedPairs] using h
  obtain ⟨⟨m', n'⟩, hpair, heq⟩ := List.mem_map.mp hmem
  obtain ⟨rfl, rfl⟩ := Prod.mk.inj heq
  exact le_of_mem_pairs hpair

theorem le_of_mem_raisedAt {n m i : Nat} (h : m ∈ raisedAt n i) : 128 ≤ m := by
  induction i with
  | zero =>
    unfold raisedAt at h
    split at h
    · next key value hentry =>
      split at h
      · obtain rfl := List.mem_singleton.mp h
        exact le_of_mem_raisedPairs (Array.mem_of_getElem? hentry)
      · simp at h
    · simp at h
  | succ i ih =>
    unfold raisedAt at h
    split at h
    · next key value hentry =>
      split at h
      · rcases List.mem_cons.mp h with rfl | hrest
        · exact le_of_mem_raisedPairs (Array.mem_of_getElem? hentry)
        · exact ih hrest
      · simp at h
    · simp at h

/-- An ASCII character other than `n` whose lower case is `n` is the capital of a letter. -/
theorem of_mem_raisedCodes {n m : Nat} (h : m ∈ raisedCodes n) (hm : m < 128) :
    97 ≤ n ∧ n ≤ 122 := by
  rcases List.mem_append.mp h with hcapital | hfar
  · split at hcapital
    · assumption
    · simp at hcapital
  · have hle : 128 ≤ m := by
      split at hfar
      · exact le_of_mem_raisedAt hfar
      · simp at hfar
    omega

theorem caseKin_eq (n : Nat) : caseKin n = findCaseKin n := by
  unfold caseKin
  split
  · next kin hkin =>
    have hmap : asciiCaseKins[n]? = (Array.range 128)[n]?.map findCaseKin := by
      simp [asciiCaseKins]
    rw [hmap] at hkin
    obtain ⟨m, hm, rfl⟩ := Option.map_eq_some_iff.mp hkin
    have hmn : m = n := by
      obtain ⟨hlt, rfl⟩ := Array.getElem?_eq_some_iff.mp hm
      simp
    rw [hmn]
  · rfl

/-- Of the ASCII characters, only itself stands for a character without another case. -/
theorem eq_of_mem_caseKin {n m : Nat} (hn : Caseless n) (hletter : ¬ (97 ≤ n ∧ n ≤ 122))
    (h : m ∈ caseKin n) (hm : m < 128) : m = n := by
  obtain ⟨hlower, hmates⟩ := hn
  rw [caseKin_eq, findCaseKin, hmates, List.flatMap_nil, List.append_nil, loweringTo,
    if_pos hlower] at h
  rcases List.mem_append.mp h with hself | hraised
  · exact List.mem_singleton.mp hself
  · exact absurd (of_mem_raisedCodes hraised hm) hletter

/-- Only of the empty text nothing is left in lower case. -/
theorem lower_eq_empty {s : String} (h : lower s = "") : s = "" := by
  have hempty : lowerFrom [] s.toList = [] := by
    rw [← String.toList_ofList (l := lowerFrom [] s.toList)]
    exact congrArg String.toList h
  cases hs : s.toList with
  | nil => exact String.toList_eq_nil_iff.mp hs
  | cons c rest =>
    rw [hs, lowerFrom] at hempty
    have himage := (List.append_eq_nil_iff.mp hempty).1
    split at himage
    · exact nomatch himage
    · split at himage <;> exact nomatch himage

/-! ## Beginnings in whichever case -/

theorem getD_le_of_lastAtMost {keys : Array Nat} {n i : Nat} (h : lastAtMost keys n = some i) :
    keys[i]?.getD 0 ≤ n := by
  -- everything before the lower end of the search has been seen to be small enough
  have hgo (fuel lo hi : Nat) (hlo : lo = 0 ∨ keys[lo - 1]?.getD 0 ≤ n)
      (h : lastAtMost.go keys n lo hi fuel = some i) : keys[i]?.getD 0 ≤ n := by
    induction fuel generalizing lo hi with
    | zero => grind [lastAtMost.go]
    | succ fuel ih => grind [lastAtMost.go]
  exact hgo _ 0 _ (.inl rfl) h

theorem ShiftTable.mem_pairs_of_image? {runs : List Shift} {n image : Nat}
    (h : (ofRuns runs).image? n = some image) : (n, image) ∈ (ofRuns runs).pairs := by
  unfold image? at h
  split at h
  · exact nomatch h
  · next i hi =>
    split at h
    · exact nomatch h
    · next run hrun =>
      split at h
      · next hin =>
        have hfirst : run.first ≤ n := by
          have hle := getD_le_of_lastAtMost hi
          have hkey : (ofRuns runs).firsts[i]? = some run.first := by
            have hget : runs[i]? = some run := by simpa [ofRuns] using hrun
            simp [ofRuns, hget]
          rwa [hkey] at hle
        obtain rfl := Option.some.inj h
        refine List.mem_flatMap.mpr ⟨run, Array.mem_toList_iff.mpr (Array.mem_of_getElem? hrun), ?_⟩
        have hn : run.first + (n - run.first) / run.step * run.step = n := by
          rw [Nat.div_mul_cancel (Nat.dvd_of_mod_eq_zero hin.2), Nat.add_sub_cancel' hfirst]
        have hcount : (n - run.first) / run.step ≤ (run.last - run.first) / run.step :=
          Nat.div_le_div_right (Nat.sub_le_sub_right hin.1 _)
        refine List.mem_map.mpr
          ⟨(n - run.first) / run.step, List.mem_range.mpr (Nat.lt_succ_of_le hcount), ?_⟩
        dsimp only
        rw [hn]
      · exact nomatch h

/-- Code points that are the lower case of themselves and of ASCII characters only: those of the
letters of schemes, of the signs behind these, and of the long s. -/
def ownLowerCodes : List Nat := [0x2f, 0x3a, 0x66, 0x68, 0x70, 0x73, 0x74, 0x17f]

theorem lt_or_eq_of_lowerCode {n : Nat} (h : lowerCode n ∈ ownLowerCodes) :
    n < 128 ∨ n = lowerCode n := by
  have hpairs : ∀ pair ∈ lowerTable.pairs, pair.2 ∉ ownLowerCodes := by decide +kernel
  by_cases hn : n < 128
  · exact .inl hn
  · have hlower : lowerCode n = (lowerTable.image? n).getD n := by rw [lowerCode, if_neg hn]
    right
    rw [hlower] at h ⊢
    cases himage : lowerTable.image? n with
    | none => rfl
    | some image =>
      rw [himage] at h
      exact absurd h (hpairs _ (ShiftTable.mem_pairs_of_image? himage))

/-- Two characters that differ in case at most: they share a lower case, or an upper case. -/
def SameButCase (c d : Char) : Prop :=
  lowerCode d.toNat = lowerCode c.toNat ∨ lowerCode d.toNat ∈ upperCaseMates (lowerCode c.toNat)

/-- A text begins with a word, in whichever case its characters are. -/
def BeginsCaseless (text word : String) : Prop :=
  ∃ front back, text.toList = front ++ back ∧ List.Forall₂ SameButCase word.toList front

/-- What has a beginning in lower case has one that is as long, character by character. -/
theorem exists_of_lowerFrom {signs before cs : List Char} (h : signs <+: lowerFrom before cs)
    (hsigns : ∀ sign ∈ signs, sign.toNat ∈ ownLowerCodes) :
    ∃ front back, cs = front ++ back ∧
      List.Forall₂ (fun sign c => lowerCode c.toNat = sign.toNat) signs front := by
  induction signs generalizing before cs with
  | nil => exact ⟨[], cs, rfl, .nil⟩
  | cons sign signs ih =>
    obtain ⟨hsign, hrest⟩ := List.forall_mem_cons.mp hsigns
    cases cs with
    | nil => exact absurd (List.prefix_nil.mp h) (List.cons_ne_nil _ _)
    | cons c rest =>
      have hne {d : Char} (hd : d.toNat ∉ ownLowerCodes) : sign ≠ d := fun he => hd (he ▸ hsign)
      -- what a capital sigma or a dotted capital i becomes is not among the signs
      rw [lowerFrom] at h
      split at h
      · have hsigma := (List.cons_prefix_cons.mp h).1
        split at hsigma <;> exact absurd hsigma (hne (by decide))
      · split at h
        · exact absurd (List.cons_prefix_cons.mp h).1 (hne (by decide))
        · obtain ⟨hhead, htail⟩ := List.cons_prefix_cons.mp h
          obtain ⟨front, back, rfl, hfront⟩ := ih htail hrest
          have hvalid : (lowerCode c.toNat).isValidChar := by
            by_contra hinvalid
            have hzero : sign.toNat = 0 := by rw [hhead, Char.ofNat, dif_neg hinvalid]; rfl
            exact absurd (hzero ▸ hsign) (by decide)
          refine ⟨c :: front, back, rfl, .cons ?_ hfront⟩
          rw [hhead, Char.ofNat, dif_pos hvalid]
          rfl

end MailTriage.Text

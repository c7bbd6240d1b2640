import MailTriage.Proofs.Link.Words
import MailTriage.Proofs.Pattern.Completeness

/-!
# Bare sites in a text

A bare site is found in a text exactly when the text has a word of a site in it that stands free:
nothing that could belong to it comes before it, and it ends at the edge of a word. Of ASCII
characters, the words of a site are labels joined by points, and the last of them has letters only.
-/

namespace MailTriage.Link

open Pattern Text

/-! ## Letters and digits of ASCII -/

theorem self_mem_caseKin {n : Nat} (h : lowerCode n = n) : n ∈ caseKin n := by
  rw [caseKin_eq, findCaseKin, loweringTo, if_pos h]
  simp

theorem setTakes_of_lowered {items : List Item} (hascii : items.all isAsciiItem = true)
    (hcased : items.any flags.itemCased = true) {n : Nat} (hn : n < 128)
    (h : items.any (flags.itemHolds (flags.lowered n)) = true) : flags.setTakes items n = true := by
  have hlowered : ∀ n < 128, lowerCode (lowerCode n) = lowerCode n ∧ lowerCode n ≤ 0xffff := by
    decide +kernel
  obtain ⟨hself, hplane⟩ := hlowered n hn
  have hkin : lowerCode n ∈ flags.kin (lowerCode n) := self_mem_caseKin hself
  have hlower : flags.lowered n = lowerCode n := rfl
  obtain ⟨item, hitem, hholds⟩ := List.any_eq_true.mp h
  have hitem' := List.all_eq_true.mp hascii item hitem
  rw [Flags.setTakes, hcased]
  refine List.any_eq_true.mpr ⟨item, hitem, ?_⟩
  rw [hlower] at hholds ⊢
  cases item with
  | single code =>
    have heq : lowerCode n = code := by simpa [Flags.itemHolds] using hholds
    rw [heq] at hkin hplane ⊢
    simp only [Flags.itemTakes]
    split
    · simp
    · simp [hplane, hkin]
  | span first last =>
    rw [Flags.itemTakes, Bool.or_eq_true]
    refine .inl (Bool.and_eq_true_iff.mpr ⟨by simpa using hplane,
      List.any_eq_true.mpr ⟨lowerCode n, hkin, ?_⟩⟩)
    simpa [Flags.itemHolds, hplane] using hholds
  | family => simp [isAsciiItem] at hitem'

/-- A character of ASCII. -/
def IsAscii (c : Char) : Prop := c.toNat < 128

instance (c : Char) : Decidable (IsAscii c) := inferInstanceAs (Decidable (_ < 128))

theorem isAscii_of_isAlphanum {c : Char} (h : c.isAlphanum = true) : IsAscii c := by
  simp only [Char.isAlphanum, Char.isAlpha, Char.isUpper, Char.isLower, Char.isDigit,
    Bool.or_eq_true,
    Bool.and_eq_true, decide_eq_true_eq, UInt32.le_iff_toNat_le, ge_iff_le] at h
  have hupper : 'Z'.val.toNat = 90 := rfl
  have hlower : 'z'.val.toNat = 122 := rfl
  have hdigit : '9'.val.toNat = 57 := rfl
  change c.val.toNat < 128
  omega

section Ascii

variable {c : Char} (h : IsAscii c)

include h

theorem setTakes_eq {items : List Item} {p : Char → Bool} (hascii : items.all isAsciiItem = true)
    (hcased : items.any flags.itemCased = true)
    (hletters : ∀ n < 128, 97 ≤ n ∧ n ≤ 122 → items.any (flags.itemHolds n) = true)
    (hp : ∀ n < 128, items.any (flags.itemHolds (flags.lowered n)) = p (Char.ofNat n)) :
    flags.setTakes items c.toNat = p c := by
  have hcaseless : ∀ n < 128, flags.lowered n < 128 ∧ 97 ≤ flags.lowered n ∧ flags.lowered n ≤ 122 ∨
      flags.lowered n = n ∧ Caseless n ∧ ¬ (97 ≤ n ∧ n ≤ 122) := by decide +kernel
  have hholds :
      flags.setTakes items c.toNat = items.any (flags.itemHolds (flags.lowered c.toNat)) := by
    rw [Bool.eq_iff_iff]
    refine ⟨fun htakes => ?_, setTakes_of_lowered hascii hcased h⟩
    rcases hcaseless c.toNat h with ⟨hlt, hletter⟩ | ⟨hlowered, hcaseless, hletter⟩
    · exact hletters _ hlt hletter
    · rw [hlowered]
      exact any_itemHolds_of_setTakes rfl hascii hcaseless hletter htakes
  rw [hholds, hp c.toNat h, Char.ofNat_toNat]

theorem isWordChar_eq : isWordChar c = (c.isAlphanum || c == '_') := if_pos h

theorem setTakes_lettersAndDigits : flags.setTakes lettersAndDigits c.toNat = c.isAlphanum :=
  setTakes_eq h (by decide) (by decide) (by decide +kernel) (by decide +kernel)

theorem setTakes_inner :
    flags.setTakes (lettersAndDigits ++ [one '-']) c.toNat = (c.isAlphanum || c == '-') :=
  setTakes_eq (p := fun c => c.isAlphanum || c == '-') h (by decide) (by decide) (by decide +kernel)
    (by decide +kernel)

theorem setTakes_letters : flags.setTakes letters c.toNat = c.isAlpha :=
  setTakes_eq h (by decide) (by decide) (by decide +kernel) (by decide +kernel)

end Ascii

/-! ## Labels -/

/-- A word of letters, digits and inner hyphens, at most sixty-three of them. -/
structure IsLabel (word : List Char) : Prop where
  length_le : word.length ≤ 63
  allowed : ∀ c ∈ word, c.isAlphanum = true ∨ c = '-'
  first : ∃ c ∈ word.head?, c.isAlphanum = true
  last : ∃ c ∈ word.getLast?, c.isAlphanum = true

theorem IsLabel.point_not_mem {word : List Char} (h : IsLabel word) : '.' ∉ word := by
  intro hc
  have hpoint : ¬ (('.').isAlphanum = true ∨ '.' = '-') := by decide
  exact hpoint (h.allowed '.' hc)

theorem mem_oneOf_iff {items : List Item} {word : List Char} :
    word ∈ (Node.oneOf false items).language flags ↔
      ∃ c, word = [c] ∧ flags.setTakes items c.toNat = true := by
  have htakes : (Node.oneOf false items).language flags = oneWhere fun n =>
      flags.setTakes items n != false := rfl
  rw [htakes]
  simp only [Bool.bne_false]
  rfl

theorem mem_repeated_oneOf_iff {items : List Item} {appetite : Appetite} {least : Nat}
    {most : Option Nat} {word : List Char} :
    word ∈ (Node.repeated appetite least most (.oneOf false items)).language flags ↔
      (∀ c ∈ word, flags.setTakes items c.toNat = true) ∧ least ≤ word.length ∧
        ∀ n, most = some n → word.length ≤ max least n := by
  have htakes : (Node.repeated appetite least most (.oneOf false items)).language flags =
      addedTo 0 least most (oneWhere fun n => flags.setTakes items n != false) := rfl
  rw [htakes, mem_addedTo_oneWhere_iff]
  simp only [Bool.bne_false]

theorem mem_maybe_iff {node : Node} {word : List Char} :
    word ∈ (maybe node).language flags ↔ word = [] ∨ word ∈ node.language flags := by
  refine ⟨mem_maybe, ?_⟩
  rintro (rfl | h)
  · exact nil_mem_addedTo le_rfl
  · exact ⟨[word], by simp, by simpa using h, by simp, by simp⟩

theorem mem_label_iff {word : List Char} (hascii : ∀ c ∈ word, IsAscii c) :
    word ∈ label.language flags ↔ IsLabel word := by
  constructor
  · rintro ⟨first, hfirst, rest, hrest, rfl⟩
    obtain ⟨c, rfl, hc⟩ := mem_oneOf_iff.mp hfirst
    rw [setTakes_lettersAndDigits (hascii c (by simp))] at hc
    rcases mem_maybe_iff.mp hrest with rfl | ⟨inner, hinner, last, hlast, rfl⟩
    · exact ⟨by simp, by simp [hc], by simp [hc], by simp [hc]⟩
    · obtain ⟨d, rfl, hd⟩ := mem_oneOf_iff.mp hlast
      rw [setTakes_lettersAndDigits (hascii d (by simp))] at hd
      obtain ⟨hinner, -, hlength⟩ := mem_repeated_oneOf_iff.mp hinner
      have hlength := hlength 61 rfl
      refine ⟨?_, ?_, ⟨c, rfl, hc⟩, ⟨d, ?_, hd⟩⟩
      · simp only [List.length_append, List.length_singleton]
        omega
      · intro e he
        simp only [List.mem_append, List.mem_singleton] at he
        rcases he with rfl | he | rfl
        · exact .inl hc
        · have htakes := hinner e he
          rw [setTakes_inner (hascii e (by simp [he]))] at htakes
          simpa using htakes
        · exact .inl hd
      · change ((c :: inner) ++ [d]).getLast? = some d
        exact List.getLast?_concat
  · rintro ⟨hlength, hallowed, ⟨c, hc, hfirst⟩, ⟨d, hd, hlast⟩⟩
    obtain ⟨rest, rfl⟩ : ∃ rest, word = c :: rest := by
      cases word with
      | nil => simp at hc
      | cons c' rest => exact ⟨rest, by simpa using hc⟩
    refine ⟨[c], mem_oneOf_iff.mpr ⟨c, rfl, ?_⟩, rest, mem_maybe_iff.mpr ?_, rfl⟩
    · rwa [setTakes_lettersAndDigits (hascii c (by simp))]
    · rcases List.eq_nil_or_concat rest with rfl | ⟨inner, e, rfl⟩
      · exact .inl rfl
      · rw [List.concat_eq_append] at *
        have hend : ((c :: inner) ++ [e]).getLast? = some e := List.getLast?_concat
        have heq : d = e := by
          rw [List.cons_append] at hend
          exact Option.some.inj (hd.symm.trans hend)
        refine .inr ⟨inner, mem_repeated_oneOf_iff.mpr ⟨?_, by simp, ?_⟩, [e],
          mem_oneOf_iff.mpr ⟨e, rfl, ?_⟩, rfl⟩
        · intro x hx
          rw [setTakes_inner (hascii x (by simp [hx]))]
          simpa using hallowed x (by simp [hx])
        · rintro n ⟨⟩
          simp only [List.length_cons, List.length_append, List.length_nil] at hlength
          omega
        · rw [setTakes_lettersAndDigits (hascii e (by simp)), ← heq]
          exact hlast

/-! ## Labels joined by points -/

def dotted : List (List Char) → List Char
  | [] => []
  | first :: rest => first ++ rest.flatMap ('.' :: ·)

theorem dotted_concat {words : List (List Char)} (h : words ≠ []) (last : List Char) :
    dotted (words ++ [last]) = dotted words ++ '.' :: last := by
  cases words with
  | nil => exact absurd rfl h
  | cons first rest => simp [dotted]

theorem dotted_cons {words : List (List Char)} (h : words ≠ []) (first : List Char) :
    dotted (first :: words) = first ++ '.' :: dotted words := by
  cases words with
  | nil => exact absurd rfl h
  | cons second rest => simp [dotted]

/-- Joined words, with the one that `last` begins, are those before it up to `last`, and what is
left. -/
theorem dotted_append (words : List (List Char)) (last tail : List Char) (rest : List (List Char)) :
    dotted (words ++ (last ++ tail) :: rest) = dotted (words ++ [last]) ++
      (tail ++ rest.flatMap ('.' :: ·)) := by
  cases words <;> simp [dotted]

theorem mem_char_point_iff {word : List Char} :
    word ∈ (char '.').language flags ↔ word = ['.'] := by
  refine ⟨eq_of_mem_char (by decide), ?_⟩
  rintro rfl
  exact ⟨'.', rfl, by decide⟩

theorem mem_dotted_of_mem {words : List (List Char)} {word : List Char} (hword : word ∈ words)
    {c : Char} (hc : c ∈ word) : c ∈ dotted words := by
  cases words with
  | nil => simp at hword
  | cons first rest =>
    rw [dotted, List.mem_append, List.mem_flatMap]
    rcases List.mem_cons.mp hword with rfl | hrest
    · exact .inl hc
    · exact .inr ⟨word, hrest, List.mem_cons_of_mem _ hc⟩

theorem eq_or_exists_of_mem_dotted {words : List (List Char)} {c : Char} (h : c ∈ dotted words) :
    c = '.' ∨ ∃ word ∈ words, c ∈ word := by
  cases words with
  | nil => simp [dotted] at h
  | cons first rest =>
    rw [dotted, List.mem_append, List.mem_flatMap] at h
    rcases h with h | ⟨word, hword, h⟩
    · exact .inr ⟨first, by simp, h⟩
    · rcases List.mem_cons.mp h with h | h
      · exact .inl h
      · exact .inr ⟨word, by simp [hword], h⟩

theorem mem_site_iff {word : List Char} :
    word ∈ site.language flags ↔
      ∃ labels ≠ [], (∀ word ∈ labels, word ∈ label.language flags) ∧ word = dotted labels := by
  constructor
  · rintro ⟨first, hfirst, _, ⟨words, rfl, hwords, -⟩, rfl⟩
    have htails : ∃ labels : List (List Char), (∀ word ∈ labels, word ∈ label.language flags) ∧
        words.flatten = labels.flatMap ('.' :: ·) := by
      induction words with
      | nil => exact ⟨[], by simp, rfl⟩
      | cons word rest ih =>
        obtain ⟨⟨point, hpoint, last, hlast, rfl⟩, hrest⟩ := List.forall_mem_cons.mp hwords
        obtain rfl := mem_char_point_iff.mp hpoint
        obtain ⟨labels, hlabels, heq⟩ := ih hrest
        refine ⟨last :: labels, List.forall_mem_cons.mpr ⟨hlast, hlabels⟩, ?_⟩
        rw [List.flatten_cons, heq]
        rfl
    obtain ⟨labels, hlabels, heq⟩ := htails
    refine ⟨first :: labels, by simp, List.forall_mem_cons.mpr ⟨hfirst, hlabels⟩, ?_⟩
    rw [dotted, ← heq]
  · rintro ⟨labels, hne, hlabels, rfl⟩
    cases labels with
    | nil => exact absurd rfl hne
    | cons first rest =>
      obtain ⟨hfirst, hrest⟩ := List.forall_mem_cons.mp hlabels
      refine ⟨first, hfirst, _,
        ⟨rest.map ('.' :: ·), by rw [List.flatMap_def], ?_, by simp, by simp⟩, rfl⟩
      intro word hword
      obtain ⟨last, hlast, rfl⟩ := List.mem_map.mp hword
      exact ⟨['.'], mem_char_point_iff.mpr rfl, last, hrest last hlast, rfl⟩

/-! ## Bare sites -/

/-- What a bare site is made of, between the look at what comes before it and the look at its
end. -/
def bareParts : List Node :=
  [maybe (Node.ofText "www."), site, char '.', .repeated .greedy 2 none (.oneOf false letters),
    siteNumber, path]

/-- Labels joined by points, the last of letters only. -/
structure IsBareSite (labels : List (List Char)) (last : List Char) : Prop where
  ne_nil : labels ≠ []
  labels : ∀ label ∈ labels, IsLabel label
  two_le : 2 ≤ last.length
  letters : ∀ c ∈ last, c.isAlpha = true

namespace IsBareSite

variable {labels : List (List Char)} {last : List Char} (h : IsBareSite labels last)

include h

theorem allowed {c : Char} (hc : c ∈ dotted (labels ++ [last])) :
    c.isAlphanum = true ∨ c = '-' ∨ c = '.' := by
  rcases eq_or_exists_of_mem_dotted hc with rfl | ⟨word, hword, hc⟩
  · exact .inr (.inr rfl)
  · rcases List.mem_append.mp hword with hword | hword
    · exact ((h.labels word hword).allowed c hc).imp_right .inl
    · rw [List.mem_singleton.mp hword] at hc
      refine .inl ?_
      rw [Char.isAlphanum, h.letters c hc, Bool.true_or]

/-- A bare site begins with a letter or a digit. -/
theorem exists_first : ∃ c ∈ (dotted (labels ++ [last])).head?, c.isAlphanum = true := by
  obtain ⟨first, labels, rfl⟩ := List.exists_cons_of_ne_nil h.ne_nil
  obtain ⟨c, hc, hfirst⟩ := (h.labels first (by simp)).first
  refine ⟨c, ?_, hfirst⟩
  rw [List.cons_append, dotted, List.head?_append, Option.mem_def.mp hc]
  rfl

theorem getLast?_any (before : List Char) :
    (before ++ dotted (labels ++ [last])).getLast?.any isWordChar = true := by
  obtain ⟨init, c, rfl⟩ : ∃ init c, last = init ++ [c] := by
    rcases List.eq_nil_or_concat last with rfl | ⟨init, c, rfl⟩
    · exact absurd h.two_le (by simp)
    · exact ⟨init, c, List.concat_eq_append⟩
  have hc : c.isAlphanum = true := by
    rw [Char.isAlphanum, h.letters c (by simp), Bool.true_or]
  rw [dotted_concat h.ne_nil, ← List.cons_append, ← List.append_assoc, ← List.append_assoc,
    List.getLast?_concat]
  simp [isWordChar_eq (isAscii_of_isAlphanum hc), hc]

end IsBareSite

theorem exists_label_of_mem_www {word : List Char} (hascii : ∀ c ∈ word, IsAscii c)
    (h : word ∈ (Node.ofText "www.").language flags) :
    ∃ label, IsLabel label ∧ word = label ++ ['.'] := by
  have hletter :
      ∀ n < 128, flags.literalTakes 'w'.toNat n = true → (Char.ofNat n).isAlphanum = true := by
    decide +kernel
  have hsigns : "www.".toList = ['w', 'w', 'w', '.'] := by decide
  rw [ofText_language, hsigns] at h
  obtain ⟨_, ⟨a, rfl, ha⟩, _,
    ⟨_, ⟨b, rfl, hb⟩, _, ⟨_, ⟨c, rfl, hc⟩, _, ⟨point, hpoint, _, rfl, rfl⟩, rfl⟩,
    rfl⟩, rfl⟩ := h
  obtain rfl := mem_char_point_iff.mp hpoint
  have hall : ∀ d ∈ [a, b, c], d.isAlphanum = true := by
    intro d hd
    have htakes : flags.literalTakes 'w'.toNat d.toNat = true := by
      simp only [List.mem_cons, List.not_mem_nil, or_false] at hd
      rcases hd with rfl | rfl | rfl
      · simpa using ha
      · simpa using hb
      · simpa using hc
    have hd' : IsAscii d := hascii d (List.mem_append_left ['.'] hd)
    simpa using hletter d.toNat hd' htakes
  refine ⟨[a, b, c], ⟨by simp, fun d hd => .inl (hall d hd), ⟨a, rfl, ?_⟩, ⟨c, rfl, ?_⟩⟩, rfl⟩
  · exact hall a (by simp)
  · exact hall c (by simp)

section Words

variable {labels : List (List Char)} {last : List Char}

theorem IsBareSite.mem_bareParts (h : IsBareSite labels last) :
    dotted (labels ++ [last]) ∈ (bareParts.map (Node.language flags)).prod := by
  have hascii {c : Char} (hc : c ∈ dotted (labels ++ [last])) : IsAscii c := by
    rcases h.allowed hc with hc | rfl | rfl
    · exact isAscii_of_isAlphanum hc
    · decide
    · decide
  have hhost : dotted labels ∈ site.language flags := by
    refine mem_site_iff.mpr ⟨labels, h.ne_nil, fun label hlabel => ?_, rfl⟩
    refine (mem_label_iff fun c hc => hascii ?_).mpr (h.labels label hlabel)
    exact mem_dotted_of_mem (List.mem_append_left _ hlabel) hc
  have hpoint : ['.'] ∈ (char '.').language flags := mem_char_point_iff.mpr rfl
  have hlast :
      last ∈ (Node.repeated .greedy 2 none (.oneOf false Link.letters)).language flags := by
    refine mem_repeated_oneOf_iff.mpr ⟨fun c hc => ?_, h.two_le, by simp⟩
    rw [setTakes_letters (hascii (mem_dotted_of_mem (by simp) hc))]
    exact h.letters c hc
  have hnone (node : Node) : [] ∈ (maybe node).language flags := mem_maybe_iff.mpr (.inl rfl)
  have hword : [] ++ (dotted labels ++ (['.'] ++ (last ++ ([] ++ ([] ++ []))))) ∈
      (bareParts.map (Node.language flags)).prod :=
    Language.append_mem_mul (hnone _) <| Language.append_mem_mul hhost <|
      Language.append_mem_mul hpoint <|
      Language.append_mem_mul hlast <| Language.append_mem_mul (hnone _) <|
        Language.append_mem_mul (hnone _) rfl
  rw [dotted_concat h.ne_nil]
  simpa using hword

/-- Of ASCII characters, and without a number and a path, the words of a bare site are labels joined
by points. The prefix that may come first is a label like the others. -/
theorem mem_bareParts_iff {word : List Char} (hascii : ∀ c ∈ word, IsAscii c) (hcolon : ':' ∉ word)
    (hslash : '/' ∉ word) :
    word ∈ (bareParts.map (Node.language flags)).prod ↔
      ∃ labels last, IsBareSite labels last ∧ word = dotted (labels ++ [last]) := by
  constructor
  · rintro ⟨www, hwww, _, ⟨host, hhost, _, ⟨point, hpoint, _, ⟨last, hlast, _, ⟨number, hnumber, _,
      ⟨path, hpath, _, rfl, rfl⟩, rfl⟩, rfl⟩, rfl⟩, rfl⟩, rfl⟩
    obtain rfl := mem_char_point_iff.mp hpoint
    have hnumber : number = [] := by
      rcases mem_siteNumber hnumber with hnil | ⟨digits, rfl, -⟩
      · exact hnil
      · simp at hcolon
    have hpath : path = [] := by
      rcases mem_path hpath with hnil | ⟨rest, rfl⟩
      · exact hnil
      · simp at hslash
    subst hnumber hpath
    simp only [List.append_nil, List.mem_append] at hascii
    obtain ⟨hletters, hlength, -⟩ := mem_repeated_oneOf_iff.mp hlast
    obtain ⟨labels, hne, hlabels, rfl⟩ := mem_site_iff.mp hhost
    have hsite : IsBareSite labels last := by
      refine ⟨hne, fun label hlabel => ?_, hlength, fun c hc => ?_⟩
      · refine (mem_label_iff fun c hc => hascii c ?_).mp (hlabels label hlabel)
        exact .inr (.inl (mem_dotted_of_mem hlabel hc))
      · rw [← setTakes_letters (hascii c (by simp [hc]))]
        exact hletters c hc
    have hdotted : dotted (labels ++ [last]) = dotted labels ++ '.' :: last :=
      dotted_concat hne last
    rcases mem_maybe_iff.mp hwww with rfl | hwww
    · exact ⟨labels, last, hsite, by simp [hdotted]⟩
    · obtain ⟨label, hlabel, rfl⟩ := exists_label_of_mem_www (fun c hc => hascii c (.inl hc)) hwww
      refine ⟨label :: labels, last, { hsite with ne_nil := by simp, labels := ?_ }, ?_⟩
      · exact List.forall_mem_cons.mpr ⟨hlabel, hsite.labels⟩
      · rw [List.cons_append, dotted_cons (by simp), hdotted]
        simp
  · rintro ⟨labels, last, hsite, rfl⟩
    exact hsite.mem_bareParts

end Words

/-! ## Sites that stand free -/

/-- What must not come right before a bare site, as the pattern has it. -/
def guards : List Item := [one '@', .family .word false, one '.', one '-']

/-- A character that keeps a bare site from beginning right after it. -/
def isGuard (c : Char) : Bool := isWordChar c || c == '@' || c == '.' || c == '-'

theorem belongs_word (c : Char) : flags.belongs .word c.toNat = isWordChar c := by
  simp [Flags.belongs]

theorem setTakes_guards (c : Char) : flags.setTakes guards c.toNat = isGuard c := by
  have hcased : guards.any flags.itemCased = false := by decide +kernel
  have hsign (sign : Char) : flags.itemHolds c.toNat (one sign) = (c == sign) := by
    simp [Flags.itemHolds, one, Char.toNat_inj]
  rw [Flags.setTakes, hcased]
  have hword : flags.itemHolds c.toNat (.family .word false) = isWordChar c := by
    simp [Flags.itemHolds, belongs_word]
  simp only [Bool.and_false, Bool.false_eq_true, if_false, guards, List.any_cons, List.any_nil,
    hsign, hword, isGuard]
  cases isWordChar c <;> simp [Bool.or_assoc]

/-- A word of a bare site that stands free between two parts of a text: nothing that could belong to
it comes before it, and it ends at the edge of a word. -/
structure StandsFree (before word after : List Char) : Prop where
  mem : word ∈ (bareParts.map (Node.language flags)).prod
  free : before.getLast?.any isGuard = false
  edge : (before ++ word).getLast?.any isWordChar ≠ after.head?.any isWordChar

theorem isSome_matchAt?_barePattern (before rest : List Char) :
    (barePattern.matchAt? (before ++ rest).toArray before.length).isSome = true ↔
      ∃ word after, rest = word ++ after ∧ StandsFree before word after := by
  have hroot : barePattern.root =
      .seq (.behind true 1 1 (.oneOf false guards))
        (Node.ofList (bareParts ++ [.anchor .wordEdge])) := rfl
  have hflags : barePattern.flags = flags := rfl
  have hplain : ∀ node ∈ bareParts, node.isPlain = true := by decide
  have hsize : before.length ≤ (before ++ rest).toArray.size := by simp
  have hedge (word after : List Char) (h : rest = word ++ after) :
      Anchor.wordEdge.holds (before ++ rest).toArray flags (before.length + word.length) =
        ((before ++ word).getLast?.any isWordChar != after.head?.any isWordChar) := by
    rw [h, ← List.append_assoc, ← List.length_append, holds_wordEdge]
    simp only [belongs_word]
  have hanchor (place : Nat) (marks : Array (Option Nat)) :
      ((Node.anchor .wordEdge).run (before ++ rest).toArray flags ⟨place, marks⟩
        some).isSome = true ↔
        Anchor.wordEdge.holds (before ++ rest).toArray flags place = true := by
    rw [Node.run]
    split <;> simp_all
  rw [isSome_matchAt?, hroot, hflags, Node.run, run_behind_oneOf]
  simp only [setTakes_guards]
  split
  · next hguard =>
    refine iff_of_false (by simp) ?_
    rintro ⟨_, _, _, h⟩
    rw [h.free] at hguard
    exact Bool.noConfusion hguard
  · next hguard =>
    rw [Node.isSome_run_ofList hplain hsize]
    simp only [Reaches, hanchor]
    constructor
    · rintro ⟨stop, hle, hstop, hword, hholds⟩
      obtain ⟨n, rfl⟩ := Nat.exists_eq_add_of_le hle
      have hn : n ≤ rest.length := by simpa using hstop
      rw [slice_between] at hword
      refine ⟨rest.take n, rest.drop n, (List.take_append_drop n rest).symm,
        hword, by simpa using hguard, ?_⟩
      rw [← bne_iff_ne, ← hedge _ _ (List.take_append_drop n rest).symm, List.length_take_of_le hn]
      exact hholds
    · rintro ⟨word, after, rfl, h⟩
      refine ⟨before.length + word.length, by omega, by simp, ?_, ?_⟩
      · rw [slice_between, List.take_left]
        exact h.mem
      · rw [hedge word after rfl, bne_iff_ne]
        exact h.edge

theorem found_barePattern_eq_nil_iff {text : String} :
    found barePattern text = [] ↔
      ∀ before word after, text.toList = before ++ (word ++ after) →
        ¬ StandsFree before word after := by
  rw [found, List.map_eq_nil_iff, allMatches_eq_nil_iff]
  constructor
  · intro h before word after htext hfree
    have hnone := h before.length (by rw [htext]; simp)
    rw [htext] at hnone
    have hsome := (isSome_matchAt?_barePattern before (word ++ after)).mpr ⟨word, after, rfl, hfree⟩
    rw [hnone] at hsome
    exact Bool.noConfusion hsome
  · intro h place hplace
    obtain ⟨before, rest, htext, rfl⟩ :
        ∃ before rest, text.toList = before ++ rest ∧ place = before.length :=
      ⟨text.toList.take place, text.toList.drop place, (List.take_append_drop ..).symm,
        (List.length_take_of_le (by simpa using hplace)).symm⟩
    rw [← Option.not_isSome_iff_eq_none, htext, isSome_matchAt?_barePattern]
    rintro ⟨word, after, rfl, hfree⟩
    exact h before word after htext hfree

theorem found_schemePattern_eq_nil {text : String} (h : ':' ∉ text.toList) :
    found schemePattern text = [] := by
  rw [found, List.map_eq_nil_iff, List.eq_nil_iff_forall_not_mem]
  intro hit hhit
  obtain ⟨name, host, number, path, hword, -⟩ :=
    mem_schemePattern (slice_mem_language_of_mem_allMatches hhit)
  have hcolon : ':' ∈ slice text.toList.toArray hit.first hit.last := by
    rw [hword]
    simp
  rw [slice_eq_take_drop] at hcolon
  exact h (List.mem_of_mem_drop (List.mem_of_mem_take hcolon))

end MailTriage.Link

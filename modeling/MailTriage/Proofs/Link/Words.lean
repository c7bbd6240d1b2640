import MailTriage.Link.Extraction
import MailTriage.Proofs.Pattern.Language
import MailTriage.Proofs.Text.Case

/-!
# The words of addresses

What the patterns of links take, part by part. A site has no delimiter of an address in it and
nothing that could turn into one, although it is matched without regard to case and so takes more
than ASCII; a colon after it is followed by a digit, and a path begins with a slash.
-/

namespace MailTriage.Link

open Pattern Text

/-! ## Characters that no site holds -/

/-- Slash, colon and brackets, and what may turn into a delimiter. -/
def delimiters : List Nat := [0x2f, 0x3a, 0x5b, 0x5d] ++ Url.deceptiveCodes

/-- A member of a set that holds ASCII characters only. -/
def isAsciiItem : Item → Bool
  | .single code => code < 128
  | .span _ last => last < 128
  | .family .. => false

/-- A character without another case is only taken by a set of ASCII characters that it is written
in. -/
theorem any_itemHolds_of_setTakes {flags : Flags} (hunicode : flags.unicode = true)
    {items : List Item} (hascii : items.all isAsciiItem = true) {n : Nat} (hn : Caseless n)
    (hletter : ¬ (97 ≤ n ∧ n ≤ 122)) (h : flags.setTakes items n = true) :
    items.any (flags.itemHolds n) = true := by
  unfold Flags.setTakes at h
  split at h
  · obtain ⟨item, hitem, htakes⟩ := List.any_eq_true.mp h
    have hlow : flags.lowered n = n := by rw [Flags.lowered, if_pos hunicode, hn.1]
    have hkin : flags.kin n = caseKin n := by rw [Flags.kin, if_pos hunicode]
    have hself {m : Nat} (hm : m ∈ flags.kin n) (hlt : m < 128) : m = n :=
      eq_of_mem_caseKin hn hletter (hkin ▸ hm) hlt
    have hitem' := List.all_eq_true.mp hascii item hitem
    refine List.any_eq_true.mpr ⟨item, hitem, ?_⟩
    rw [hlow] at htakes
    cases item with
    | single code =>
      have hcode : code < 128 := by simpa [isAsciiItem] using hitem'
      have heq : code = n := by
        rw [Flags.itemTakes] at htakes
        split at htakes
        · exact (beq_iff_eq.mp htakes).symm
        · exact hself (List.contains_iff_mem.mp (Bool.and_eq_true_iff.mp htakes).2) hcode
      simp [Flags.itemHolds, heq]
    | span first last =>
      have hlast : last < 128 := by simpa [isAsciiItem] using hitem'
      have hplane : decide (0xffff < last) = false := by
        rw [decide_eq_false_iff_not]
        omega
      rw [Flags.itemTakes] at htakes
      simp only [hplane, Bool.false_and, Bool.or_false] at htakes
      obtain ⟨m, hm, hbounds⟩ := List.any_eq_true.mp (Bool.and_eq_true_iff.mp htakes).2
      simp only [Bool.and_eq_true, decide_eq_true_eq] at hbounds
      have heq : m = n := hself hm (by omega)
      simp only [Flags.itemHolds, Bool.and_eq_true, decide_eq_true_eq]
      omega
    | family => simp [isAsciiItem] at hitem'
  · exact h

/-- A site matched without regard to case has no delimiter in it. -/
theorem setTakes_delimiter {flags : Flags} (hunicode : flags.unicode = true) {items : List Item}
    (hascii : items.all isAsciiItem = true) {n : Nat} (hn : n ∈ delimiters)
    (hitems : ∀ n ∈ delimiters, items.any (flags.itemHolds n) = false) :
    flags.setTakes items n = false := by
  have hcaseless : ∀ n ∈ delimiters, Caseless n ∧ ¬ (97 ≤ n ∧ n ≤ 122) := by decide +kernel
  obtain ⟨hn', hletter⟩ := hcaseless n hn
  rw [Bool.eq_false_iff]
  intro h
  have hany := any_itemHolds_of_setTakes hunicode hascii hn' hletter h
  rw [hitems n hn] at hany
  exact Bool.noConfusion hany

/-! ## The parts of an address -/

abbrev flags : Flags := { ignoreCase := true, unicode := true }

/-- A character that a site may hold. -/
def Clean (c : Char) : Prop := c.toNat ∉ delimiters

instance (c : Char) : Decidable (Clean c) := inferInstanceAs (Decidable (c.toNat ∉ delimiters))

theorem oneOf_le_allWhere_clean {items : List Item} (hascii : items.all isAsciiItem = true)
    (hitems : ∀ n ∈ delimiters, items.any (flags.itemHolds n) = false) :
    (Node.oneOf false items).language flags ≤ allWhere Clean := by
  refine oneWhere_le_allWhere fun c hc hmem => ?_
  rw [setTakes_delimiter rfl hascii hmem hitems] at hc
  exact Bool.noConfusion hc

theorem char_le_allWhere_clean {letter : Char}
    (h : ∀ n ∈ delimiters, flags.literalTakes letter.toNat n = false) :
    (char letter).language flags ≤ allWhere Clean := by
  refine oneWhere_le_allWhere fun c hc hmem => ?_
  rw [h c.toNat hmem] at hc
  exact Bool.noConfusion hc

theorem eq_of_mem_char {sign : Char} (h : flags.isCased sign.toNat = false) {word : List Char}
    (hword : word ∈ (char sign).language flags) : word = [sign] := by
  obtain ⟨c, rfl, hc⟩ := hword
  have heq : c.toNat = sign.toNat := by
    simpa [Flags.literalTakes, h] using hc
  rw [Char.toNat_inj.mp heq]

theorem mem_maybe {node : Node} {word : List Char} (h : word ∈ (maybe node).language flags) :
    word = [] ∨ word ∈ node.language flags := by
  obtain ⟨words, rfl, hwords, -, hmost⟩ := h
  have hlength : words.length ≤ 1 := by simpa using hmost 1 rfl
  match words with
  | [] => exact .inl rfl
  | [w] => exact .inr (by simpa using hwords w (by simp))

theorem lettersAndDigits_le : (Node.oneOf false lettersAndDigits).language flags ≤ allWhere Clean :=
  oneOf_le_allWhere_clean (by decide) (by decide +kernel)

theorem label_le : label.language flags ≤ allWhere Clean := by
  have hinner :
      (Node.oneOf false (lettersAndDigits ++ [one '-'])).language flags ≤ allWhere Clean :=
    oneOf_le_allWhere_clean (by decide) (by decide +kernel)
  exact mul_le_allWhere lettersAndDigits_le <|
    addedTo_le_allWhere <| mul_le_allWhere (addedTo_le_allWhere hinner) lettersAndDigits_le

/-- What the patterns hold of letters and points. -/
def fixedSigns : List Char := ['h', 't', 'p', 's', 'f', 'w', '.']

theorem fixedSign_le : ∀ sign ∈ fixedSigns, (char sign).language flags ≤ allWhere Clean := by
  have hclean :
      (fixedSigns.any fun sign => delimiters.any (flags.literalTakes sign.toNat)) = false := by
    decide +kernel
  intro sign hsign
  refine char_le_allWhere_clean fun n hn => ?_
  have hnone := List.any_eq_false.mp hclean sign hsign
  rw [Bool.not_eq_true, List.any_eq_false] at hnone
  exact Bool.eq_false_iff.mpr (hnone n hn)

theorem prod_fixedSigns_le {signs : List Char} (h : signs ⊆ fixedSigns) :
    (signs.map fun c => (char c).language flags).prod ≤ allWhere Clean := by
  refine prod_le_allWhere fun L hL => ?_
  obtain ⟨sign, hsign, rfl⟩ := List.mem_map.mp hL
  exact fixedSign_le sign (h hsign)

theorem site_le : site.language flags ≤ allWhere Clean :=
  mul_le_allWhere label_le <| addedTo_le_allWhere <|
    mul_le_allWhere (fixedSign_le '.' (by decide)) label_le

theorem mem_siteNumber {word : List Char} (h : word ∈ siteNumber.language flags) :
    word = [] ∨ ∃ digits, word = ':' :: digits ∧ digits ≠ [] ∧ ∀ c ∈ digits, Clean c := by
  rcases mem_maybe h with rfl | hnumber
  · exact .inl rfl
  · obtain ⟨colon, hcolon, digits, hdigits, rfl⟩ := hnumber
    have hclean : (Node.oneOf false [range '0' '9']).language flags ≤ allWhere Clean :=
      oneOf_le_allWhere_clean (by decide) (by decide +kernel)
    have hsome : digits ≠ [] := by
      obtain ⟨words, rfl, hwords, hleast, -⟩ := hdigits
      match words with
      | [] => simp at hleast
      | w :: rest =>
        obtain ⟨c, rfl, -⟩ := hwords w (by simp)
        simp
    refine .inr ⟨digits, ?_, hsome, addedTo_le_allWhere hclean hdigits⟩
    rw [eq_of_mem_char (by decide) hcolon]
    rfl

theorem mem_path {word : List Char} (h : word ∈ path.language flags) :
    word = [] ∨ ∃ rest, word = '/' :: rest := by
  rcases mem_maybe h with rfl | ⟨slash, hslash, rest, -, rfl⟩
  · exact .inl rfl
  · rw [eq_of_mem_char (by decide) hslash]
    exact .inr ⟨rest, rfl⟩

theorem ofText_language (s : String) :
    (Node.ofText s).language flags = (s.toList.map fun c => (char c).language flags).prod := by
  rw [Node.ofText, Node.ofList_language, List.map_map]
  rfl

theorem eq_of_mem_prod_chars {signs word : List Char}
    (h : (signs.any fun c => flags.isCased c.toNat) = false)
    (hword : word ∈ (signs.map fun c => (char c).language flags).prod) : word = signs := by
  induction signs generalizing word with
  | nil => exact hword
  | cons sign rest ih =>
    obtain ⟨hsign, hrest⟩ := Bool.or_eq_false_iff.mp (List.any_cons.symm.trans h)
    rw [List.map_cons, List.prod_cons] at hword
    obtain ⟨first, hfirst, others, hothers, rfl⟩ := hword
    rw [eq_of_mem_char hsign hfirst, ih hrest hothers]
    rfl

theorem eq_of_mem_slashes {word : List Char}
    (h : word ∈ ("://".toList.map fun c => (char c).language flags).prod) : word = "://".toList :=
  eq_of_mem_prod_chars (by decide) h

/-- A scheme ends in a colon and two slashes, and has none before them. -/
theorem mem_scheme {word : List Char} (h : word ∈ scheme.language flags) :
    ∃ name, word = name ++ "://".toList ∧ ∀ c ∈ name, Clean c := by
  rcases h with hweb | hfiles
  · rw [Node.ofList_language] at hweb
    obtain ⟨web, hweb, _, ⟨secure, hsecure, _, ⟨slashes, hslashes, _, rfl, rfl⟩, rfl⟩, rfl⟩ := hweb
    rw [ofText_language] at hweb hslashes
    have hname : web ++ secure ∈ allWhere Clean := by
      refine mul_le_allWhere (prod_fixedSigns_le (by decide)) ?_ ⟨web, hweb, secure, hsecure, rfl⟩
      exact addedTo_le_allWhere (fixedSign_le 's' (by decide))
    refine ⟨web ++ secure, ?_, hname⟩
    simp [eq_of_mem_slashes hslashes]
  · have hsplit : "ftp://".toList = "ftp".toList ++ "://".toList := by decide
    rw [ofText_language, hsplit, List.map_append, List.prod_append] at hfiles
    obtain ⟨name, hname, slashes, hslashes, rfl⟩ := hfiles
    refine ⟨name, ?_, prod_fixedSigns_le (by decide) hname⟩
    rw [eq_of_mem_slashes hslashes]

/-! ## Whole addresses -/

/-- The parts of an address after its scheme. -/
structure Parts (host number path : List Char) : Prop where
  host : ∀ c ∈ host, Clean c
  number : number = [] ∨ ∃ digits, number = ':' :: digits ∧ digits ≠ [] ∧ ∀ c ∈ digits, Clean c
  path : path = [] ∨ ∃ rest, path = '/' :: rest

theorem mem_schemePattern {word : List Char}
    (h : word ∈ schemePattern.root.language schemePattern.flags) :
    ∃ name host number path, word = name ++ "://".toList ++ (host ++ number ++ path) ∧
      (∀ c ∈ name, Clean c) ∧ Parts host number path := by
  have hroot : schemePattern.root.language schemePattern.flags =
      ([scheme, site, siteNumber, Link.path].map (Node.language flags)).prod :=
        Node.ofList_language ..
  rw [hroot] at h
  obtain ⟨first, hfirst, _,
    ⟨host, hhost, _, ⟨number, hnumber, _, ⟨path, hpath, _, rfl, rfl⟩, rfl⟩, rfl⟩, rfl⟩ := h
  obtain ⟨name, rfl, hname⟩ := mem_scheme hfirst
  refine ⟨name, host, number, path, ?_, hname, site_le hhost, mem_siteNumber hnumber,
    mem_path hpath⟩
  simp

theorem mem_barePattern {word : List Char}
    (h : word ∈ barePattern.root.language barePattern.flags) :
    ∃ host number path, word = host ++ number ++ path ∧ Parts host number path := by
  let before : List Node :=
    [.behind true 1 1 (.oneOf false [one '@', .family .word false, one '.', one '-']),
      maybe (Node.ofText "www."), site, char '.', .repeated .greedy 2 none (.oneOf false letters)]
  have hroot : barePattern.root.language barePattern.flags =
      ((before ++ [siteNumber, Link.path, .anchor .wordEdge]).map (Node.language flags)).prod :=
    Node.ofList_language ..
  have hclean : (before.map (Node.language flags)).prod ≤ allWhere Clean := by
    refine prod_le_allWhere fun L hL => ?_
    obtain ⟨node, hnode, rfl⟩ := List.mem_map.mp hL
    simp only [before, List.mem_cons, List.not_mem_nil, or_false] at hnode
    rcases hnode with rfl | rfl | rfl | rfl | rfl
    · exact one_le_allWhere
    · refine addedTo_le_allWhere ?_
      rw [ofText_language]
      exact prod_fixedSigns_le (by decide)
    · exact site_le
    · exact fixedSign_le '.' (by decide)
    · exact addedTo_le_allWhere (oneOf_le_allWhere_clean (by decide) (by decide +kernel))
  rw [hroot, List.map_append, List.prod_append] at h
  obtain ⟨host, hhost, _,
    ⟨number, hnumber, _, ⟨path, hpath, _, ⟨_, rfl, _, rfl, rfl⟩, rfl⟩, rfl⟩, rfl⟩ := h
  refine ⟨host, number, path, ?_, hclean hhost, mem_siteNumber hnumber, mem_path hpath⟩
  simp

end MailTriage.Link

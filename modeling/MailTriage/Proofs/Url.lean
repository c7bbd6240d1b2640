import MailTriage.Proofs.Text.Case
import MailTriage.Url
import Mathlib

/-!
# Addresses that can be read

Reading an address splits it and then checks the authority. An authority without brackets and
without characters that may turn into delimiters always passes, and of an address with a scheme and
two slashes the authority is found before the first slash of what follows.

What is read of an address need not be what it begins with. An address that is taken for one of the
web begins like one exactly when nothing is left out of it before the authority.
-/

namespace MailTriage.Url

open Text

/-- A character that may turn into a delimiter. -/
def Deceptive (c : Char) : Prop := c.toNat ∈ deceptiveCodes

instance (c : Char) : Decidable (Deceptive c) :=
  inferInstanceAs (Decidable (c.toNat ∈ deceptiveCodes))

/-- A character that counts when an address is read, wherever it stands. -/
def isKept (c : Char) : Bool := c ≠ '\t' && c ≠ '\n' && c ≠ '\r'

/-- What is read of an address: nothing in front, and no tabs and line breaks. -/
def cleaned (cs : List Char) : List Char := (cs.dropWhile isControlOrSpace).filter isKept

def shown (text : String) : Url :=
  let (scheme, rest) := splitScheme (cleaned text.toList)
  ⟨scheme, authorityOf rest⟩

theorem parse_eq_ok_iff {text : String} {url : Url} :
    Url.parse text = .ok url ↔
      url = shown text ∧ checkBrackets (shown text).authority = .ok () ∧
        checkDeceptive (shown text).authority = .ok () := by
  have hparse : Url.parse text = (do
      checkBrackets (shown text).authority
      checkDeceptive (shown text).authority
      return shown text) := rfl
  rw [hparse]
  cases checkBrackets (shown text).authority <;> cases checkDeceptive (shown text).authority <;>
    simp [bind, Except.bind, pure, Except.pure, eq_comm]

/-- An authority without brackets and deceptive characters can be read. -/
theorem parse_of_authority {text : String}
    (h : ∀ c ∈ (shown text).authority, c ≠ '[' ∧ c ≠ ']' ∧ ¬ Deceptive c) :
    Url.parse text = .ok (shown text) := by
  refine parse_eq_ok_iff.mpr ⟨rfl, ?_, ?_⟩
  · have hopen : (shown text).authority.contains '[' = false := by
      rw [List.contains_eq_mem, decide_eq_false_iff_not]
      exact fun hmem => (h _ hmem).1 rfl
    have hclose : (shown text).authority.contains ']' = false := by
      rw [List.contains_eq_mem, decide_eq_false_iff_not]
      exact fun hmem => (h _ hmem).2.1 rfl
    rw [checkBrackets, hopen, hclose]
  · rw [checkDeceptive, if_neg]
    rw [List.any_eq_true]
    rintro ⟨c, hc, hdeceptive⟩
    exact (h c hc).2.2 (List.contains_iff_mem.mp hdeceptive)

/-! ## Where the authority is -/

theorem mem_of_mem_cleaned {cs : List Char} {c : Char} (h : c ∈ cleaned cs) : c ∈ cs :=
  List.dropWhile_sublist _ |>.subset (List.mem_of_mem_filter h)

theorem mem_of_mem_authorityOf {cs : List Char} {c : Char} (h : c ∈ authorityOf cs) : c ∈ cs := by
  unfold authorityOf at h
  split at h
  · have := List.takeWhile_sublist _ |>.subset h
    simp [this]
  · simp at h

theorem append_of_cutAt {separator : Char} {cs front back : List Char}
    (h : cutAt separator cs = (front, some back)) : cs = front ++ separator :: back := by
  induction cs generalizing front with
  | nil => simp [cutAt] at h
  | cons c rest ih =>
    rw [cutAt] at h
    split at h
    · next heq =>
      cases h
      rw [heq, List.nil_append]
    · obtain ⟨rfl, hback⟩ := Prod.mk.inj h
      rw [List.cons_append, ← ih (Prod.ext rfl hback)]

theorem eq_of_cutAt_none {separator : Char} {cs front : List Char}
    (h : cutAt separator cs = (front, none)) :
    front = cs := by
  induction cs generalizing front with
  | nil =>
    rw [cutAt] at h
    exact (Prod.mk.inj h).1.symm
  | cons c rest ih =>
    rw [cutAt] at h
    split at h
    · exact nomatch (Prod.mk.inj h).2
    · obtain ⟨rfl, hback⟩ := Prod.mk.inj h
      exact congrArg (c :: ·) (ih (Prod.ext rfl hback))

theorem cutAt_append {separator : Char} {front : List Char} (h : separator ∉ front)
    (back : List Char) :
    cutAt separator (front ++ separator :: back) = (front, some back) := by
  induction front with
  | nil => simp [cutAt]
  | cons c rest ih =>
    have hne : c ≠ separator := fun he => h (by simp [he])
    have hrest : separator ∉ rest := fun hmem => h (by simp [hmem])
    rw [List.cons_append, cutAt, if_neg hne, ih hrest]

theorem mem_of_mem_authority {text : String} {c : Char} (h : c ∈ (shown text).authority) :
    c ∈ text.toList := by
  refine mem_of_mem_cleaned ?_
  have hrest : c ∈ (splitScheme (cleaned text.toList)).2 := mem_of_mem_authorityOf h
  generalize cleaned text.toList = cs at *
  unfold splitScheme at hrest
  split at hrest
  · next scheme rest hcut =>
    have hcs := append_of_cutAt hcut
    split at hrest
    · split at hrest
      · rw [hcs]
        simp [hrest]
      · exact hrest
    · exact hrest
  · exact hrest

/-- What cleaning leaves of an address with a scheme and two slashes. -/
theorem exists_cleaned_append (name rest : List Char) :
    ∃ name' rest', cleaned (name ++ "://".toList ++ rest) = name' ++ "://".toList ++ rest' ∧
      (∀ c ∈ name', c ∈ name) ∧ ∀ c ∈ rest'.takeWhile (· ≠ '/'), c ∈ rest.takeWhile (· ≠ '/') := by
  refine ⟨(name.dropWhile isControlOrSpace).filter isKept, rest.filter isKept, ?_, ?_, ?_⟩
  · have hcolon :
        (':' :: ("//".toList ++ rest)).dropWhile isControlOrSpace = ':' :: ("//".toList ++ rest) :=
      List.dropWhile_cons_of_neg (by decide)
    rw [cleaned, List.append_assoc,
      show "://".toList ++ rest = ':' :: ("//".toList ++ rest) from rfl, List.dropWhile_append]
    split
    · next hempty =>
      rw [List.isEmpty_iff.mp hempty, hcolon]
      rfl
    · rw [List.filter_append, List.append_assoc]
      rfl
  · intro c hc
    exact List.dropWhile_sublist _ |>.subset (List.mem_of_mem_filter hc)
  · intro c hc
    induction rest with
    | nil => simp at hc
    | cons d rest ih =>
      by_cases hd : d = '/'
      · have hkept : isKept '/' = true := by decide
        rw [hd, List.filter_cons_of_pos hkept] at hc
        simp at hc
      · rw [List.takeWhile_cons_of_pos (by simpa using hd)]
        by_cases hkept : isKept d = true
        · rw [List.filter_cons_of_pos hkept, List.takeWhile_cons_of_pos (by simpa using hd)] at hc
          rcases List.mem_cons.mp hc with rfl | hc
          · simp
          · exact List.mem_cons_of_mem _ (ih hc)
        · rw [List.filter_cons_of_neg hkept] at hc
          exact List.mem_cons_of_mem _ (ih hc)

theorem mem_takeWhile_of_imp {p q : Char → Bool} (h : ∀ c, p c = true → q c = true) {cs : List Char}
    {c : Char} (hc : c ∈ cs.takeWhile p) : c ∈ cs.takeWhile q := by
  have hboth : (cs.takeWhile q).takeWhile p = cs.takeWhile p := by
    rw [List.takeWhile_takeWhile]
    congr 1
    funext c
    simpa using h c
  exact List.takeWhile_subset p (hboth ▸ hc)

/-- The authority of an address with a scheme and two slashes ends before the next slash. -/
theorem mem_takeWhile_of_mem_authority {text : String} {name rest : List Char}
    (htext : text.toList = name ++ "://".toList ++ rest) (hcolon : ':' ∉ name) (hslash : '/' ∉ name)
    {c : Char} (hc : c ∈ (shown text).authority) : c ∈ rest.takeWhile (· ≠ '/') := by
  obtain ⟨name', rest', hcleaned, hname, hrest⟩ := exists_cleaned_append name rest
  have hcut : cutAt ':' (name' ++ "://".toList ++ rest') =
      (name', some ("//".toList ++ rest')) := by
    rw [List.append_assoc]
    exact cutAt_append (fun h => hcolon (hname _ h)) _
  have hnone : authorityOf (name' ++ "://".toList ++ rest') = [] := by
    cases name' with
    | nil => rfl
    | cons d name' =>
      have hd : d ≠ '/' := fun he => hslash (hname _ (by simp [he]))
      unfold authorityOf
      split
      · next heq => exact absurd (List.cons.inj heq).1 hd
      · rfl
  have hauthority : (shown text).authority = authorityOf ("//".toList ++ rest') ∨
      (shown text).authority = [] := by
    unfold shown
    rw [htext, hcleaned]
    unfold splitScheme
    rw [hcut]
    dsimp only
    split
    · split
      · exact .inl rfl
      · exact .inr hnone
    · exact .inr hnone
  refine hrest c ?_
  rcases hauthority with hauthority | hauthority
  · rw [hauthority] at hc
    have hends : ∀ d : Char, (!endsAuthority d) = true → (decide (d ≠ '/')) = true := by
      intro d hd
      simp [endsAuthority] at hd ⊢
      tauto
    exact mem_takeWhile_of_imp hends hc
  · rw [hauthority] at hc
    simp at hc

/-! ## Hosts -/

theorem host?_ne_empty (url : Url) : url.host? ≠ some "" := by
  unfold host?
  extract_lets place host name zone
  clear_value host
  split
  · simp
  · next hhost =>
    intro h
    obtain ⟨hname, hzone⟩ := String.append_eq_empty_iff.mp (Option.some.inj h)
    cases hafter : after? '%' host with
    | some back =>
      have hpercent : "%" ++ String.ofList back = "" := by
        rw [← hzone]
        simp only [zone, hafter]
      exact absurd (String.append_eq_empty_iff.mp hpercent).1 (by decide)
    | none =>
      have hbefore : before '%' host = host := eq_of_cutAt_none (Prod.ext rfl hafter)
      have hhost' : String.ofList host = "" := hbefore ▸ lower_eq_empty hname
      exact hhost (by simp [String.ofList_eq_empty_iff.mp hhost'])

/-! ## How an address begins -/

/-- Whether a text begins with a web scheme, in capitals or not, with a colon and two slashes, and
with something that is no delimiter. -/
def beginsWeb (cs : List Char) : Bool :=
  ["http", "https"].any fun scheme =>
    (cs.take scheme.length).map Char.toLower = scheme.toList &&
      (cs.drop scheme.length).take 3 = "://".toList &&
      (cs.drop (scheme.length + 3)).head?.any fun c => !endsAuthority c

/-- A web scheme as it may be written. -/
def WebScheme (name : List Char) : Prop :=
  name.map Char.toLower = "http".toList ∨ name.map Char.toLower = "https".toList

theorem beginsWeb_iff {cs : List Char} :
    beginsWeb cs = true ↔
      ∃ name c rest, cs = name ++ "://".toList ++ c :: rest ∧ WebScheme name ∧
        endsAuthority c = false := by
  constructor
  · intro h
    obtain ⟨scheme, hscheme, h⟩ := List.any_eq_true.mp h
    simp only [Bool.and_eq_true, decide_eq_true_eq] at h
    obtain ⟨⟨hname, hslashes⟩, hhead⟩ := h
    cases hrest : cs.drop (scheme.length + 3) with
    | nil => simp [hrest] at hhead
    | cons c rest =>
      refine ⟨cs.take scheme.length, c, rest, ?_, ?_, by simpa [hrest] using hhead⟩
      · rw [← hslashes, ← hrest, List.append_assoc, ← List.drop_drop, List.take_append_drop,
          List.take_append_drop]
      · rcases List.mem_pair.mp hscheme with rfl | rfl
        · exact .inl hname
        · exact .inr hname
  · rintro ⟨name, c, rest, rfl, hname, hends⟩
    have hbegins : ∀ scheme : String, name.map Char.toLower = scheme.toList →
        ((name ++ "://".toList ++ c :: rest).take scheme.length).map Char.toLower = scheme.toList ∧
          ((name ++ "://".toList ++ c :: rest).drop scheme.length).take 3 = "://".toList ∧
          (name ++ "://".toList ++ c :: rest).drop (scheme.length + 3) = c :: rest := by
      intro scheme hscheme
      have hlength : scheme.length = name.length := by
        rw [← String.length_toList, ← hscheme, List.length_map]
      rw [hlength, ← List.drop_drop]
      simp [hscheme]
    rw [beginsWeb, List.any_eq_true]
    rcases hname with hname | hname
    · obtain ⟨htake, hslashes, hrest⟩ := hbegins _ hname
      refine ⟨"http", List.mem_cons_self, ?_⟩
      rw [hslashes, hrest, htake]
      simp [hends]
    · obtain ⟨htake, hslashes, hrest⟩ := hbegins _ hname
      refine ⟨"https", List.mem_cons_of_mem _ List.mem_cons_self, ?_⟩
      rw [hslashes, hrest, htake]
      simp [hends]

theorem WebScheme.isAlpha {name : List Char} (h : WebScheme name) :
    ∀ c ∈ name, c.isAlpha = true := by
  intro c hc
  have hlower : c.toLower ∈ name.map Char.toLower := List.mem_map_of_mem hc
  have hletters : c.toLower ∈ "https".toList := by
    rcases h with h | h
    · rw [h] at hlower
      exact List.mem_of_mem_take (i := 4) (l := "https".toList) hlower
    · rwa [h] at hlower
  have halpha : "https".toList.all Char.isAlpha = true := by decide
  rw [← Char.isAlpha_toLower_eq_isAlpha]
  exact List.all_eq_true.mp halpha _ hletters

theorem le_toNat_of_isAlpha {c : Char} (h : c.isAlpha = true) : 65 ≤ c.toNat := by
  rcases Bool.or_eq_true_iff.mp h with hupper | hlower
  · exact UInt32.le_iff_toNat_le.mp (of_decide_eq_true hupper).1
  · have hsmall : 97 ≤ c.toNat :=
      UInt32.le_iff_toNat_le.mp (of_decide_eq_true (Bool.and_eq_true_iff.mp hlower).1)
    exact Nat.le_trans (by decide) hsmall

theorem WebScheme.ne_nil {name : List Char} (h : WebScheme name) : name ≠ [] := by
  rintro rfl
  rcases h with h | h <;> exact nomatch h

theorem WebScheme.colon_not_mem {name : List Char} (h : WebScheme name) : ':' ∉ name := by
  intro hmem
  exact absurd (h.isAlpha _ hmem) (by decide)

/-- Nothing goes from a web scheme and the slashes behind it when an address is read. -/
theorem WebScheme.cleaned_append {name : List Char} (h : WebScheme name) (rest : List Char) :
    cleaned (name ++ "://".toList ++ rest) = name ++ "://".toList ++ rest.filter isKept := by
  have hkept : ∀ c ∈ name, isKept c = true := by
    intro c hc
    have hcode := le_toNat_of_isAlpha (h.isAlpha c hc)
    simp only [isKept, Bool.and_eq_true, decide_eq_true_eq]
    refine ⟨⟨?_, ?_⟩, ?_⟩ <;> rintro rfl <;> exact absurd hcode (by decide)
  have hstart :
      (name ++ "://".toList ++ rest).dropWhile isControlOrSpace = name ++ "://".toList ++ rest := by
    obtain ⟨first, others, rfl⟩ := List.exists_cons_of_ne_nil h.ne_nil
    have hcode := le_toNat_of_isAlpha (h.isAlpha first List.mem_cons_self)
    have hcounts : ¬isControlOrSpace first = true := by
      simp only [isControlOrSpace, decide_eq_true_eq]
      omega
    exact List.dropWhile_cons_of_neg hcounts
  rw [cleaned, hstart, List.filter_append, List.filter_append, List.filter_eq_self.mpr hkept]
  rfl

theorem splitScheme_cases (cs : List Char) :
    (splitScheme cs).1 = [] ∨
      ∃ name back, cs = name ++ ':' :: back ∧ splitScheme cs = (name.map Char.toLower, back) := by
  unfold splitScheme
  split
  · next name back hcut =>
    split
    · split
      · exact .inr ⟨_, back, append_of_cutAt hcut, rfl⟩
      · exact .inl rfl
    · exact .inl rfl
  · exact .inl rfl

theorem exists_of_authorityOf {cs : List Char} (h : authorityOf cs ≠ []) :
    ∃ c rest, cs = '/' :: '/' :: c :: rest ∧ endsAuthority c = false := by
  unfold authorityOf at h
  split at h
  · next rest =>
    cases rest with
    | nil => exact absurd rfl h
    | cons c rest =>
      refine ⟨c, rest, rfl, ?_⟩
      by_contra hends
      exact h (List.takeWhile_cons_of_neg (by simpa using hends))
  · exact absurd rfl h

/-- An address is taken for one of the web only when it begins like one once it has been cleaned. -/
theorem exists_cleaned_of_isWeb {text : String} (h : (shown text).isWeb = true) :
    ∃ name c rest, cleaned text.toList = name ++ "://".toList ++ c :: rest ∧ WebScheme name ∧
      endsAuthority c = false ∧ (shown text).scheme.length = name.length := by
  obtain ⟨hscheme, hauthority⟩ :
      ((shown text).scheme = "http".toList ∨ (shown text).scheme = "https".toList) ∧
      (shown text).authority ≠ [] := by
    simpa only [isWeb, Bool.and_eq_true, Bool.or_eq_true, decide_eq_true_eq] using h
  change (splitScheme (cleaned text.toList)).1 = _ ∨
    (splitScheme (cleaned text.toList)).1 = _ at hscheme
  change authorityOf (splitScheme (cleaned text.toList)).2 ≠ [] at hauthority
  rcases splitScheme_cases (cleaned text.toList) with hnone | ⟨name, back, hcleaned, hsplit⟩
  · rw [hnone] at hscheme
    rcases hscheme with h | h <;> exact nomatch h
  · rw [hsplit] at hscheme hauthority
    obtain ⟨c, rest, hback, hends⟩ := exists_of_authorityOf hauthority
    refine ⟨name, c, rest, ?_, hscheme, hends, ?_⟩
    · rw [hcleaned, show back = '/' :: '/' :: c :: rest from hback]
      simp
    · change (splitScheme (cleaned text.toList)).1.length = name.length
      rw [hsplit, List.length_map]

theorem splitScheme_webScheme {name : List Char} (h : WebScheme name) (back : List Char) :
    splitScheme (name ++ ':' :: back) = (name.map Char.toLower, back) := by
  unfold splitScheme
  rw [cutAt_append h.colon_not_mem]
  obtain ⟨first, others, rfl⟩ := List.exists_cons_of_ne_nil h.ne_nil
  have hscheme : (first :: others).all isSchemeChar = true := by
    rw [List.all_eq_true]
    intro c hc
    simp [isSchemeChar, Char.isAlphanum, h.isAlpha c hc]
  dsimp only
  rw [if_pos (Bool.and_eq_true_iff.mpr ⟨h.isAlpha first List.mem_cons_self, hscheme⟩)]

/-- An address is taken for one of the web exactly when it begins like one once it has been
cleaned. -/
theorem isWeb_shown_iff {text : String} :
    (shown text).isWeb = true ↔ beginsWeb (cleaned text.toList) = true := by
  constructor
  · intro hweb
    obtain ⟨name, c, rest, hcleaned, hname, hends, -⟩ := exists_cleaned_of_isWeb hweb
    exact beginsWeb_iff.mpr ⟨name, c, rest, hcleaned, hname, hends⟩
  · intro hbegins
    obtain ⟨name, c, rest, hcleaned, hname, hends⟩ := beginsWeb_iff.mp hbegins
    have hsplit :
        splitScheme (cleaned text.toList) = (name.map Char.toLower, "//".toList ++ c :: rest) := by
      rw [hcleaned, List.append_assoc]
      exact splitScheme_webScheme hname _
    have hauthority : authorityOf ("//".toList ++ c :: rest) ≠ [] := by
      change (c :: rest).takeWhile (fun c => !endsAuthority c) ≠ []
      simp [hends]
    have hscheme : (shown text).scheme = name.map Char.toLower := congrArg Prod.fst hsplit
    have hshown : (shown text).authority = authorityOf ("//".toList ++ c :: rest) :=
      congrArg (fun parts : List Char × List Char => authorityOf parts.2) hsplit
    rw [isWeb, hscheme, hshown, Bool.and_eq_true, Bool.or_eq_true, decide_eq_true_eq,
      decide_eq_true_eq, decide_eq_true_eq]
    exact ⟨hname, hauthority⟩

def opening (url : Url) (cs : List Char) : List Char := cs.take (url.scheme.length + 3)

/-- An address that is taken for one of the web begins like one exactly when cleaning it takes
nothing away before the authority. -/
theorem beginsWeb_iff_of_isWeb {text : String} {url : Url} (hparse : Url.parse text = .ok url)
    (hweb : url.isWeb = true) :
    beginsWeb text.toList = true ↔ url.opening text.toList = url.opening (cleaned text.toList) := by
  obtain ⟨rfl, -⟩ := parse_eq_ok_iff.mp hparse
  have htake (name rest : List Char) :
      (name ++ "://".toList ++ rest).take (name.length + 3) = name ++ "://".toList := by
    rw [List.take_left' (by simp)]
  constructor
  · intro hbegins
    obtain ⟨name, c, rest, htext, hname, -⟩ := beginsWeb_iff.mp hbegins
    have hcleaned := hname.cleaned_append (c :: rest)
    have hlength : (shown text).scheme.length = name.length := by
      change (splitScheme (cleaned text.toList)).1.length = name.length
      rw [htext, hcleaned, List.append_assoc,
        show "://".toList ++ _ = ':' :: ("//".toList ++ _) from rfl,
        splitScheme_webScheme hname, List.length_map]
    rw [opening, opening, hlength, htext, hcleaned, htake, htake]
  · intro hopening
    obtain ⟨name, c, rest, hcleaned, hname, hends, hlength⟩ := exists_cleaned_of_isWeb hweb
    rw [opening, opening, hlength, hcleaned, htake] at hopening
    obtain ⟨tail, htext⟩ : ∃ tail, text.toList = name ++ "://".toList ++ tail :=
      ⟨_, by rw [← hopening, List.take_append_drop]⟩
    have htail : tail.filter isKept = c :: rest := by
      rw [htext, hname.cleaned_append] at hcleaned
      exact List.append_cancel_left hcleaned
    rw [beginsWeb_iff]
    cases tail with
    | nil => exact nomatch htail
    | cons d tail =>
      refine ⟨name, d, tail, htext, hname, ?_⟩
      cases hkept : isKept d with
      | true =>
        rw [List.filter_cons_of_pos hkept] at htail
        rw [(List.cons.inj htail).1]
        exact hends
      | false =>
        -- A tab or a line break is no delimiter.
        have hbreak : d = '\t' ∨ d = '\n' ∨ d = '\r' := by
          simpa [isKept, Decidable.or_iff_not_imp_left] using hkept
        rcases hbreak with rfl | rfl | rfl <;> rfl

end MailTriage.Url

import MailTriage.Proofs.Link.Coverage
import MailTriage.Proofs.Link.Sites

/-!
# Email addresses in plain text

A plain text that is an email address between blanks has no links, unless the address begins like a
site: no site begins right after an at sign or within a run, but one may begin where the address
does. What is found then ends before the at sign.
-/

namespace MailTriage

open Link Text

/-- Letters, digits, hyphens and underscores, at least one. -/
structure EmailAddress.Run where
  chars : List Char
  ne_nil : chars ≠ []
  allowed : ∀ c ∈ chars, c.isAlphanum = true ∨ c = '-' ∨ c = '_'

/-- Runs joined by points, an at sign, and two or more runs joined by points. -/
structure EmailAddress where
  user : List EmailAddress.Run
  domain : List EmailAddress.Run
  user_ne_nil : user ≠ []
  two_le_domain : 2 ≤ domain.length

namespace EmailAddress

variable (address : EmailAddress)

def userText : List Char := dotted (address.user.map Run.chars)

def domainText : List Char := dotted (address.domain.map Run.chars)

def text : List Char := address.userText ++ '@' :: address.domainText

/-- The address begins with labels and a point, and the run after them begins with letters that end
it or come before a hyphen. -/
def BeginsLikeSite : Prop :=
  ∃ labels run rest last tail,
    address.user = labels ++ run :: rest ∧ IsBareSite (labels.map Run.chars) last ∧
    run.chars = last ++ tail ∧ ∀ c ∈ tail.head?, c = '-'

/-! ## The characters of an address -/

/-- A character of a run, a point or an at sign. -/
def IsSign (c : Char) : Prop := c.isAlphanum = true ∨ c = '-' ∨ c = '_' ∨ c = '.' ∨ c = '@'

instance (c : Char) : Decidable (IsSign c) := inferInstanceAs (Decidable (_ ∨ _))

theorem IsSign.isAscii {c : Char} (h : IsSign c) : IsAscii c := by
  rcases h with h | rfl | rfl | rfl | rfl
  · exact isAscii_of_isAlphanum h
  all_goals decide

theorem IsSign.isGuard {c : Char} (h : IsSign c) : isGuard c = true := by
  rw [Link.isGuard, isWordChar_eq h.isAscii]
  rcases h with h | rfl | rfl | rfl | rfl
  · simp [h]
  all_goals decide

theorem isSign_of_mem_dotted {runs : List Run} {c : Char} (h : c ∈ dotted (runs.map Run.chars)) :
    IsSign c := by
  rcases eq_or_exists_of_mem_dotted h with rfl | ⟨word, hword, hc⟩
  · decide
  · obtain ⟨run, -, rfl⟩ := List.mem_map.mp hword
    rcases run.allowed c hc with h | h | h
    · exact .inl h
    · exact .inr (.inl h)
    · exact .inr (.inr (.inl h))

variable {address}

theorem isSign_of_mem_text {c : Char} (h : c ∈ address.text) : IsSign c := by
  rw [text, List.mem_append, List.mem_cons] at h
  rcases h with h | rfl | h
  · exact isSign_of_mem_dotted h
  · decide
  · exact isSign_of_mem_dotted h

/-! ## Where a site can begin -/

variable (address) in
def surrounded (m n : Nat) : List Char :=
  List.replicate m ' ' ++ (address.text ++ List.replicate n ' ')

variable {m n : Nat}

theorem isSign_or_eq_of_mem_surrounded {c : Char} (h : c ∈ address.surrounded m n) :
    IsSign c ∨ c = ' ' := by
  simp only [surrounded, List.mem_append, List.mem_replicate] at h
  rcases h with h | h | h
  · exact .inr h.2
  · exact .inl (isSign_of_mem_text h)
  · exact .inr h.2

theorem not_mem_surrounded {sign : Char} (hsign : ¬ IsSign sign) (hblank : sign ≠ ' ') :
    sign ∉ address.surrounded m n := by
  intro h
  rcases isSign_or_eq_of_mem_surrounded h with h | h
  · exact hsign h
  · exact hblank h

theorem mem_bareParts_iff_of_surrounded {before word after : List Char}
    (htext : address.surrounded m n = before ++ (word ++ after)) :
    word ∈ (bareParts.map (Pattern.Node.language flags)).prod ↔
      ∃ labels last, IsBareSite labels last ∧ word = dotted (labels ++ [last]) := by
  have hmem {c : Char} (hc : c ∈ word) : c ∈ address.surrounded m n := by
    rw [htext]
    simp [hc]
  refine mem_bareParts_iff (fun c hc => ?_) ?_ ?_
  · rcases isSign_or_eq_of_mem_surrounded (hmem hc) with h | rfl
    · exact h.isAscii
    · decide
  · exact fun hc => not_mem_surrounded (by decide) (by decide) (hmem hc)
  · exact fun hc => not_mem_surrounded (by decide) (by decide) (hmem hc)

/-- What stands free begins where the address begins: elsewhere it would begin with a blank or come
right after a character that keeps it away. -/
theorem eq_replicate_of_free {before rest : List Char} {c : Char} (hc : c.isAlphanum = true)
    (hfree : before.getLast?.any isGuard = false)
    (htext : address.surrounded m n = before ++ c :: rest) :
    before = List.replicate m ' ' := by
  have hblank {k : Nat} : c ∉ List.replicate k ' ' := by
    intro h
    rw [List.eq_of_mem_replicate h] at hc
    exact absurd hc (by decide)
  rcases List.append_eq_append_iff.mp htext with ⟨gap, rfl, hgap⟩ | ⟨gap, hgap, hrest⟩
  · -- what comes before reaches into the address, or past it
    rcases List.eq_nil_or_concat gap with rfl | ⟨init, d, rfl⟩
    · rw [List.append_nil]
    · rw [List.concat_eq_append] at hfree hgap
      rw [← List.append_assoc, List.getLast?_concat, Option.any_some] at hfree
      rcases List.append_eq_append_iff.mp hgap with ⟨past, -, hpast⟩ | ⟨within, hwithin, -⟩
      · exact absurd (by rw [hpast]; simp) hblank
      · have hsign : IsSign d := isSign_of_mem_text (by rw [hwithin]; simp)
        rw [hsign.isGuard] at hfree
        exact Bool.noConfusion hfree
  · cases gap with
    | nil => rw [hgap, List.append_nil]
    | cons d gap =>
      obtain ⟨rfl, -⟩ := List.cons.inj hrest
      exact absurd (by rw [hgap]; simp) hblank

/-! ## Where a site can end -/

theorem exists_of_append_eq {sign : Char} {word after front rest : List Char} (hword : sign ∉ word)
    (h : word ++ after = front ++ sign :: rest) :
    ∃ tail, front = word ++ tail ∧ after = tail ++ sign :: rest := by
  rcases List.append_eq_append_iff.mp h with htail | ⟨more, hmore, hrest⟩
  · exact htail
  · cases more with
    | nil => exact ⟨[], by simpa using hmore.symm, by simpa using hrest.symm⟩
    | cons c more =>
      obtain ⟨rfl, -⟩ := List.cons.inj hrest
      exact absurd (by rw [hmore]; simp) hword

/-- Joined words that begin other joined words are those, one by one, and the last of them begins
the next one. -/
theorem exists_of_dotted_append_eq {labels words : List (List Char)} {last tail : List Char}
    (hlabels : ∀ label ∈ labels, '.' ∉ label) (hlast : '.' ∉ last)
    (hwords : ∀ word ∈ words, '.' ∉ word) (hne : words ≠ [])
    (h : dotted (labels ++ [last]) ++ tail = dotted words) :
    ∃ word rest more, words = labels ++ word :: rest ∧ word = last ++ more ∧
      tail = more ++ rest.flatMap ('.' :: ·) := by
  induction labels generalizing words with
  | nil =>
    have hend : last ++ tail = dotted words := by simpa [dotted] using h
    obtain ⟨word, rest, rfl⟩ := List.exists_cons_of_ne_nil hne
    cases rest with
    | nil => exact ⟨word, [], tail, rfl, by simpa [dotted] using hend.symm, by simp⟩
    | cons second rest =>
      rw [dotted_cons (by simp)] at hend
      obtain ⟨more, hword, htail⟩ := exists_of_append_eq hlast hend
      exact ⟨word, second :: rest, more, rfl, hword, htail⟩
  | cons label labels ih =>
    obtain ⟨hlabel, hlabels⟩ := List.forall_mem_cons.mp hlabels
    obtain ⟨word, rest, rfl⟩ := List.exists_cons_of_ne_nil hne
    obtain ⟨hword, hrest⟩ := List.forall_mem_cons.mp hwords
    rw [List.cons_append, dotted_cons (by simp), List.append_assoc, List.cons_append] at h
    cases rest with
    | nil =>
      have hpoint : '.' ∈ word := by
        rw [dotted, List.flatMap_nil, List.append_nil] at h
        rw [← h]
        simp
      exact absurd hpoint hword
    | cons second rest =>
      rw [dotted_cons (by simp)] at h
      obtain ⟨gap, rfl, hgap⟩ := exists_of_append_eq hlabel h
      cases gap with
      | nil =>
        obtain ⟨next, rest', more, heq, hnext, htail⟩ :=
          ih hlabels hrest (by simp) (List.cons.inj hgap).2
        exact ⟨next, rest', more, by simp [heq], hnext, htail⟩
      -- otherwise the word would reach over the point behind the label
      | cons c gap =>
        obtain ⟨rfl, -⟩ := List.cons.inj hgap
        exact absurd (by simp) hword

/-! ## When an address has links -/

theorem point_not_mem (run : Run) : '.' ∉ run.chars := by
  intro h
  have hpoint : ¬ (('.').isAlphanum = true ∨ '.' = '-' ∨ '.' = '_') := by decide
  exact hpoint (run.allowed '.' h)

theorem at_not_mem {labels : List (List Char)} {last : List Char} (h : IsBareSite labels last) :
    '@' ∉ dotted (labels ++ [last]) := by
  intro hat
  have hsign : ¬ (('@').isAlphanum = true ∨ '@' = '-' ∨ '@' = '.') := by decide
  exact hsign (h.allowed hat)

theorem Run.eq_hyphen {run : Run} {c : Char} (hc : c ∈ run.chars) (hword : isWordChar c = false) :
    c = '-' := by
  rcases run.allowed c hc with h | h | h
  · rw [isWordChar_eq (isAscii_of_isAlphanum h), h] at hword
    exact Bool.noConfusion hword
  · exact h
  · rw [h] at hword
    exact absurd hword (by decide)

theorem beginsLikeSite_of_standsFree {before word after : List Char}
    (htext : address.surrounded m n = before ++ (word ++ after))
    (hfree : StandsFree before word after) :
    address.BeginsLikeSite := by
  obtain ⟨labels, last, hsite, rfl⟩ := (mem_bareParts_iff_of_surrounded htext).mp hfree.mem
  obtain ⟨c, hc, hfirst⟩ := hsite.exists_first
  obtain ⟨others, hword⟩ := List.head?_eq_some_iff.mp hc
  obtain rfl : before = List.replicate m ' ' :=
    eq_replicate_of_free hfirst hfree.free (by rw [htext, hword]; rfl)
  have hsplit : dotted (labels ++ [last]) ++ after =
      address.userText ++ '@' :: (address.domainText ++ List.replicate n ' ') := by
    have hrest := List.append_cancel_left htext
    rw [← hrest, text, List.append_assoc]
    rfl
  obtain ⟨tail, huser, rfl⟩ := exists_of_append_eq (at_not_mem hsite) hsplit
  have hruns : ∀ word ∈ address.user.map Run.chars, '.' ∉ word := by
    intro word hword
    obtain ⟨run, -, rfl⟩ := List.mem_map.mp hword
    exact point_not_mem run
  obtain ⟨_, others, more, hwords, rfl, rfl⟩ :=
    exists_of_dotted_append_eq (fun label hlabel => (hsite.labels label hlabel).point_not_mem)
      (fun hpoint => by simpa using hsite.letters '.' hpoint) hruns
        (by simpa using address.user_ne_nil) huser.symm
  obtain ⟨front, back, hfront, rfl, hback⟩ := List.map_eq_append_iff.mp hwords
  obtain ⟨run, rest, rfl, hrun, rfl⟩ := List.map_eq_cons_iff.mp hback
  refine ⟨front, run, rest, last, more, hfront, hsite, hrun, fun c hc => ?_⟩
  -- the site ends with a letter, so what comes next is not of a word
  obtain ⟨others, rfl⟩ := List.head?_eq_some_iff.mp hc
  have hedge := hfree.edge
  rw [hsite.getLast?_any] at hedge
  exact Run.eq_hyphen (by rw [hrun]; simp) (by simpa using hedge.symm)

theorem BeginsLikeSite.exists_standsFree (h : address.BeginsLikeSite) :
    ∃ before word after, address.surrounded m n = before ++ (word ++ after) ∧
      StandsFree before word after := by
  obtain ⟨labels, run, rest, last, tail, huser, hsite, hrun, htail⟩ := h
  have huserText : address.userText = dotted (labels.map Run.chars ++ [last]) ++
      (tail ++ (rest.map Run.chars).flatMap ('.' :: ·)) := by
    rw [userText, huser, List.map_append, List.map_cons, hrun, dotted_append]
  have htext :
      address.surrounded m n = List.replicate m ' ' ++ (dotted (labels.map Run.chars ++ [last]) ++
      ((tail ++ (rest.map Run.chars).flatMap ('.' :: ·)) ++
        '@' :: (address.domainText ++ List.replicate n ' '))) := by
    rw [surrounded, text, huserText]
    simp only [List.append_assoc, List.cons_append]
  refine ⟨_, _, _, htext, (mem_bareParts_iff_of_surrounded htext).mpr ⟨_, last, hsite, rfl⟩, ?_, ?_⟩
  · rw [List.getLast?_replicate]
    split
    · rfl
    · decide
  · have hsigns : isWordChar '@' = false ∧ isWordChar '.' = false ∧ isWordChar '-' = false := by
      decide
    rw [hsite.getLast?_any]
    cases tail with
    | nil => cases rest <;> simp [hsigns]
    | cons c tail =>
      obtain rfl : c = '-' := htail c rfl
      simp [hsigns]

/-- An email address between blanks has no links exactly when it does not begin like a site. -/
theorem ofText_surrounded_eq_nil_iff (address : EmailAddress) (m n : Nat) :
    Link.ofText (String.ofList (address.surrounded m n)) = .ok [] ↔ ¬ address.BeginsLikeSite := by
  have hcolon : ':' ∉ (String.ofList (address.surrounded m n)).toList := by
    rw [String.toList_ofList]
    exact not_mem_surrounded (by decide) (by decide)
  have hnone : found barePattern (String.ofList (address.surrounded m n)) = [] ↔
      ¬ address.BeginsLikeSite := by
    rw [found_barePattern_eq_nil_iff, String.toList_ofList]
    constructor
    · intro h hbegins
      obtain ⟨before, word, after, htext, hfree⟩ := hbegins.exists_standsFree
      exact h before word after htext hfree
    · exact fun h before word after htext hfree => h (beginsLikeSite_of_standsFree htext hfree)
  rw [ofText_eq_nil_iff, hnone, and_iff_right (found_schemePattern_eq_nil hcolon)]

/-- A run, checked character by character. -/
def Run.ofText (text : String) (hsome : text.toList ≠ [])
    (hall : (text.toList.all fun c => c.isAlphanum || c == '-' || c == '_') = true) : Run where
  chars := text.toList
  ne_nil := hsome
  allowed := by simpa [or_assoc] using hall

def firstLast : EmailAddress where
  user := [.ofText "first" (by decide) (by decide), .ofText "last" (by decide) (by decide)]
  domain := [.ofText "example" (by decide) (by decide), .ofText "com" (by decide) (by decide)]
  user_ne_nil := by simp
  two_le_domain := by simp

theorem ofText_firstLast : Link.ofText "first.last@example.com" ≠ .ok [] := by
  have htext : "first.last@example.com" = String.ofList (firstLast.surrounded 0 0) := by decide
  have hlabel : IsLabel "first".toList :=
    ⟨by decide, by simp, ⟨'f', rfl, by decide⟩, ⟨'t', rfl, by decide⟩⟩
  have hsite : IsBareSite ["first".toList] "last".toList :=
    ⟨by simp, by simpa using hlabel, by decide, by simp⟩
  have hbegins : firstLast.BeginsLikeSite :=
    ⟨[.ofText "first" (by decide) (by decide)], .ofText "last" (by decide) (by decide), [],
      "last".toList, [], rfl,
      hsite, rfl, by simp⟩
  rw [htext, Ne, ofText_surrounded_eq_nil_iff, not_not]
  exact hbegins

end EmailAddress

end MailTriage

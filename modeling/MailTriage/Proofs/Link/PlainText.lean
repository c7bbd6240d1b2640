import MailTriage.Proofs.Link.Words
import MailTriage.Proofs.Outcome
import MailTriage.Proofs.Url
import Mathlib.Data.List.DropRight

/-!
# Links in plain text

Whatever a plain text holds, its links can be listed. An address that a pattern finds keeps brackets
out altogether and deceptive characters out of everything before its path, also when punctuation is
taken off its end or a scheme is put before it, so it can be read as it stands.
-/

namespace MailTriage.Link

open Pattern Text

/-! ## Addresses that can be read -/

/-- A character that no check of an authority objects to. -/
def Harmless (c : Char) : Prop := c ≠ '[' ∧ c ≠ ']' ∧ ¬ Url.Deceptive c

theorem Clean.ne {c sign : Char} (h : Clean c) (hsign : sign.toNat ∈ delimiters) : c ≠ sign := by
  rintro rfl
  exact h hsign

theorem Clean.harmless {c : Char} (h : Clean c) : Harmless c :=
  ⟨h.ne (by decide), h.ne (by decide), fun hd => h (List.mem_append_right _ hd)⟩

theorem harmless_colon : Harmless ':' := ⟨by decide, by decide, by decide⟩

theorem harmless_slash : Harmless '/' := ⟨by decide, by decide, by decide⟩

/-- An address can be read when nothing before the first slash after its scheme is harmful. -/
theorem exists_parse {text : String} {name rest : List Char}
    (htext : text.toList = name ++ "://".toList ++ rest) (hname : ∀ c ∈ name, Clean c)
    (hrest : ∀ c ∈ rest.takeWhile (· ≠ '/'), Harmless c) : ∃ url, Url.parse text = .ok url :=
  ⟨_, Url.parse_of_authority fun _ hc => hrest _ <|
    Url.mem_takeWhile_of_mem_authority htext (fun h => (hname _ h).ne (by decide) rfl)
      (fun h => (hname _ h).ne (by decide) rfl) hc⟩

/-- A text can be read as an address when nothing in it is harmful. -/
theorem exists_parse_of_harmless {text : String} (h : ∀ c ∈ text.toList, Harmless c) :
    ∃ url, Url.parse text = .ok url :=
  ⟨_, Url.parse_of_authority fun c hc => h c (Url.mem_of_mem_authority hc)⟩

/-! ## What comes before the first slash -/

theorem mem_takeWhile_of_prefix {p : Char → Bool} {front whole : List Char} (h : front <+: whole)
    {c : Char} (hc : c ∈ front.takeWhile p) : c ∈ whole.takeWhile p := by
  obtain ⟨back, rfl⟩ := h
  rw [List.takeWhile_append]
  split
  · exact List.mem_append_left _ (List.takeWhile_subset p hc)
  · exact hc

theorem takeWhile_slash {name : List Char} (hname : ∀ c ∈ name, Clean c) (rest : List Char) :
    (name ++ "://".toList ++ rest).takeWhile (· ≠ '/') = name ++ [':'] := by
  have hne : ∀ c ∈ name, decide (c ≠ '/') = true :=
    fun c hc => by simpa using (hname c hc).ne (by decide)
  rw [List.append_assoc, List.takeWhile_append_of_pos hne]
  rfl

namespace Parts

variable {host number path : List Char} (h : Parts host number path)

include h

/-- The host and the number come before the first slash, and nothing else does. -/
theorem takeWhile_slash : (host ++ number ++ path).takeWhile (· ≠ '/') = host ++ number := by
  have hne : ∀ c ∈ host ++ number, decide (c ≠ '/') = true := by
    intro c hc
    rw [decide_eq_true_eq]
    rcases List.mem_append.mp hc with hc | hc
    · exact (h.host c hc).ne (by decide)
    · rcases h.number with rfl | ⟨digits, rfl, -, hdigits⟩
      · simp at hc
      · rcases List.mem_cons.mp hc with rfl | hc
        · decide
        · exact (hdigits c hc).ne (by decide)
  have hpath : path.takeWhile (· ≠ '/') = [] := by
    rcases h.path with rfl | ⟨rest, rfl⟩ <;> rfl
  rw [List.takeWhile_append_of_pos hne, hpath, List.append_nil]

theorem harmless : ∀ c ∈ host ++ number, Harmless c := by
  intro c hc
  rcases List.mem_append.mp hc with hc | hc
  · exact (h.host c hc).harmless
  · rcases h.number with rfl | ⟨digits, rfl, -, hdigits⟩
    · simp at hc
    · rcases List.mem_cons.mp hc with rfl | hc
      · exact harmless_colon
      · exact (hdigits c hc).harmless

/-- A colon is never the last sign before a path: digits follow it. -/
theorem ne_append_colon (name : List Char) : host ++ number ≠ name ++ [':'] := by
  intro heq
  have hlast : (host ++ number).getLast? = some ':' := by rw [heq]; simp
  rcases h.number with rfl | ⟨digits, rfl, hdigits, hclean⟩
  · rw [List.append_nil] at hlast
    exact (h.host ':' (List.mem_of_getLast? hlast)).ne (by decide) rfl
  · rw [List.getLast?_append_cons, List.getLast?_cons_of_ne_nil hdigits] at hlast
    exact (hclean ':' (List.mem_of_getLast? hlast)).ne (by decide) rfl

end Parts

/-! ## Making links -/

/-- A text that can be made into a link: it can be read as an address as it stands, if it begins
with a scheme, and with the secure scheme before it. -/
structure Makeable (url : String) : Prop where
  plain : (∃ name rest, url.toList = name ++ "://".toList ++ rest ∧ ∀ c ∈ name, Clean c) →
    ∃ parsed, Url.parse url = .ok parsed
  secure : ∃ parsed, Url.parse ("https://" ++ url) = .ok parsed

theorem slice_zero_prefix (cs : List Char) (last : Nat) : slice cs.toArray 0 last <+: cs := by
  rw [slice, Array.toList_extract, List.extract_eq_take_drop]
  exact List.take_prefix _ _

theorem exists_of_schemeOnly {url : String}
    (h : (schemeOnly.matchAt? url.toList.toArray 0).isSome = true) :
    ∃ name rest, url.toList = name ++ "://".toList ++ rest ∧ ∀ c ∈ name, Clean c := by
  obtain ⟨found, hfound⟩ := Option.isSome_iff_exists.mp h
  obtain ⟨hfirst, hword⟩ := matchAt?_mem_language hfound
  obtain ⟨name, hname, hclean⟩ := mem_scheme hword
  obtain ⟨rest, hrest⟩ := slice_zero_prefix url.toList found.last
  refine ⟨name, rest, ?_, hclean⟩
  rw [← hname, hfirst, hrest]

theorem Makeable.exists_make {url : String} (h : Makeable url) (text : String) :
    ∃ link, make url text = .ok link := by
  obtain ⟨parsed, hparsed⟩ : ∃ parsed, Url.parse
      (if (schemeOnly.matchAt? url.toList.toArray 0).isSome then url else "https://" ++ url) =
        .ok parsed := by
    split
    · next hscheme => exact h.plain (exists_of_schemeOnly hscheme)
    · exact h.secure
  unfold make
  dsimp only
  rw [hparsed]
  exact ⟨_, rfl⟩

theorem exists_parse_secure {url : String} (h : ∀ c ∈ url.toList.takeWhile (· ≠ '/'), Harmless c) :
    ∃ parsed, Url.parse ("https://" ++ url) = .ok parsed := by
  have htext : ("https://" ++ url).toList = "https".toList ++ "://".toList ++ url.toList := by
    rw [String.toList_append]
    rfl
  have hclean : ("https".toList.all fun c => decide (Clean c)) = true := by decide
  exact exists_parse htext (fun c hc => of_decide_eq_true (List.all_eq_true.mp hclean c hc)) h

theorem makeable_of_schemePattern {url : String} {word : List Char}
    (hword : word ∈ schemePattern.root.language schemePattern.flags)
    (hbegins : url.toList <+: word) :
    Makeable url := by
  obtain ⟨name, host, number, path, rfl, hname, hparts⟩ := mem_schemePattern hword
  refine ⟨fun _ => ?_, exists_parse_secure fun c hc => ?_⟩
  · rcases List.prefix_or_prefix_of_prefix hbegins (List.prefix_append _ _) with hshort |
      ⟨rest, hrest⟩
    · refine exists_parse_of_harmless fun c hc => ?_
      rcases List.mem_append.mp (hshort.subset hc) with hc | hc
      · exact (hname c hc).harmless
      · have hsign : c = ':' ∨ c = '/' := by simpa using hc
        rcases hsign with rfl | rfl
        · exact harmless_colon
        · exact harmless_slash
    · rw [← hrest] at hbegins
      refine exists_parse hrest.symm hname fun c hc => hparts.harmless c ?_
      rw [← hparts.takeWhile_slash]
      exact mem_takeWhile_of_prefix (List.prefix_append_right_inj _ |>.mp hbegins) hc
  · have hmem := mem_takeWhile_of_prefix hbegins hc
    rw [takeWhile_slash hname] at hmem
    rcases List.mem_append.mp hmem with hc | hc
    · exact (hname c hc).harmless
    · rw [List.mem_singleton.mp hc]
      exact harmless_colon

/-- The beginning of an address that was found without a scheme. -/
theorem makeable_of_barePattern {url : String} {word : List Char}
    (hword : word ∈ barePattern.root.language barePattern.flags) (hbegins : url.toList <+: word) :
    Makeable url := by
  obtain ⟨host, number, path, rfl, hparts⟩ := mem_barePattern hword
  refine ⟨?_, exists_parse_secure fun c hc => ?_⟩
  · -- it does not begin with a scheme
    rintro ⟨name, rest, hurl, hname⟩
    obtain ⟨back, hback⟩ := hbegins
    refine absurd ?_ (hparts.ne_append_colon name)
    rw [← hparts.takeWhile_slash, ← hback, hurl, List.append_assoc (name ++ "://".toList)]
    exact takeWhile_slash hname _
  · refine hparts.harmless c ?_
    rw [← hparts.takeWhile_slash]
    exact mem_takeWhile_of_prefix hbegins hc

/-! ## Finding links -/

theorem exists_word_of_mem_found {pattern : Pattern} {text url : String}
    (h : url ∈ found pattern text) :
    ∃ word ∈ pattern.root.language pattern.flags, url.toList <+: word := by
  obtain ⟨hit, hhit, rfl⟩ := List.mem_map.mp h
  refine ⟨_, slice_mem_language_of_mem_allMatches hhit, ?_⟩
  rw [String.toList_ofList]
  exact List.rdropWhile_prefix (trailingPunctuation.contains ·) _

theorem mem_addSites {addresses sites : List String} {url : String}
    (h : url ∈ addSites addresses sites) :
    url ∈ addresses ∨ url ∈ sites := by
  induction sites generalizing addresses with
  | nil => exact .inl h
  | cons site rest ih =>
    rw [addSites] at h
    split at h
    · exact (ih h).imp_right (List.mem_cons_of_mem _)
    · rcases ih h with hmem | hmem
      · rcases List.mem_append.mp hmem with hmem | hmem
        · exact .inl hmem
        · exact .inr (by simp [List.mem_singleton.mp hmem])
      · exact .inr (List.mem_cons_of_mem _ hmem)

/-- The links of a plain text can be listed, whatever it holds. -/
theorem exists_ofText (text : String) : ∃ links, ofText text = .ok links := by
  refine exists_mapM_eq_ok_iff.mpr fun url hurl => ?_
  have hmakeable : Makeable url := by
    rcases mem_addSites hurl with hfound | hfound
    · obtain ⟨word, hword, hbegins⟩ := exists_word_of_mem_found hfound
      exact makeable_of_schemePattern hword hbegins
    · obtain ⟨word, hword, hbegins⟩ := exists_word_of_mem_found hfound
      exact makeable_of_barePattern hword hbegins
  exact hmakeable.exists_make url

end MailTriage.Link

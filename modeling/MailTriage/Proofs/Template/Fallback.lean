import MailTriage.Proofs.Template.Sources
import MailTriage.Proofs.Template.Substitution
import Mathlib

/-!
# Tokens with several alternatives

The alternatives of a token are paths and quoted literals, written with two bars and blanks between
them. A token shows the first alternative that is not empty, where a path shows the value it leads
to and a literal shows what stands between its quotes. That is so in every context as long as no
literal has two bars in it: the alternatives are cut at bars before quotes are looked at, so such a
literal is cut in two and never shown.
-/

namespace MailTriage

open Text

/-! ## Values without bars -/

namespace Value

/-- A value that shows no bar, and no bar in anything that a path leads to from it. -/
inductive Barless : Value → Prop
  | mk {v : Value} (spelled : '|' ∉ v.spelled.toList) (members : ∀ w ∈ v.members, Barless w) :
      Barless v

theorem Barless.of_flat {v : Value} (hspelled : '|' ∉ v.spelled.toList)
    (hmembers : ∀ w ∈ v.members, w.members.isEmpty = true ∧ '|' ∉ w.spelled.toList) :
    Barless v := by
  refine ⟨hspelled, fun w hw => ⟨(hmembers w hw).2, ?_⟩⟩
  simp [List.isEmpty_iff.mp (hmembers w hw).1]

theorem Barless.step {v : Value} (h : ∀ w ∈ v.members, Barless w) (part : List Char) :
    Barless (v.step part) := by
  rcases v.step_eq_null_or_mem part with hnull | hmem
  · rw [hnull]
    exact ⟨by decide, by simp [members]⟩
  · exact h _ hmem

theorem Barless.walk {v : Value} (h : ∀ w ∈ v.members, Barless w) (path : List Char) :
    Barless (Template.walk v path) := by
  obtain ⟨part, parts, hparts⟩ := List.exists_cons_of_ne_nil (Template.pathParts_ne_nil path)
  have hfirst : Barless (v.step part) := .step h part
  rw [Template.walk, hparts, List.foldl_cons]
  generalize v.step part = first at hfirst
  clear hparts
  induction parts generalizing first with
  | nil => exact hfirst
  | cons next parts ih =>
    obtain ⟨-, hmembers⟩ := hfirst
    exact ih _ (.step hmembers next)

end Value

namespace Template

/-! ## Cutting at bars -/

def bars : List Char := ['|', '|']

theorem not_bars_isPrefix {c : Char} {rest : List Char}
    (h : ∀ rest', c = '|' → rest = '|' :: rest' → False) :
    ¬ bars <+: c :: rest := by
  rintro ⟨rest', hsplit⟩
  obtain ⟨rfl, rfl⟩ := List.cons.inj hsplit
  exact h rest' rfl rfl

theorem splitBars_cons {c : Char} {rest : List Char} (h : ¬ bars <+: c :: rest) :
    splitBars (c :: rest) = match splitBars rest with
      | part :: parts => (c :: part) :: parts
      | [] => [[c]] := by
  refine splitBars.eq_3 c rest ?_
  rintro rest' rfl rfl
  exact h ⟨rest', rfl⟩

/-- Bars that a text does not come to end in are the first ones after it. -/
theorem splitBars_append {front : List Char} (h : ¬ bars <:+: front ++ ['|']) (rest : List Char) :
    splitBars (front ++ bars ++ rest) = front :: splitBars rest := by
  induction front with
  | nil => simp [bars, splitBars]
  | cons c front ih =>
    obtain ⟨hhead, htail⟩ := not_or.mp (List.infix_cons_iff.not.mp h)
    have hbegins : ¬ bars <+: c :: (front ++ bars ++ rest) := by
      cases front <;> simpa [bars] using hhead
    rw [List.cons_append, List.cons_append, splitBars_cons hbegins, ih htail]

theorem splitBars_of_not_infix {cs : List Char} (h : ¬ bars <:+: cs) : splitBars cs = [cs] := by
  induction cs with
  | nil => simp [splitBars]
  | cons c rest ih =>
    obtain ⟨hhead, htail⟩ := not_or.mp (List.infix_cons_iff.not.mp h)
    rw [splitBars_cons hhead, ih htail]

theorem not_infix_of_mem_splitBars {cs part : List Char} (h : part ∈ splitBars cs) :
    ¬ bars <:+: part := by
  -- the first part stands where the text begins
  suffices hall :
      (∀ part ∈ splitBars cs, ¬ bars <:+: part) ∧ ∀ first ∈ (splitBars cs).head?, first <+: cs from
    hall.1 part h
  clear h
  induction cs using splitBars.induct with
  | case1 => simp [splitBars, bars]
  | case2 rest ih => simpa [splitBars, bars] using ih.1
  | case3 c rest hbars first others hrest ih =>
    have hhead := not_bars_isPrefix hbars
    rw [splitBars_cons hhead, hrest]
    rw [hrest] at ih
    obtain ⟨hparts, hfirst⟩ := ih
    have hbegins : first <+: rest := hfirst first (by simp)
    simp only [List.forall_mem_cons] at hparts ⊢
    refine ⟨⟨fun hinfix => ?_, hparts.2⟩, ?_⟩
    · rcases List.infix_cons_iff.mp hinfix with hfront | hinfix
      · exact hhead (hfront.trans (List.prefix_cons_inj c |>.mpr hbegins))
      · exact hparts.1 hinfix
    · simpa using hbegins
  | case4 c rest hbars hrest ih =>
    have hhead := not_bars_isPrefix hbars
    rw [splitBars_cons hhead, hrest]
    simp [bars, List.infix_cons_iff]

/-! ## Alternatives -/

def quotes : List Char := ['\x27', '"']

theorem eq_of_mem_quotes {quote : Char} (h : quote ∈ quotes) : quote = '\x27' ∨ quote = '"' := by
  simpa [quotes] using h

/-- A path as an alternative of a token. Blanks around it do not count. -/
structure Path where
  text : List Char
  isBody : IsBody text
  unquoted : ∀ quote ∈ quotes, quote ∉ text
  whole : ¬ bars <:+: text

/-- A literal as an alternative of a token: a text between two of the same quotes. -/
structure Literal where
  quote : Char
  text : List Char
  isQuote : quote ∈ quotes
  isBody : IsBody text
  closed : quote ∉ text

inductive Alternative
  | path (path : Path)
  | literal (literal : Literal)

namespace Alternative

def written : Alternative → List Char
  | path p => p.text
  | literal l => l.quote :: (l.text ++ [l.quote])

/-- What an alternative shows when it stands alone: the value that a path leads to, if it can be
written, or the text of a literal. -/
def value (view : Fields) : Alternative → Except Json.WriteFault (List Char)
  | path p => (walk (.object view) (trimWhere isBlank p.text)).display.map String.toList
  | literal l => .ok l.text

/-- Whether an alternative is cut in two when a token is read. -/
def IsCut : Alternative → Prop
  | path _ => False
  | literal l => bars <:+: l.text

end Alternative

def joined (alternatives : List Alternative) : List Char :=
  [' ', '|', '|', ' '].intercalate (alternatives.map Alternative.written)

/-- The first text of alternatives that is not empty, unless one before it is missing. -/
def firstText (view : Fields) (alternatives : List Alternative) :
    Except Json.WriteFault (List Char) :=
  ((alternatives.map (Alternative.value view)).find? fun text => text.toOption ≠ some []).getD
    (.ok [])

theorem Alternative.isBody_written (alternative : Alternative) : IsBody alternative.written := by
  cases alternative with
  | path p => exact p.isBody
  | literal l =>
    obtain ⟨hopen, hclose⟩ := l.isBody
    have hneOpen : '\x7b' ≠ l.quote := fun h => absurd (h ▸ l.isQuote) (by decide)
    have hneClose : '\x7d' ≠ l.quote := fun h => absurd (h ▸ l.isQuote) (by decide)
    simp [IsBody, written, hneOpen, hneClose, hopen, hclose]

theorem joined_cons_cons (first second : Alternative) (rest : List Alternative) :
    joined (first :: second :: rest) = first.written ++ [' '] ++ bars ++
      ' ' :: joined (second :: rest) := by
  simp [joined, bars]

theorem isBody_joined (alternatives : List Alternative) : IsBody (joined alternatives) := by
  induction alternatives with
  | nil => decide
  | cons first rest ih =>
    cases rest with
    | nil => simpa [joined] using first.isBody_written
    | cons second rest =>
      obtain ⟨hopen, hclose⟩ := first.isBody_written
      rw [joined_cons_cons]
      simp [IsBody, bars, hopen, hclose, ih.1, ih.2]

/-! ## Blanks around an alternative -/

theorem trimWhere_append {p : Char → Bool} {front back : List Char}
    (hfront : ∀ c ∈ front, p c = true) (hback : ∀ c ∈ back, p c = true) (cs : List Char) :
    trimWhere p (front ++ cs ++ back) = trimWhere p cs := by
  have hreverse : ∀ c ∈ back.reverse, p c = true := by simpa using hback
  unfold trimWhere
  rw [List.append_assoc, List.dropWhile_append_of_pos hfront, List.dropWhile_append]
  split
  · next hempty =>
    have hnone : back.dropWhile p = [] := List.dropWhile_eq_nil_iff.mpr hback
    simp [hnone, List.isEmpty_iff.mp hempty]
  · rw [List.reverse_append, List.dropWhile_append_of_pos hreverse]

theorem isBlank_quote {quote : Char} (h : quote ∈ quotes) : isBlank quote = false := by
  rcases eq_of_mem_quotes h with rfl | rfl <;> decide

theorem trimWhere_quoted {quote : Char} (h : quote ∈ quotes) (text : List Char) :
    trimWhere isBlank (quote :: (text ++ [quote])) = quote :: (text ++ [quote]) := by
  have hquote := isBlank_quote h
  simp [trimWhere, hquote]

theorem literal?_quoted {quote : Char} (h : quote ∈ quotes) (text : List Char) :
    literal? (quote :: (text ++ [quote])) = some text := by
  have hquote : quote = '\x27' ∨ quote = '"' := eq_of_mem_quotes h
  cases text with
  | nil => simp [literal?, hquote]
  | cons c rest =>
    have hlast : ((c :: rest) ++ [quote]).getLast? = some quote := List.getLast?_concat
    have hfront : ((c :: rest) ++ [quote]).dropLast = c :: rest := List.dropLast_concat
    rw [List.cons_append] at hlast hfront
    simp [literal?, hquote, hlast, hfront]

theorem literal?_of_unquoted {cs : List Char} (h : ∀ quote ∈ quotes, quote ∉ cs) :
    literal? cs = none := by
  match cs with
  | [] => rfl
  | [c] => rfl
  | c :: d :: rest =>
    have hquote : ¬ (c = '\x27' ∨ c = '"') := by
      rintro (rfl | rfl)
      · exact h _ (by decide) List.mem_cons_self
      · exact h _ (by decide) List.mem_cons_self
    simp [literal?, hquote]

theorem trimWhere_isInfix (p : Char → Bool) (cs : List Char) : trimWhere p cs <:+: cs := by
  have hend : trimWhere p cs <+: cs.dropWhile p := by
    have hsuffix := List.dropWhile_suffix p (l := (cs.dropWhile p).reverse)
    simpa [trimWhere] using List.reverse_prefix.mpr hsuffix
  exact hend.isInfix.trans (List.dropWhile_suffix p).isInfix

theorem infix_of_literal? {cs text : List Char} (h : literal? cs = some text) : text <:+: cs := by
  unfold literal? at h
  split at h
  · next c d rest =>
    split at h
    · cases h
      exact (List.dropLast_prefix _).isInfix.trans (List.suffix_cons c _).isInfix
    · simp at h
  · simp at h

theorem alternativeText_written {view : Fields} (hview : view.get? "" = none)
    {front back : List Char} (hfront : ∀ c ∈ front, isBlank c = true)
    (hback : ∀ c ∈ back, isBlank c = true) (alternative : Alternative) :
    alternativeText view (front ++ alternative.written ++ back) = alternative.value view := by
  unfold alternativeText
  rw [trimWhere_append hfront hback]
  cases alternative with
  | literal l =>
    rw [Alternative.written, trimWhere_quoted l.isQuote]
    dsimp only
    rw [literal?_quoted l.isQuote]
    rfl
  | path p =>
    have hunquoted : ∀ quote ∈ quotes, quote ∉ trimWhere isBlank p.text :=
      fun quote hquote hmem => p.unquoted quote hquote ((trimWhere_isInfix _ _).subset hmem)
    rw [Alternative.written]
    dsimp only
    rw [literal?_of_unquoted hunquoted]
    dsimp only
    split
    · next hempty =>
      -- no value stands under the empty key
      have hnull : walk (.object view) [] = .null := by simp [walk, pathParts, Value.step, hview]
      simp only [Alternative.value, List.isEmpty_iff.mp hempty, hnull]
      rfl
    · rfl

/-! ## The text of a token -/

theorem not_bars_infix_append {c : Char} (hc : c ≠ '|') {front back : List Char}
    (hfront : ¬ bars <:+: front) (hback : ¬ bars <:+: back) : ¬ bars <:+: front ++ c :: back := by
  induction front with
  | nil =>
    rw [List.nil_append, List.infix_cons_iff, not_or]
    exact ⟨not_bars_isPrefix fun _ h _ => hc h, hback⟩
  | cons d front ih =>
    obtain ⟨hhead, htail⟩ := not_or.mp (List.infix_cons_iff.not.mp hfront)
    rw [List.cons_append, List.infix_cons_iff, not_or]
    refine ⟨not_bars_isPrefix fun rest hd hrest => ?_, ih htail⟩
    cases front with
    | nil => exact hc (List.cons.inj hrest).1
    | cons e front =>
      rw [hd, (List.cons.inj hrest).1] at hhead
      exact hhead ⟨front, rfl⟩

theorem isBlank_of_led {front : List Char} (h : front = [] ∨ front = [' ']) :
    ∀ c ∈ front, isBlank c = true := by
  have hblank : isBlank ' ' = true := by decide
  rcases h with rfl | rfl <;> simp [hblank]

theorem not_bars_infix_written {alternative : Alternative} (h : ¬ alternative.IsCut)
    {front : List Char} (hfront : front = [] ∨ front = [' ']) :
    ¬ bars <:+: front ++ alternative.written ++ [' ', '|'] := by
  have hwritten : ¬ bars <:+: alternative.written ++ [' ', '|'] := by
    cases alternative with
    | path p => exact not_bars_infix_append (by decide) p.whole (by decide)
    | literal l =>
      have hquote : l.quote ≠ '|' := fun h => absurd (h ▸ l.isQuote) (by decide)
      have htext : ¬ bars <:+: l.text ++ l.quote :: [' ', '|'] :=
        not_bars_infix_append hquote h (by decide)
      have hwhole : ¬ bars <:+: [] ++ l.quote :: (l.text ++ l.quote :: [' ', '|']) :=
        not_bars_infix_append hquote (by decide) htext
      simpa [Alternative.written] using hwhole
  rcases hfront with rfl | rfl
  · exact hwritten
  · have hled : ¬ bars <:+: [] ++ ' ' :: (alternative.written ++ [' ', '|']) :=
      not_bars_infix_append (by decide) (by decide) hwritten
    simpa using hled

theorem firstNonEmpty_eq (texts : List (Except Json.WriteFault (List Char))) :
    firstNonEmpty texts = (texts.find? fun text => text.toOption ≠ some []).getD (.ok []) := by
  induction texts with
  | nil => rfl
  | cons text rest ih =>
    cases text with
    | error fault => rfl
    | ok text =>
      rw [firstNonEmpty, ih]
      cases text <;> rfl

section View

variable {view : Fields} (hview : view.get? "" = none)

include hview

theorem map_alternativeText_joined {first : Alternative} {rest : List Alternative}
    (huncut : ∀ alternative ∈ first :: rest, ¬ alternative.IsCut) {front : List Char}
    (hfront : front = [] ∨ front = [' ']) :
    (splitBars (front ++ joined (first :: rest))).map (alternativeText view) =
      (first :: rest).map (Alternative.value view) := by
  induction rest generalizing first front with
  | nil =>
    have hbars := not_bars_infix_written (huncut first List.mem_cons_self) hfront
    have hone : ¬ bars <:+: front ++ first.written :=
      fun h => hbars (h.trans (List.prefix_append _ _).isInfix)
    have htext :=
      alternativeText_written hview (isBlank_of_led hfront)
        (by simp : ∀ c ∈ [], isBlank c = true) first
    rw [List.append_nil] at htext
    simp [joined, splitBars_of_not_infix hone, htext]
  | cons second rest ih =>
    have hbars := not_bars_infix_written (huncut first List.mem_cons_self) hfront
    have hbefore : ¬ bars <:+: front ++ first.written ++ [' '] ++ ['|'] := by simpa using hbars
    have hblank : ∀ c ∈ [' '], isBlank c = true := isBlank_of_led (.inr rfl)
    have htext := alternativeText_written hview (isBlank_of_led hfront) hblank first
    have hrest := ih (fun alternative h => huncut alternative (List.mem_cons_of_mem _ h)) (.inr rfl)
    have hsplit : front ++ joined (first :: second :: rest) =
        front ++ first.written ++ [' '] ++ bars ++ ([' '] ++ joined (second :: rest)) := by
      simp [joined_cons_cons]
    rw [hsplit, splitBars_append hbefore, List.map_cons, hrest, htext]
    rfl

theorem tokenText_joined {alternatives : List Alternative}
    (huncut : ∀ alternative ∈ alternatives, ¬ alternative.IsCut) :
    tokenText view (joined alternatives) = firstText view alternatives := by
  cases alternatives with
  | nil => rfl
  | cons first rest =>
    have hmap := map_alternativeText_joined hview huncut (.inl rfl)
    rw [List.nil_append] at hmap
    rw [tokenText, hmap, firstNonEmpty_eq, firstText]

end View

/-! ## Contexts without bars -/

theorem mem_of_firstNonEmpty {texts : List (Except Json.WriteFault (List Char))} {text : List Char}
    (h : firstNonEmpty texts = .ok text) : text = [] ∨ .ok text ∈ texts := by
  rw [firstNonEmpty_eq] at h
  cases hfind : texts.find? fun text => text.toOption ≠ some [] with
  | none =>
    rw [hfind] at h
    cases h
    exact .inl rfl
  | some found =>
    rw [hfind] at h
    cases h
    exact .inr (List.mem_of_find?_eq_some hfind)

/-- No alternative shows bars, when nothing that a path leads to has a bar. -/
theorem not_bars_infix_alternativeText {view : Fields}
    (hview : ∀ v ∈ (Value.object view).members, v.Barless) {part text : List Char}
    (hpart : ¬ bars <:+: part) (h : alternativeText view part = .ok text) :
    ¬ bars <:+: text := by
  have htrimmed : ¬ bars <:+: trimWhere isBlank part :=
    fun hbars => hpart (hbars.trans (trimWhere_isInfix _ _))
  unfold alternativeText at h
  dsimp only at h
  generalize trimWhere isBlank part = trimmed at htrimmed h
  split at h
  · next hliteral =>
    cases h
    exact fun hbars => htrimmed (hbars.trans (infix_of_literal? hliteral))
  · split at h
    · cases h
      simp [bars]
    · intro hbars
      obtain ⟨shown, hshown, rfl⟩ := map_eq_ok_iff.mp h
      obtain ⟨hspelled, -⟩ := Value.Barless.walk hview trimmed
      unfold Value.display at hshown
      split at hshown
      · cases hshown
        exact hspelled (hbars.subset (by decide))
      · exact nomatch hshown

/-- Nothing that a token shows has bars in it, when nothing that a path leads to has a bar. -/
theorem not_bars_infix_tokenText {view : Fields}
    (hview : ∀ v ∈ (Value.object view).members, v.Barless) {body text : List Char}
    (h : tokenText view body = .ok text) : ¬ bars <:+: text := by
  rcases mem_of_firstNonEmpty h with rfl | hmem
  · simp [bars]
  · obtain ⟨part, hpart, htext⟩ := List.mem_map.mp hmem
    exact not_bars_infix_alternativeText hview (not_infix_of_mem_splitBars hpart) htext

def missing : Alternative :=
  .path ⟨"variables.missing".toList, by decide, by simp [quotes], by decide⟩

def nobody : Alternative := .literal ⟨'\x27', "nobody".toList, by decide, by decide, by decide⟩

def eitherOr : Alternative := .literal ⟨'\x27', "a||b".toList, by decide, by decide, by decide⟩

end Template

namespace Context

def unknown : Context := { email := { id := "" } }

theorem barless_unknown : ∀ v ∈ (Value.object (unknown.view [])).members, v.Barless := by
  intro v hv
  simp only [view, Value.members, List.map_cons, List.map_nil, List.mem_cons, List.not_mem_nil,
    or_false] at hv
  rcases hv with rfl | rfl | rfl | rfl | rfl <;>
    exact .of_flat (by decide +kernel) (by decide +kernel)

theorem resolve_written (context : Context) (bindings : Fields) {body : List Char}
    (h : Template.IsBody body) :
    context.resolve bindings (String.ofList (Template.written body)) =
      (Template.tokenText (context.view bindings) body).map String.ofList := by
  have hpieces : Template.pieces (Template.written body ++ []) = [.token body] := by
    rw [Template.pieces_token h, Template.pieces_nil]
  rw [List.append_nil] at hpieces
  rw [resolve, String.toList_ofList, Template.expand, hpieces, List.map_singleton,
    Template.joinTexts_one]
  rfl

/-- Whatever selection of alternatives a token is made of, it shows the first text of them that is
not empty, in every context, exactly when none of their literals has two bars in it. A path whose
value cannot be written spoils the token when it is reached. -/
theorem resolve_joined_iff (alternatives : List Template.Alternative) :
    (∀ (context : Context) (bindings : Fields) (chosen : List Template.Alternative),
      chosen.Sublist alternatives →
      context.resolve bindings (String.ofList (Template.written (Template.joined chosen))) =
        (Template.firstText (context.view bindings) chosen).map String.ofList) ↔
      ∀ literal, .literal literal ∈ alternatives → ¬ Template.bars <:+: literal.text := by
  constructor
  · intro hshown literal hmem hbars
    have hone := hshown unknown [] [.literal literal] (List.singleton_sublist.mpr hmem)
    rw [resolve_written unknown [] (Template.isBody_joined _)] at hone
    have hfirst : Template.firstText (unknown.view []) [.literal literal] = .ok literal.text := by
      cases htext : literal.text <;>
        simp [Template.firstText, Template.Alternative.value, htext, Except.toOption]
    rw [hfirst] at hone
    obtain ⟨text, htext, hsame⟩ := map_eq_ok_iff.mp hone
    rw [← String.ofList_injective hsame] at hbars
    exact Template.not_bars_infix_tokenText barless_unknown htext hbars
  · intro hwhole context bindings chosen hchosen
    have huncut : ∀ alternative ∈ chosen, ¬ alternative.IsCut := by
      intro alternative hmem
      cases alternative with
      | path p => exact not_false
      | literal l => exact hwhole l (hchosen.subset hmem)
    rw [resolve_written context bindings (Template.isBody_joined _),
      Template.tokenText_joined rfl huncut]

theorem resolve_joined_iff_nobody :
    (∀ literal, .literal literal ∈ [Template.missing, Template.nobody] →
      ¬ Template.bars <:+: literal.text) ∧
    (unknown.resolve []
      (String.ofList (Template.written (Template.joined [Template.missing, Template.nobody]))) =
      .ok "nobody") ∧
    ¬ ∀ (context : Context) (bindings : Fields) (chosen : List Template.Alternative),
      chosen.Sublist [Template.missing, Template.eitherOr] →
        context.resolve bindings (String.ofList (Template.written (Template.joined chosen))) =
          (Template.firstText (context.view bindings) chosen).map String.ofList := by
  have hwhole : ∀ literal, .literal literal ∈ [Template.missing, Template.nobody] →
      ¬ Template.bars <:+: literal.text := by
    intro literal hmem
    simp only [Template.missing, Template.nobody, List.mem_cons, reduceCtorEq,
      Template.Alternative.literal.injEq,
      List.not_mem_nil, or_false, false_or] at hmem
    subst hmem
    decide
  refine ⟨hwhole, ?_, fun hall => ?_⟩
  · rw [(resolve_joined_iff _).mpr hwhole unknown [] _ (.refl _)]
    decide +kernel
  · exact (resolve_joined_iff _).mp hall ⟨'\x27', "a||b".toList, by decide, by decide, by decide⟩
      (List.mem_cons_of_mem _ List.mem_cons_self) (by decide)

end Context

end MailTriage

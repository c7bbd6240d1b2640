import MailTriage.Pattern.Matcher
import Mathlib

/-!
# The language of a pattern

Every node of a pattern has a language that holds whatever the node takes. Looking ahead or behind
takes nothing; a reference to a group may take anything. The matcher tries one way after another,
and whichever it comes back with has spelled a word of the language: this is shown for a single step
once, for every way of repeating a step, and then by induction over the tree.
-/

namespace MailTriage.Pattern

variable {text : Array Char}

/-! ## Slices -/

@[simp] theorem slice_self (place : Nat) : slice text place place = [] := by
  simp [slice]

theorem slice_append {first middle last : Nat} (h : first ≤ middle) (h' : middle ≤ last) :
    slice text first middle ++ slice text middle last = slice text first last := by
  rw [slice, slice, slice, ← Array.toList_append, Array.extract_append_extract, min_eq_left h,
    max_eq_right h']

theorem slice_succ {place : Nat} {c : Char} (h : text[place]? = some c) :
    slice text place (place + 1) = [c] := by
  obtain ⟨hlt, rfl⟩ := Array.getElem?_eq_some_iff.mp h
  rw [slice, Array.toList_extract, List.extract_eq_take_drop, Nat.add_sub_cancel_left,
    List.drop_eq_getElem_cons hlt, List.take_succ_cons, List.take_zero, Array.getElem_toList]

/-! ## Languages -/

/-- The texts of one character that satisfies `p`. -/
def oneWhere (p : Nat → Bool) : Language Char := {word | ∃ c, word = [c] ∧ p c.toNat = true}

/-- Words of a language, one after another, as many as a repetition may add to `count` of them. -/
def addedTo (count least : Nat) (most : Option Nat) (L : Language Char) : Language Char :=
  {word | ∃ words : List (List Char), word = words.flatten ∧ (∀ w ∈ words, w ∈ L) ∧
    least ≤ count + words.length ∧ ∀ n,
      most = some n → count + words.length ≤ max (max least n) count}

/-- The texts of characters that satisfy `p`. -/
def allWhere (p : Char → Prop) : Language Char := {word | ∀ c ∈ word, p c}

section AllWhere

variable {p : Char → Prop} {L M : Language Char}

theorem one_le_allWhere : 1 ≤ allWhere p := by
  rintro _ rfl c hc
  simp at hc

theorem oneWhere_le_allWhere {q : Nat → Bool} (h : ∀ c : Char, q c.toNat = true → p c) :
    oneWhere q ≤ allWhere p := by
  rintro _ ⟨c, rfl, hq⟩ d hd
  rw [List.mem_singleton.mp hd]
  exact h c hq

theorem mul_le_allWhere (hL : L ≤ allWhere p) (hM : M ≤ allWhere p) : L * M ≤ allWhere p := by
  rintro _ ⟨a, ha, b, hb, rfl⟩ c hc
  rcases List.mem_append.mp hc with hc | hc
  · exact hL ha c hc
  · exact hM hb c hc

theorem prod_le_allWhere {languages : List (Language Char)} (h : ∀ L ∈ languages, L ≤ allWhere p) :
    languages.prod ≤ allWhere p := by
  induction languages with
  | nil => exact one_le_allWhere
  | cons L rest ih =>
    rw [List.prod_cons]
    exact mul_le_allWhere (h L (by simp)) (ih fun M hM => h M (by simp [hM]))

theorem addedTo_le_allWhere {count least : Nat} {most : Option Nat} (hL : L ≤ allWhere p) :
    addedTo count least most L ≤ allWhere p := by
  rintro _ ⟨words, rfl, hwords, -⟩ c hc
  obtain ⟨w, hw, hcw⟩ := List.mem_flatten.mp hc
  exact hL (hwords w hw) c hcw

end AllWhere

def Node.language : Flags → Node → Language Char
  | _, .empty => 1
  | flags, .literal negated code => oneWhere fun n => flags.literalTakes code n != negated
  | flags, .any => oneWhere fun n => flags.dotAll || n != 10
  | flags, .oneOf negated items => oneWhere fun n => flags.setTakes items n != negated
  | _, .anchor _ => 1
  | flags, .seq a b => a.language flags * b.language flags
  | flags, .alt a b => a.language flags + b.language flags
  | flags, .group _ body => body.language flags
  | flags, .switched on off body => body.language (flags.inside on off)
  | flags, .atomic body => body.language flags
  | _, .ahead .. => 1
  | _, .behind .. => 1
  | _, .sameAs _ => ⊤
  | flags, .ifGroup _ yes no => yes.language flags + no.language flags
  | flags, .repeated _ least most body => addedTo 0 least most (body.language flags)

theorem Node.ofList_language (flags : Flags) (nodes : List Node) :
    (Node.ofList nodes).language flags = (nodes.map (Node.language flags)).prod := by
  induction nodes using Node.ofList.induct with
  | case1 => rfl
  | case2 node => simp [Node.ofList]
  | case3 node rest hne ih =>
    rw [Node.ofList, Node.language, ih, List.map_cons, List.prod_cons]; exact hne

/-! ## Steps -/

/-- Every match that a step leads to goes on from where the step has spelled a word of a
language. -/
def Step.Spells (text : Array Char) (L : Language Char) (step : Step) : Prop :=
  ∀ ⦃spot rest found⦄, step spot rest = some found →
    ∃ next : Spot, spot.place ≤ next.place ∧ slice text spot.place next.place ∈ L ∧
      rest next = some found

theorem takeOne_spells (p : Nat → Bool) : Step.Spells text (oneWhere p) (takeOne text p) := by
  intro spot rest found h
  unfold takeOne at h
  split at h
  · next c hc =>
    split at h
    · next hp => exact ⟨_, Nat.le_succ _, ⟨c, slice_succ hc, hp⟩, h⟩
    · simp at h
  · simp at h

/-! ## Repetitions -/

section Repeated

variable {L : Language Char} {least : Nat} {most : Option Nat}

theorem nil_mem_addedTo {count : Nat} (h : least ≤ count) : [] ∈ addedTo count least most L :=
  ⟨[], rfl, by simp, by simpa using h, by simp⟩

theorem append_mem_addedTo {count : Nat} {first rest : List Char} (hfirst : first ∈ L)
    (hrest : rest ∈ addedTo (count + 1) least most L)
    (hcount : count < least ∨ most.all (count < ·) = true) :
    first ++ rest ∈ addedTo count least most L := by
  obtain ⟨words, rfl, hwords, hleast, hmost⟩ := hrest
  refine ⟨first :: words, rfl, ?_, ?_, ?_⟩
  · intro w hw
    rcases List.mem_cons.mp hw with rfl | hw
    · exact hfirst
    · exact hwords w hw
  · rw [List.length_cons]
    omega
  · rintro n rfl
    have hbound := hmost n rfl
    simp only [Option.all_some, decide_eq_true_eq] at hcount
    rw [List.length_cons]
    omega

theorem exists_addedTo {count : Nat} {spot middle : Spot} {rest : Rest} {found : Spot}
    (hle : spot.place ≤ middle.place) (hword : slice text spot.place middle.place ∈ L)
    (hcount : count < least ∨ most.all (count < ·) = true)
    (hrest : ∃ next : Spot, middle.place ≤ next.place ∧
      slice text middle.place next.place ∈ addedTo (count + 1) least most L ∧
        rest next = some found) :
    ∃ next : Spot, spot.place ≤ next.place ∧
      slice text spot.place next.place ∈ addedTo count least most L ∧ rest next = some found := by
  obtain ⟨next, hle', hwords, hnext⟩ := hrest
  refine ⟨next, hle.trans hle', ?_, hnext⟩
  rw [← slice_append hle hle']
  exact append_mem_addedTo hword hwords hcount

theorem exists_addedTo_self {count : Nat} {spot : Spot} {rest : Rest} {found : Spot}
    (hcount : ¬ count < least) (hrest : rest spot = some found) :
    ∃ next : Spot, spot.place ≤ next.place ∧
      slice text spot.place next.place ∈ addedTo count least most L ∧ rest next = some found := by
  refine ⟨spot, le_rfl, ?_, hrest⟩
  rw [slice_self]
  exact nil_mem_addedTo (Nat.le_of_not_lt hcount)

variable {step : Step} (hstep : step.Spells text L)

include hstep

theorem runGreedy_spells (budget count : Nat) (last : Option Nat) :
    Step.Spells text (addedTo count least most L)
      (runGreedy step least most budget count last) := by
  induction budget generalizing count last with
  | zero => intro spot rest found h; simp [runGreedy] at h
  | succ budget ih =>
    intro spot rest found h
    rw [runGreedy] at h
    split at h
    · next hless =>
      obtain ⟨middle, hle, hword, hmiddle⟩ := hstep h
      exact exists_addedTo hle hword (.inl hless) (ih _ _ hmiddle)
    · next hleast =>
      split at h
      -- one more run is tried first; when nothing comes of it, the rest goes on from here
      · next hmore =>
        split at h
        · next hfound =>
          obtain rfl := Option.some.inj h
          obtain ⟨middle, hle, hword, hmiddle⟩ := hstep hfound
          exact exists_addedTo hle hword (.inr (Bool.and_eq_true_iff.mp hmore).1) (ih _ _ hmiddle)
        · exact exists_addedTo_self hleast h
      · exact exists_addedTo_self hleast h

theorem runLazy_spells (budget count : Nat) (last : Option Nat) :
    Step.Spells text (addedTo count least most L) (runLazy step least most budget count last) := by
  induction budget generalizing count last with
  | zero => intro spot rest found h; simp [runLazy] at h
  | succ budget ih =>
    intro spot rest found h
    rw [runLazy] at h
    split at h
    · next hless =>
      obtain ⟨middle, hle, hword, hmiddle⟩ := hstep h
      exact exists_addedTo hle hword (.inl hless) (ih _ _ hmiddle)
    · next hleast =>
      split at h
      · next hfound =>
        obtain rfl := Option.some.inj h
        exact exists_addedTo_self hleast hfound
      · split at h
        · next hmore =>
          obtain ⟨middle, hle, hword, hmiddle⟩ := hstep h
          exact exists_addedTo hle hword (.inr (Bool.and_eq_true_iff.mp hmore).1) (ih _ _ hmiddle)
        · simp at h

/-- Runs that are never given back are each the best one, so what follows does not matter to
them. -/
theorem runPossessive_spells (budget count : Nat) (last : Option Nat) :
    Step.Spells text (addedTo count least most L) fun spot rest =>
      (runPossessive step least most budget count last spot).bind rest := by
  induction budget generalizing count last with
  | zero => intro spot rest found h; simp [runPossessive] at h
  | succ budget ih =>
    intro spot rest found h
    dsimp only at h
    rw [runPossessive] at h
    split at h
    · next hless =>
      split at h
      · next hnext =>
        obtain ⟨_, hle, hword, hsome⟩ := hstep hnext
        obtain rfl := Option.some.inj hsome
        exact exists_addedTo hle hword (.inl hless) (ih _ _ h)
      · simp at h
    · next hleast =>
      split at h
      · next hmore =>
        split at h
        · next hnext =>
          obtain ⟨_, hle, hword, hsome⟩ := hstep hnext
          obtain rfl := Option.some.inj hsome
          exact exists_addedTo hle hword (.inr (Bool.and_eq_true_iff.mp hmore).1) (ih _ _ h)
        · exact exists_addedTo_self hleast h
      · exact exists_addedTo_self hleast h

theorem runRepeated_spells (appetite : Appetite) :
    Step.Spells text (addedTo 0 least most L) (runRepeated text appetite least most step) := by
  intro spot rest found h
  unfold runRepeated at h
  cases appetite with
  | greedy => exact runGreedy_spells hstep _ _ _ h
  | lazy => exact runLazy_spells hstep _ _ _ h
  | possessive => exact runPossessive_spells hstep _ _ _ h

end Repeated

/-! ## Nodes -/

theorem Step.Spells.mono {L M : Language Char} {step : Step} (h : step.Spells text L)
    (hle : L ≤ M) :
    step.Spells text M := by
  intro spot rest found hfound
  obtain ⟨next, hnext, hword, hrest⟩ := h hfound
  exact ⟨next, hnext, hle hword, hrest⟩

/-- Going on from the same place, nothing has been taken. -/
theorem exists_nothing {spot next : Spot} {rest : Rest} {found : Spot}
    (hrest : rest next = some found) (hplace : next.place = spot.place) :
    ∃ next : Spot, spot.place ≤ next.place ∧
      slice text spot.place next.place ∈ (1 : Language Char) ∧
      rest next = some found := by
  refine ⟨next, hplace.ge, ?_, hrest⟩
  rw [hplace, slice_self]
  rfl

theorem Step.Spells.seq {L M : Language Char} {first second : Step} (hfirst : first.Spells text L)
    (hsecond : second.Spells text M) :
    Step.Spells text (L * M) fun spot rest => first spot fun next => second next rest := by
  intro spot rest found h
  obtain ⟨middle, hle, hword, hmiddle⟩ := hfirst h
  obtain ⟨next, hle', hword', hnext⟩ := hsecond hmiddle
  refine ⟨next, hle.trans hle', ?_, hnext⟩
  rw [← slice_append hle hle']
  exact Language.append_mem_mul hword hword'

theorem Step.Spells.alt {L M : Language Char} {first second : Step} (hfirst : first.Spells text L)
    (hsecond : second.Spells text M) :
    Step.Spells text (L + M) fun spot rest =>
      match first spot rest with
      | some found => some found
      | none => second spot rest := by
  intro spot rest found h
  dsimp only at h
  split at h
  · next hfound =>
    obtain rfl := Option.some.inj h
    exact hfirst.mono (le_add_of_nonneg_right bot_le) hfound
  · exact hsecond.mono (le_add_of_nonneg_left bot_le) h

theorem Step.Spells.atomic {L : Language Char} {step : Step} (hstep : step.Spells text L) :
    Step.Spells text L fun spot rest => (step spot some).bind rest := by
  intro spot rest found h
  obtain ⟨next, hnext, hrest⟩ := Option.bind_eq_some_iff.mp h
  obtain ⟨_, hle, hword, hsome⟩ := hstep hnext
  obtain rfl := Option.some.inj hsome
  exact ⟨_, hle, hword, hrest⟩

namespace Node

variable (flags : Flags)

theorem run_anchor_spells (anchor : Anchor) :
    Step.Spells text 1 ((Node.anchor anchor).run text flags) := by
  intro spot rest found h
  rw [Node.run] at h
  split at h
  · exact exists_nothing h rfl
  · simp at h

/-- A look ahead takes nothing, whatever it has seen. -/
theorem run_ahead_spells (negated : Bool) (body : Node) :
    Step.Spells text 1 ((Node.ahead negated body).run text flags) := by
  intro spot rest found h
  rw [Node.run] at h
  split at h
  · split at h
    · simp at h
    · exact exists_nothing h rfl
  · split at h
    · exact exists_nothing h rfl
    · simp at h

theorem run_behind_spells (negated : Bool) (least most : Nat) (body : Node) :
    Step.Spells text 1 ((Node.behind negated least most body).run text flags) := by
  intro spot rest found h
  rw [Node.run] at h
  split at h
  · split at h
    · exact exists_nothing h rfl
    · simp at h
  · split at h
    · split at h
      · simp at h
      · exact exists_nothing h rfl
    · split at h
      · exact exists_nothing h rfl
      · simp at h

theorem run_sameAs_spells (index : Nat) :
    Step.Spells text ⊤ ((Node.sameAs index).run text flags) := by
  intro spot rest found h
  rw [Node.run] at h
  split at h
  · split at h
    · exact ⟨_, Nat.le_add_right _ _, trivial, h⟩
    · simp at h
  · simp at h

theorem run_ifGroup_spells {L M : Language Char} {index : Nat} {yes no : Node}
    (hyes : Step.Spells text L (yes.run text flags))
    (hno : Step.Spells text M (no.run text flags)) :
    Step.Spells text (L + M) ((Node.ifGroup index yes no).run text flags) := by
  intro spot rest found h
  rw [Node.run] at h
  split at h
  · exact hyes.mono (le_add_of_nonneg_right bot_le) h
  · exact hno.mono (le_add_of_nonneg_left bot_le) h

/-- A group remembers where it began and ended, and takes what its body takes. -/
theorem run_group_spells {L : Language Char} {index : Nat} {body : Node}
    (hbody : Step.Spells text L (body.run text flags)) :
    Step.Spells text L ((Node.group index body).run text flags) := by
  intro spot rest found h
  obtain ⟨next, hle, hword, hnext⟩ := hbody h
  refine ⟨_, ?_, ?_, hnext⟩
  · exact hle
  · exact hword

theorem run_spells (node : Node) (flags : Flags) :
    Step.Spells text (node.language flags) (node.run text flags) := by
  induction node generalizing flags with
  | empty => exact fun spot rest found h => exists_nothing h rfl
  | literal | any | oneOf => exact takeOne_spells _
  | anchor anchor => exact run_anchor_spells flags anchor
  | seq a b iha ihb => exact (iha flags).seq (ihb flags)
  | alt a b iha ihb => exact (iha flags).alt (ihb flags)
  | group index body ih => exact run_group_spells flags (ih flags)
  | switched on off body ih => exact ih _
  | atomic body ih => exact (ih flags).atomic
  | ahead negated body => exact run_ahead_spells flags negated body
  | behind negated least most body => exact run_behind_spells flags negated least most body
  | sameAs index => exact run_sameAs_spells flags index
  | ifGroup index yes no ihyes ihno => exact run_ifGroup_spells flags (ihyes flags) (ihno flags)
  | repeated appetite least most body ih => exact runRepeated_spells (ih flags) appetite

end Node

/-! ## Matches -/

theorem matchAt?_mem_language {pattern : Pattern} {place : Nat} {found : Match}
    (h : pattern.matchAt? text place = some found) :
    found.first = place ∧
      slice text found.first found.last ∈ pattern.root.language pattern.flags := by
  unfold matchAt? at h
  dsimp only at h
  split at h
  · next spot hspot =>
    obtain rfl := Option.some.inj h
    obtain ⟨_, -, hword, hsome⟩ := pattern.root.run_spells pattern.flags hspot
    obtain rfl := Option.some.inj hsome
    exact ⟨rfl, hword⟩
  · simp at h

theorem exists_of_searchFrom? {pattern : Pattern} {place tries : Nat} {found : Match}
    (h : pattern.searchFrom? text place tries = some found) :
    ∃ start, pattern.matchAt? text start = some found := by
  induction tries generalizing place with
  | zero => exact ⟨place, h⟩
  | succ tries ih =>
    rw [searchFrom?] at h
    split at h
    · next hfound => exact ⟨place, hfound.trans h⟩
    · exact ih h

theorem slice_mem_language_of_mem_allMatches {pattern : Pattern} {found : Match}
    (h : found ∈ pattern.allMatches text) :
    slice text found.first found.last ∈ pattern.root.language pattern.flags := by
  have hfrom (place fuel : Nat) : found ∈ pattern.matchesFrom text place fuel →
      ∃ start, pattern.matchAt? text start = some found := by
    induction fuel generalizing place with
    | zero => simp [matchesFrom]
    | succ fuel ih =>
      intro hmem
      rw [matchesFrom] at hmem
      split at hmem
      · simp at hmem
      · split at hmem
        · simp at hmem
        · next hsearch =>
          rcases List.mem_cons.mp hmem with rfl | hrest
          · exact exists_of_searchFrom? hsearch
          · exact ih _ hrest
  obtain ⟨start, hstart⟩ := hfrom _ _ h
  exact (matchAt?_mem_language hstart).2

end MailTriage.Pattern

import MailTriage.Proofs.Pattern.Language

/-!
# Patterns miss no match

A node that neither remembers nor looks around leads to a match exactly when a word of its language
begins where it starts and what comes after it matches behind that word. Nothing is lost by trying
one way after another, and a greedy repetition has runs enough for every word, as long as what it
repeats always takes something. So a pattern has no match in a text exactly when there is none at
any place of it.
-/

namespace MailTriage.Pattern

variable {text : Array Char}

/-! ## Slices -/

theorem slice_eq_take_drop (text : Array Char) (first last : Nat) :
    slice text first last = (text.toList.drop first).take (last - first) := by
  rw [slice, Array.toList_extract, List.extract_eq_take_drop]

theorem length_slice {first last : Nat} (h : last ≤ text.size) :
    (slice text first last).length = last - first := by
  rw [slice_eq_take_drop, List.length_take, List.length_drop, Array.length_toList]
  omega

theorem eq_of_slice_eq_nil {first last : Nat} (hle : first ≤ last) (hlast : last ≤ text.size)
    (h : slice text first last = []) : first = last := by
  have hlength : (slice text first last).length = last - first := length_slice hlast
  rw [h, List.length_nil] at hlength
  omega

/-- A slice that is two words one after another is cut between them. -/
theorem exists_of_slice_eq_append {first last : Nat} {front back : List Char} (hle : first ≤ last)
    (hlast : last ≤ text.size) (h : slice text first last = front ++ back) :
    ∃ middle, first ≤ middle ∧ middle ≤ last ∧ slice text first middle = front ∧
      slice text middle last = back := by
  have hlength : (slice text first last).length = last - first := length_slice hlast
  rw [h, List.length_append] at hlength
  refine ⟨first + front.length, by omega, by omega, ?_, ?_⟩
  · have htake :
        slice text first (first + front.length) = (slice text first last).take front.length := by
      rw [slice_eq_take_drop, slice_eq_take_drop, List.take_take, Nat.add_sub_cancel_left,
        min_eq_left (by omega)]
    rw [htake, h, List.take_left]
  · have hdrop :
        slice text (first + front.length) last = (slice text first last).drop front.length := by
      rw [slice_eq_take_drop, slice_eq_take_drop, List.drop_take, List.drop_drop]
      congr 1
      omega
    rw [hdrop, h, List.drop_left]

/-! ## Steps -/

/-- A step that leads to a match exactly when some word of a language begins where it starts and the
rest leads to a match behind that word. -/
def Step.Finds (text : Array Char) (L : Language Char) (step : Step) : Prop :=
  ∀ (spot : Spot) (rest : Rest), spot.place ≤ text.size →
    ((step spot rest).isSome = true ↔ ∃ last, spot.place ≤ last ∧ last ≤ text.size ∧
      slice text spot.place last ∈ L ∧ (rest { spot with place := last }).isSome = true)

theorem isSome_either (first second : Option Spot) :
    (match first with
      | some found => some found
      | none => second).isSome = true ↔ first.isSome = true ∨ second.isSome = true := by
  cases first <;> simp

/-- A word of a language begins at a place, and the rest leads to a match behind it. -/
def Reaches (text : Array Char) (L : Language Char) (spot : Spot) (rest : Rest) : Prop :=
  ∃ last, spot.place ≤ last ∧ last ≤ text.size ∧ slice text spot.place last ∈ L ∧
    (rest { spot with place := last }).isSome = true

theorem reaches_one_iff {spot : Spot} {rest : Rest} (hplace : spot.place ≤ text.size) :
    Reaches text 1 spot rest ↔ (rest spot).isSome = true := by
  constructor
  · rintro ⟨last, hle, hlast, hword, h⟩
    have heq := eq_of_slice_eq_nil hle hlast hword
    rwa [← heq] at h
  · intro h
    exact ⟨spot.place, le_rfl, hplace, by simp [Language.mem_one], h⟩

theorem reaches_add_iff {L M : Language Char} {spot : Spot} {rest : Rest} :
    Reaches text (L + M) spot rest ↔ Reaches text L spot rest ∨ Reaches text M spot rest := by
  constructor
  · rintro ⟨last, hle, hlast, hword | hword, h⟩
    · exact .inl ⟨last, hle, hlast, hword, h⟩
    · exact .inr ⟨last, hle, hlast, hword, h⟩
  · rintro (⟨last, hle, hlast, hword, h⟩ | ⟨last, hle, hlast, hword, h⟩)
    · exact ⟨last, hle, hlast, .inl hword, h⟩
    · exact ⟨last, hle, hlast, .inr hword, h⟩

/-- A step that finds words of one language, before something that finds words of another behind
these. -/
theorem Step.Finds.before {L M : Language Char} {first : Step} (hfirst : first.Finds text L)
    {spot : Spot} {next rest : Rest} (hplace : spot.place ≤ text.size)
    (hnext : ∀ middle, spot.place ≤ middle → middle ≤ text.size → slice text spot.place middle ∈ L →
      ((next { spot with place := middle }).isSome = true ↔
        Reaches text M { spot with place := middle } rest)) :
    (first spot next).isSome = true ↔ Reaches text (L * M) spot rest := by
  rw [hfirst spot next hplace]
  constructor
  · rintro ⟨middle, hle, hmiddle, hword, h⟩
    obtain ⟨last, hle', hlast, hword', hrest⟩ := (hnext middle hle hmiddle hword).mp h
    refine ⟨last, hle.trans hle', hlast, ?_, hrest⟩
    rw [← slice_append hle hle']
    exact Language.append_mem_mul hword hword'
  · rintro ⟨last, hle, hlast, ⟨front, hfront, back, hback, hsplit⟩, hrest⟩
    obtain ⟨middle, hle', hmiddle, rfl, rfl⟩ := exists_of_slice_eq_append hle hlast hsplit.symm
    have hmiddle' := hmiddle.trans hlast
    exact ⟨middle, hle', hmiddle', hfront,
      (hnext middle hle' hmiddle' hfront).mpr ⟨last, hmiddle, hlast, hback, hrest⟩⟩

theorem Step.finds_one : Step.Finds text 1 fun spot rest => rest spot :=
  fun _ _ hplace => (reaches_one_iff hplace).symm

theorem takeOne_finds (p : Nat → Bool) : Step.Finds text (oneWhere p) (takeOne text p) := by
  intro spot rest hplace
  unfold takeOne
  constructor
  · intro h
    split at h
    · next c hc =>
      split at h
      · next hp =>
        obtain ⟨hlt, -⟩ := Array.getElem?_eq_some_iff.mp hc
        exact ⟨spot.place + 1, by omega, hlt, ⟨c, slice_succ hc, hp⟩, h⟩
      · simp at h
    · simp at h
  · rintro ⟨last, hle, hlast, ⟨c, hword, hp⟩, h⟩
    have hlength : (slice text spot.place last).length = last - spot.place := length_slice hlast
    rw [hword, List.length_singleton] at hlength
    obtain rfl : last = spot.place + 1 := by omega
    have hc : text[spot.place]? = some text[spot.place] := Array.getElem?_eq_getElem (by omega)
    have heq : text[spot.place] = c := by
      have := (slice_succ hc).symm.trans hword
      simpa using this
    rw [hc]
    dsimp only
    rw [heq, if_pos hp]
    exact h

theorem Step.Finds.seq {L M : Language Char} {first second : Step} (hfirst : first.Finds text L)
    (hsecond : second.Finds text M) :
    Step.Finds text (L * M) fun spot rest => first spot fun next => second next rest :=
  fun _ rest hplace => hfirst.before hplace fun _ _ hmiddle _ => hsecond _ rest hmiddle

theorem Step.Finds.alt {L M : Language Char} {first second : Step} (hfirst : first.Finds text L)
    (hsecond : second.Finds text M) :
    Step.Finds text (L + M) fun spot rest =>
      match first spot rest with
      | some found => some found
      | none => second spot rest := by
  intro spot rest hplace
  refine (isSome_either _ _).trans ?_
  rw [hfirst spot rest hplace, hsecond spot rest hplace]
  exact reaches_add_iff.symm

/-! ## Repetitions -/

section Repeated

variable {L : Language Char} {least : Nat} {most : Option Nat}

/-- A repetition ends, or it runs once more. -/
theorem mem_addedTo_iff {count : Nat} {word : List Char} :
    word ∈ addedTo count least most L ↔
      least ≤ count ∧ word = [] ∨
        (count < least ∨ most.all (count < ·) = true) ∧
          word ∈ L * addedTo (count + 1) least most L := by
  constructor
  · rintro ⟨words, rfl, hwords, hleast, hmost⟩
    cases words with
    | nil => exact .inl ⟨by simpa using hleast, rfl⟩
    | cons first words =>
      rw [List.forall_mem_cons] at hwords
      simp only [List.length_cons] at hleast hmost
      refine .inr ⟨?_, first, hwords.1, words.flatten, ⟨words, rfl, hwords.2, by omega, ?_⟩, rfl⟩
      · by_cases hcount : count < least
        · exact .inl hcount
        · refine .inr ?_
          cases most with
          | none => rfl
          | some n =>
            have hbound := hmost n rfl
            simp only [Option.all_some, decide_eq_true_eq]
            omega
      · intro n hn
        have hbound := hmost n hn
        omega
  · rintro (⟨hleast, rfl⟩ | ⟨hcount, first, hfirst, rest, hrest, rfl⟩)
    · exact nil_mem_addedTo hleast
    · exact append_mem_addedTo hfirst hrest hcount

/-- As long as there are too few runs, there is one more. -/
theorem addedTo_of_lt {count : Nat} (h : count < least) :
    addedTo count least most L = L * addedTo (count + 1) least most L := by
  ext word
  rw [mem_addedTo_iff, or_iff_right fun hnil => Nat.not_le_of_lt h hnil.1, and_iff_right (.inl h)]

theorem addedTo_of_more {count : Nat} (h : ¬ count < least) (hmore : most.all (count < ·) = true) :
    addedTo count least most L = L * addedTo (count + 1) least most L + 1 := by
  ext word
  rw [mem_addedTo_iff, and_iff_right (Nat.le_of_not_lt h), and_iff_right (.inr hmore), or_comm]
  rfl

/-- When there are as many runs as there may be, there is no other. -/
theorem addedTo_of_full {count : Nat} (h : ¬ count < least)
    (hfull : ¬ most.all (count < ·) = true) :
    addedTo count least most L = 1 := by
  ext word
  rw [mem_addedTo_iff, and_iff_right (Nat.le_of_not_lt h),
    or_iff_left fun hcount => (not_or.mpr ⟨h, hfull⟩) hcount.1]
  rfl

theorem mem_addedTo_oneWhere_iff {p : Nat → Bool} {word : List Char} :
    word ∈ addedTo 0 least most (oneWhere p) ↔
      (∀ c ∈ word, p c.toNat = true) ∧ least ≤ word.length ∧ ∀ n, most = some n →
        word.length ≤ max least n := by
  constructor
  · rintro ⟨words, rfl, hwords, hleast, hmost⟩
    have hlength : words.flatten.length = words.length := by
      rw [List.length_flatten, List.sum_eq_card_nsmul (words.map List.length) 1]
      · simp
      · intro n hn
        obtain ⟨w, hw, rfl⟩ := List.mem_map.mp hn
        obtain ⟨c, rfl, -⟩ := hwords w hw
        rfl
    refine ⟨?_, ?_, ?_⟩
    · intro c hc
      obtain ⟨w, hw, hcw⟩ := List.mem_flatten.mp hc
      obtain ⟨d, rfl, hd⟩ := hwords w hw
      rwa [List.mem_singleton.mp hcw]
    · omega
    · intro n hn
      have hbound := hmost n hn
      omega
  · rintro ⟨hword, hleast, hmost⟩
    refine ⟨word.map fun c => [c], ?_, ?_, ?_, ?_⟩
    · rw [← List.flatMap_def, List.flatMap_singleton']
    · intro w hw
      obtain ⟨c, hc, rfl⟩ := List.mem_map.mp hw
      exact ⟨c, rfl, hword c hc⟩
    · rw [List.length_map]
      omega
    · intro n hn
      have hbound := hmost n hn
      rw [List.length_map]
      omega

variable {step : Step} (hstep : step.Finds text L) (hsome : [] ∉ L)

include hstep hsome

theorem runOnce_finds {budget count : Nat} {last : Option Nat} {spot : Spot} {rest : Rest}
    (hplace : spot.place ≤ text.size) (hlast : ∀ place ∈ last, place ≤ spot.place)
    (hrest : ∀ next : Spot,
      next.place ≤ text.size → spot.place < next.place → (∀ place ∈ last, place < next.place) →
      ((runGreedy step least most budget (count + 1) last next rest).isSome = true ↔
        Reaches text (addedTo (count + 1) least most L) next rest)) :
    (step spot fun next =>
      runGreedy step least most budget (count + 1) last next rest).isSome = true ↔
      Reaches text (L * addedTo (count + 1) least most L) spot rest := by
  refine hstep.before hplace fun middle hle hmiddle hword => ?_
  have hne : spot.place ≠ middle := by
    rintro rfl
    rw [slice_self] at hword
    exact hsome hword
  have hlt : spot.place < middle := lt_of_le_of_ne hle hne
  exact hrest _ hmiddle hlt fun place hmem => (hlast place hmem).trans_lt hlt

/-- Each run takes something, so there are never more runs than places left. -/
theorem runGreedy_finds {budget count : Nat} {last : Option Nat} {spot : Spot} {rest : Rest}
    (hplace : spot.place ≤ text.size) (hbudget : text.size - spot.place < budget)
    (hlast : ∀ place ∈ last, place < spot.place) :
    (runGreedy step least most budget count last spot rest).isSome = true ↔
      Reaches text (addedTo count least most L) spot rest := by
  -- on the budget, which stays above the number of places left
  induction budget generalizing count last spot with
  | zero => omega
  | succ budget ih =>
    have hmore (last' : Option Nat) (hlast' : ∀ place ∈ last', place ≤ spot.place) :
        (step spot fun next =>
          runGreedy step least most budget (count + 1) last' next rest).isSome = true ↔
          Reaches text (L * addedTo (count + 1) least most L) spot rest :=
      runOnce_finds hstep hsome hplace hlast' fun next hnext hlt hbefore =>
        ih hnext (by omega) hbefore
    have hfresh : (last != some spot.place) = true := by
      rw [bne_iff_ne]
      rintro rfl
      exact lt_irrefl _ (hlast spot.place rfl)
    rw [runGreedy, hfresh, Bool.and_true]
    split
    · next hless =>
      rw [addedTo_of_lt hless]
      exact hmore last fun place hmem => (hlast place hmem).le
    · next hless =>
      split
      · next hmost =>
        refine (isSome_either _ _).trans ?_
        rw [hmore (some spot.place) (by simp), addedTo_of_more hless hmost, reaches_add_iff,
          reaches_one_iff hplace]
      · next hmost => rw [addedTo_of_full hless hmost, reaches_one_iff hplace]

theorem runRepeated_finds :
    Step.Finds text (addedTo 0 least most L) (runRepeated text .greedy least most step) := by
  intro spot rest hplace
  exact runGreedy_finds hstep hsome hplace (by omega) (by simp)

end Repeated

/-! ## Nodes -/

namespace Node

def takesSome : Node → Bool
  | .literal .. => true
  | .any => true
  | .oneOf .. => true
  | .seq a b => a.takesSome || b.takesSome
  | .alt a b => a.takesSome && b.takesSome
  | .repeated _ least _ body => decide (0 < least) && body.takesSome
  | _ => false

/-- Whether a node neither remembers nor looks around, and repeats, as often as possible, only what
takes something. -/
def isPlain : Node → Bool
  | .empty => true
  | .literal .. => true
  | .any => true
  | .oneOf .. => true
  | .seq a b => a.isPlain && b.isPlain
  | .alt a b => a.isPlain && b.isPlain
  | .repeated appetite _ _ body => decide (appetite = .greedy) && body.isPlain && body.takesSome
  | _ => false

theorem nil_not_mem_language {node : Node} {flags : Flags} (h : node.takesSome = true) :
    [] ∉ node.language flags := by
  induction node generalizing flags with
  | literal negated code => rintro ⟨c, hc, -⟩; simp at hc
  | any => rintro ⟨c, hc, -⟩; simp at hc
  | oneOf negated items => rintro ⟨c, hc, -⟩; simp at hc
  | seq a b iha ihb =>
    rintro ⟨front, hfront, back, hback, hnil⟩
    obtain ⟨rfl, rfl⟩ := List.append_eq_nil_iff.mp hnil
    rcases Bool.or_eq_true_iff.mp h with h | h
    · exact iha h hfront
    · exact ihb h hback
  | alt a b iha ihb =>
    obtain ⟨ha, hb⟩ := Bool.and_eq_true_iff.mp h
    rintro (hword | hword)
    · exact iha ha hword
    · exact ihb hb hword
  | repeated appetite least most body ih =>
    obtain ⟨hleast, hbody⟩ := Bool.and_eq_true_iff.mp h
    rintro ⟨words, hnil, hwords, hcount, -⟩
    cases words with
    | nil =>
      rw [decide_eq_true_eq] at hleast
      simp only [List.length_nil] at hcount
      omega
    | cons first rest =>
      rw [List.flatten_cons] at hnil
      obtain ⟨rfl, -⟩ := List.append_eq_nil_iff.mp hnil.symm
      exact ih hbody (hwords [] (by simp))
  | _ => simp [takesSome] at h

theorem run_finds {node : Node} {flags : Flags} (h : node.isPlain = true) :
    Step.Finds text (node.language flags) (node.run text flags) := by
  induction node generalizing flags with
  | empty => exact Step.finds_one
  | literal negated code => exact takeOne_finds _
  | any => exact takeOne_finds _
  | oneOf negated items => exact takeOne_finds _
  | seq a b iha ihb =>
    obtain ⟨ha, hb⟩ := Bool.and_eq_true_iff.mp h
    exact (iha ha).seq (ihb hb)
  | alt a b iha ihb =>
    obtain ⟨ha, hb⟩ := Bool.and_eq_true_iff.mp h
    exact (iha ha).alt (ihb hb)
  | repeated appetite least most body ih =>
    simp only [isPlain, Bool.and_eq_true, decide_eq_true_eq] at h
    obtain ⟨⟨rfl, hbody⟩, hsome⟩ := h
    exact runRepeated_finds (ih hbody) (nil_not_mem_language hsome)
  | _ => simp [isPlain] at h

theorem isSome_run_ofList {nodes : List Node} {last : Node} {flags : Flags}
    (h : ∀ node ∈ nodes, node.isPlain = true) {spot : Spot} {rest : Rest}
    (hplace : spot.place ≤ text.size) :
    ((ofList (nodes ++ [last])).run text flags spot rest).isSome = true ↔
      Reaches text (nodes.map (language flags)).prod spot fun next => last.run text flags
        next rest := by
  induction nodes generalizing spot with
  | nil => exact Step.finds_one spot (fun next => last.run text flags next rest) hplace
  | cons first nodes ih =>
    obtain ⟨hfirst, hnodes⟩ := List.forall_mem_cons.mp h
    have hseq : ofList (first :: nodes ++ [last]) = seq first (ofList (nodes ++ [last])) := by
      cases nodes <;> rfl
    have hrun : Step.Finds text (first.language flags) (first.run text flags) := run_finds hfirst
    rw [hseq, Node.run, List.map_cons, List.prod_cons]
    exact hrun.before hplace fun middle _ hmiddle _ => ih hnodes hmiddle

end Node

/-! ## Places between two texts -/

section Between

variable {flags : Flags} (front back : List Char)

theorem slice_between (n : Nat) :
    slice (front ++ back).toArray front.length (front.length + n) = back.take n := by
  rw [slice_eq_take_drop, List.drop_left, Nat.add_sub_cancel_left]

theorem run_behind_oneOf {items : List Item} {marks : Array (Option Nat)} {rest : Rest} :
    (Node.behind true 1 1 (.oneOf false items)).run (front ++ back).toArray flags
      ⟨front.length, marks⟩ rest =
      if front.getLast?.any fun c => flags.setTakes items c.toNat then none
        else rest ⟨front.length, marks⟩ := by
  rcases List.eq_nil_or_concat front with rfl | ⟨init, c, rfl⟩
  · simp [Node.run]
  · rw [List.concat_eq_append]
    cases htakes : flags.setTakes items c.toNat <;> simp [Node.run, takeOne, htakes]

theorem holds_wordEdge :
    Anchor.wordEdge.holds (front ++ back).toArray flags front.length =
      ((front.getLast?.any fun c => flags.belongs .word c.toNat) !=
        back.head?.any fun c => flags.belongs .word c.toNat) := by
  have hafter : Anchor.wordAt (front ++ back).toArray flags front.length =
      back.head?.any fun c => flags.belongs .word c.toNat := by
    cases back <;> simp [Anchor.wordAt]
  rcases List.eq_nil_or_concat front with rfl | ⟨init, c, rfl⟩
  · cases back <;> simp [Anchor.holds, Anchor.isEdge, Anchor.wordAt]
  · have hbefore : Anchor.wordAt (init ++ c :: back).toArray flags init.length =
        flags.belongs .word c.toNat := by
      simp [Anchor.wordAt]
    have hsome : (init ++ c :: back).isEmpty = false := by simp
    rw [Anchor.holds, Anchor.isEdge, hafter]
    simp [hbefore, hsome]

end Between

/-! ## Searches -/

variable {pattern : Pattern}

theorem isSome_matchAt? {place : Nat} :
    (pattern.matchAt? text place).isSome = true ↔
      (pattern.root.run text pattern.flags ⟨place,
        Array.replicate (2 * pattern.groups) none⟩ some).isSome =
        true := by
  unfold matchAt?
  dsimp only
  split
  · next h => simp [h]
  · next h => simp [h]

theorem searchFrom?_eq_none_iff {place tries : Nat} :
    pattern.searchFrom? text place tries = none ↔
      ∀ start, place ≤ start → start ≤ place + tries → pattern.matchAt? text start = none := by
  induction tries generalizing place with
  | zero =>
    rw [searchFrom?]
    constructor
    · intro h start hle hge
      obtain rfl : start = place := by omega
      exact h
    · exact fun h => h place le_rfl le_rfl
  | succ tries ih =>
    rw [searchFrom?]
    constructor
    · intro h start hle hge
      split at h
      · simp at h
      · next hplace =>
        rcases Nat.eq_or_lt_of_le hle with rfl | hlt
        · exact hplace
        · exact ih.mp h start hlt (by omega)
    · intro h
      rw [h place le_rfl (by omega)]
      exact ih.mpr fun start hle hge => h start (by omega) (by omega)

theorem allMatches_eq_nil_iff :
    pattern.allMatches text = [] ↔ ∀ place ≤ text.size, pattern.matchAt? text place = none := by
  have hsearch : pattern.allMatches text = [] ↔ pattern.searchFrom? text 0 text.size = none := by
    rw [allMatches, matchesFrom, if_neg (by omega), Nat.sub_zero]
    cases pattern.searchFrom? text 0 text.size <;> simp
  rw [hsearch, searchFrom?_eq_none_iff, Nat.zero_add]
  exact forall_congr' fun start => by simp

end MailTriage.Pattern

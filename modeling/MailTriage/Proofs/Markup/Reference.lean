import MailTriage.Markup.Reference
import MailTriage.Proofs.Outcome
import Mathlib.Data.List.TakeWhile
import Mathlib.Tactic

/-!
# Texts whose references can be replaced

One thing alone keeps the character references of a text from being replaced: a decimal number with
more digits than are read. No reference takes in the ampersand of another one, so it does not matter
which of several is met first, and none is passed over.
-/

namespace MailTriage.Markup

open Text

/-- A decimal number after an ampersand and a number sign, with more digits than are read. -/
def Oversized (cs : List Char) : Prop :=
  ∃ after, '&' :: '#' :: after <:+ cs ∧ Number.digitLimit < (after.takeWhile Char.isDigit).length

/-! ## One reference -/

theorem reference_eq_error_iff {cs : List Char} :
    (∃ count, reference cs = .error count) ↔
      ∃ after, cs = '#' :: after ∧ Number.digitLimit < (after.takeWhile Char.isDigit).length := by
  unfold reference
  split
  · next mark rest =>
    by_cases hmark : mark.isDigit = true
    · rw [if_pos hmark]
      dsimp only
      split <;> simp_all
    · have hnone : (mark :: rest).takeWhile Char.isDigit = [] := List.takeWhile_cons_of_neg hmark
      rw [if_neg hmark]
      split
      · dsimp only
        split <;> simp [hnone]
      · simp [hnone]
  · next hshape =>
    constructor
    · rintro ⟨count, hcount⟩
      simp at hcount
    · rintro ⟨after, rfl, hdigits⟩
      cases after with
      | nil => simp at hdigits
      | cons mark rest => exact absurd rfl (hshape mark rest)

/-- With a semicolon taken after `n` characters, nothing else is. -/
theorem mem_take_semicolonAt {cs : List Char} {n : Nat} {c : Char}
    (h : c ∈ cs.take (n + semicolonAt (cs.drop n))) : c ∈ cs.take n ∨ c = ';' := by
  rw [List.take_add] at h
  refine (List.mem_append.mp h).imp_right fun hc => ?_
  unfold semicolonAt at hc
  split at hc
  · next hhead =>
    obtain ⟨rest, hrest⟩ := List.head?_eq_some_iff.mp hhead
    rw [hrest] at hc
    simpa using hc
  · simp at hc

theorem longestBare?_le {run characters : List Char} {length taken : Nat}
    (h : longestBare? run length = some (characters, taken)) : taken ≤ length := by
  induction length with
  | zero => simp [longestBare?] at h
  | succ length ih =>
    rw [longestBare?] at h
    generalize bareEntities.get? (String.ofList (run.take (length + 1))) = entity at h
    split at h
    · simp at h
    · cases entity with
      | none => exact (ih h).trans (Nat.le_succ _)
      | some image => exact (Prod.mk.inj (Option.some.inj h)).2.ge

theorem named?_taken {run characters : List Char} {semicolon : Bool} {taken : Nat}
    (h : named? run semicolon = some (characters, taken)) :
    taken ≤ run.length ∨ (taken = run.length + 1 ∧ semicolon = true) := by
  unfold named? at h
  generalize entities.get? (String.ofList run) = entity at h
  cases semicolon with
  | false => exact .inl (longestBare?_le h)
  | true =>
    cases entity with
    | none => exact .inl (longestBare?_le h)
    | some image => exact .inr ⟨(Prod.mk.inj (Option.some.inj h)).2.symm, rfl⟩

theorem ne_ampersand_of_named {cs characters : List Char} {taken : Nat}
    (h : named? ((cs.takeWhile isNameChar).take 32)
      ((cs.drop ((cs.takeWhile isNameChar).take 32).length).head? = some ';') =
        some (characters, taken)) :
    ∀ c ∈ cs.take taken, c ≠ '&' := by
  generalize hrun : (cs.takeWhile isNameChar).take 32 = run at h
  have hname : ∀ c ∈ run, c ≠ '&' := by
    rintro c hc rfl
    rw [← hrun] at hc
    exact absurd (List.mem_takeWhile_imp (List.mem_of_mem_take hc)) (by decide)
  have htake : cs.take run.length = run := by
    have hbegins : run <+: cs := hrun ▸ (List.take_prefix _ _).trans (List.takeWhile_prefix _)
    exact (List.prefix_iff_eq_take.mp hbegins).symm
  have hbound : cs.take taken ⊆ cs.take (run.length + semicolonAt (cs.drop run.length)) := by
    refine (List.take_subset_take_left _ ?_)
    rcases named?_taken h with hle | ⟨rfl, hsemicolon⟩
    · omega
    · rw [semicolonAt, if_pos (of_decide_eq_true hsemicolon)]
  intro c hc
  rcases mem_take_semicolonAt (hbound hc) with hc | rfl
  · exact hname c (htake ▸ hc)
  · decide

theorem ne_ampersand_of_digits (p : Char → Bool) (hp : p '&' = false) (marks digits : List Char)
    (hmarks : ∀ c ∈ marks, c ≠ '&') {c : Char}
    (hc : c ∈ (marks ++ digits).take (marks.length + (digits.takeWhile p).length +
      semicolonAt ((marks ++ digits).drop (marks.length + (digits.takeWhile p).length)))) : c ≠
        '&' := by
  rcases mem_take_semicolonAt hc with hc | rfl
  · have htake : digits.take (digits.takeWhile p).length = digits.takeWhile p :=
      (List.prefix_iff_eq_take.mp (List.takeWhile_prefix _)).symm
    rw [List.take_length_add_append, htake] at hc
    rcases List.mem_append.mp hc with hc | hc
    · exact hmarks c hc
    · rintro rfl
      rw [List.mem_takeWhile_imp hc] at hp
      exact Bool.noConfusion hp
  · decide

theorem ne_ampersand_of_reference {cs characters : List Char} {taken : Nat}
    (h : reference cs = .ok (some (characters, taken))) : ∀ c ∈ cs.take taken, c ≠ '&' := by
  unfold reference at h
  split at h
  · next mark rest =>
    by_cases hdigit : mark.isDigit = true
    · rw [if_pos hdigit] at h
      dsimp only at h
      split at h
      · simp at h
      · obtain ⟨-, rfl⟩ := Prod.mk.inj (Option.some.inj (Except.ok.inj h))
        exact fun c hc =>
          ne_ampersand_of_digits Char.isDigit (by decide) ['#'] (mark :: rest) (by simp) hc
    · rw [if_neg hdigit] at h
      split at h
      · next hmark =>
        dsimp only at h
        split at h
        · simp at h
        · obtain ⟨-, rfl⟩ := Prod.mk.inj (Option.some.inj (Except.ok.inj h))
          refine fun c hc =>
            ne_ampersand_of_digits isAsciiHexDigit (by decide) ['#', mark] rest ?_ hc
          have hmark' : mark = 'x' ∨ mark = 'X' := by simpa using hmark
          rcases hmark' with rfl | rfl <;> simp
      · simp at h
  · exact ne_ampersand_of_named (Except.ok.inj h)

/-! ## All references of a text -/

theorem oversized_cons_of_ne {c : Char} (hc : c ≠ '&') {rest : List Char} :
    Oversized (c :: rest) ↔ Oversized rest := by
  unfold Oversized
  refine exists_congr fun after => and_congr_left fun _ => ?_
  rw [List.suffix_cons_iff]
  refine or_iff_right fun heq => hc ?_
  exact (List.cons.inj heq).1.symm

theorem oversized_cons_ampersand {rest : List Char} :
    Oversized ('&' :: rest) ↔ (∃ count, reference rest = .error count) ∨ Oversized rest := by
  rw [reference_eq_error_iff]
  unfold Oversized
  simp only [List.suffix_cons_iff, List.cons.injEq, true_and, or_and_right, exists_or, eq_comm]

theorem oversized_append {front : List Char} (hfront : ∀ c ∈ front, c ≠ '&') (back : List Char) :
    Oversized (front ++ back) ↔ Oversized back := by
  induction front with
  | nil => rfl
  | cons c rest ih =>
    rw [List.cons_append, oversized_cons_of_ne (hfront c (by simp)),
      ih fun d hd => hfront d (by simp [hd])]

/-- The references of a text can be replaced exactly when none is oversized. -/
theorem exists_decode_eq_ok_iff (cs : List Char) :
    (∃ plain, decode cs = .ok plain) ↔ ¬ Oversized cs := by
  induction cs using decode.induct with
  | case1 =>
    rw [decode]
    simp [Oversized]
  | case2 rest count hcount =>
    rw [decode, if_pos rfl, hcount, oversized_cons_ampersand]
    simp [hcount]
  | case3 rest hnone ih =>
    rw [decode, if_pos rfl, hnone, oversized_cons_ampersand, hnone, exists_map_eq_ok_iff, ih]
    simp
  | case4 rest characters taken hsome ih =>
    rw [decode, if_pos rfl, hsome, oversized_cons_ampersand, hsome, exists_map_eq_ok_iff, ih]
    have hrest := oversized_append (ne_ampersand_of_reference hsome) (rest.drop taken)
    rw [List.take_append_drop] at hrest
    simp [hrest]
  | case5 c rest hc ih =>
    rw [decode, if_neg hc, oversized_cons_of_ne hc, exists_map_eq_ok_iff, ih]

/-- A text without ampersands is its own plain text. -/
theorem decode_of_not_mem {cs : List Char} (h : '&' ∉ cs) : decode cs = .ok cs := by
  induction cs with
  | nil => rw [decode]
  | cons c rest ih =>
    have hc : c ≠ '&' := fun he => h (by simp [he])
    rw [decode, if_neg hc, ih fun hmem => h (by simp [hmem])]
    rfl

end MailTriage.Markup

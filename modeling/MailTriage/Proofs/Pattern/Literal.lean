import MailTriage.Pattern.Reader
import Mathlib.Tactic

/-!
# Texts that are patterns of themselves

A text without any of the characters that mean something else in a pattern can be read as one, and
the pattern is that text: each character is taken as it stands.
-/

namespace MailTriage.Pattern

/-- The characters that mean something else than themselves in a pattern. -/
def specialCharacters : List Char :=
  ['\\', '|', ')', '(', '[', '*', '+', '?', '\x7b', '.', '^', '$']

namespace Reader

/-- What is left to read: its first character is the token ahead, and the others come later. -/
structure Faces (s : Progress) (rest : List Char) : Prop where
  ahead : s.ahead = rest.head?.map fun c => [c]
  later : s.text.toList.drop s.index = rest.tail

theorem run_advance {s : Progress} {rest : List Char} (hlater : s.text.toList.drop s.index = rest)
    (hplain : ∀ c ∈ rest, c ∉ specialCharacters) :
    ∃ ahead index, advance.run s = .ok ((), { s with ahead := ahead, index := index }) ∧
      Faces { s with ahead := ahead, index := index } rest := by
  have hnext : s.text[s.index]? = rest.head? := by
    rw [← Array.getElem?_toList, ← List.head?_drop, hlater]
  cases rest with
  | nil =>
    refine ⟨none, s.index, ?_, rfl, hlater⟩
    simp only [advance, StateT.run_bind, StateT.run_get, pure_bind, hnext, List.head?_nil]
    rfl
  | cons c rest =>
    have hbackslash : c ≠ '\\' := by
      rintro rfl
      exact hplain _ List.mem_cons_self (by decide)
    refine ⟨some [c], s.index + 1, ?_, rfl, ?_⟩
    · simp only [advance, StateT.run_bind, StateT.run_get, pure_bind, hnext, List.head?_cons]
      rfl
    · rw [← List.tail_drop]
      exact congrArg List.tail hlater

theorem run_peek_bind {α : Type} {s : Progress} {ahead : Option Token} (h : s.ahead = ahead)
    (next : Option Token → Reader α) : (peek >>= next).run s = (next ahead).run s := by
  rw [← h]
  rfl

/-- A character without a meaning of its own is taken as it stands. -/
theorem run_sequence_cons {s : Progress} {c : Char} (hahead : s.ahead = some [c])
    (hplain : c ∉ specialCharacters) (first : Bool) (items : List Node) (fuel : Nat) :
    (sequence false first items (fuel + 1)).run s =
      (advance >>= fun _ => sequence false first (.literal false c.toNat :: items) fuel).run s := by
  simp only [specialCharacters, List.mem_cons, List.not_mem_nil, or_false, not_or] at hplain
  rw [sequence, run_peek_bind hahead]
  simp [hplain]

theorem run_sequence {s : Progress} {rest : List Char} (hfaces : Faces s rest)
    (hplain : ∀ c ∈ rest, c ∉ specialCharacters) {fuel : Nat} (hfuel : rest.length < fuel)
    (first : Bool) (items : List Node) :
    ∃ index, (sequence false first items fuel).run s =
      .ok (items.reverse ++ rest.map fun c => .literal false c.toNat,
        { s with ahead := none, index := index }) := by
  induction fuel generalizing s rest items with
  | zero => omega
  | succ fuel ih =>
    cases rest with
    | nil =>
      have hahead : s.ahead = none := hfaces.ahead
      have hs : { s with ahead := none } = s := by rw [← hahead]
      refine ⟨s.index, ?_⟩
      rw [sequence, run_peek_bind hahead, List.map_nil, List.append_nil, hs]
      rfl
    | cons c rest =>
      rw [List.forall_mem_cons] at hplain
      obtain ⟨ahead, index, hadvance, hfaces'⟩ := run_advance hfaces.later hplain.2
      rw [run_sequence_cons hfaces.ahead hplain.1, StateT.run_bind, hadvance]
      obtain ⟨index, hrun⟩ :=
        ih hfaces' hplain.2 (Nat.lt_of_succ_lt_succ hfuel) (.literal false c.toNat :: items)
      refine ⟨index, hrun.trans ?_⟩
      simp

theorem run_alternatives {s : Progress} {rest : List Char} (hfaces : Faces s rest)
    (hplain : ∀ c ∈ rest, c ∉ specialCharacters) {fuel : Nat} (hfuel : rest.length < fuel) :
    ∃ index, (alternatives false true [] (fuel + 1)).run s =
      .ok (Node.ofList (rest.map fun c => .literal false c.toNat),
        { s with ahead := none, index := index }) := by
  obtain ⟨index, hrun⟩ := run_sequence hfaces hplain hfuel true []
  refine ⟨index, ?_⟩
  rw [alternatives, StateT.run_bind]
  change (do let p ← (sequence false true [] fuel).run s; _) = _
  rw [hrun]
  rfl

end Reader

/-- Characters one after another leave nothing to object to. -/
theorem Node.objection?_ofText (text : String) (template : Bool) :
    (Node.ofText text).objection? template = none := by
  unfold Node.ofText
  induction text.toList with
  | nil => rfl
  | cons c rest ih =>
    cases rest with
    | nil => rfl
    | cons d rest => exact ih

end MailTriage.Pattern

namespace MailTriage

open Pattern

theorem Pattern.read_of_plain {text : String} (hplain : ∀ c ∈ text.toList, c ∉ specialCharacters) :
    Pattern.read text false =
      .ok { root := Node.ofText text, flags := { unicode := true }, groups := 0 } := by
  let start : Progress := { text := text.toList.toArray }
  have hlater : start.text.toList.drop start.index = text.toList := by simp [start]
  obtain ⟨ahead, index, hadvance, hfaces⟩ := Reader.run_advance hlater hplain
  have hfuel : text.toList.length < 4 * start.text.size + 7 := by
    simp only [start, List.size_toArray]
    omega
  obtain ⟨index', hrun⟩ := Reader.run_alternatives hfaces hplain hfuel
  have hwhole : (Reader.wholePattern { ignoreCase := false }).run { text := text.toList.toArray } =
      .ok (Node.ofText text, { start with ahead := none, index := index' }) := by
    rw [Reader.wholePattern, StateT.run_bind, hadvance]
    change (do let p ← (Reader.alternatives false true [] (4 * start.text.size + 8)).run _; _) = _
    rw [hrun]
    rfl
  unfold Pattern.read
  simp only [hwhole, Node.objection?_ofText]
  rfl

end MailTriage

import MailTriage.Proofs.Json.Number
import MailTriage.Proofs.Template.Sources

/-!
# Where a path leads

A path is cut at its points, and each of its parts is one step: by a key into an object, by a
position into a list. So a path that is made of two leads where the second leads from where the
first does, whatever the two are, and a value that lies somewhere within another is what the path of
the keys and positions on the way to it leads to.
-/

namespace MailTriage

open Text

/-! ## Positions in decimal -/

namespace Number

variable {digits : List Char}

theorem isWhiteSpace_of_isDigit {c : Char} (h : c.isDigit = true) : isWhiteSpace c = false := by
  have hbounds : 48 ≤ c.toNat ∧ c.toNat ≤ 57 := Char.isDigit_iff_toNat.mp h
  simp [isWhiteSpace]
  omega

theorem trimWhere_of_isDigit (h : ∀ c ∈ digits, c.isDigit = true) :
    trimWhere isWhiteSpace digits = digits := by
  have hkeep : ∀ cs : List Char, (∀ c ∈ cs, c.isDigit = true) → cs.dropWhile isWhiteSpace = cs := by
    intro cs hcs
    cases cs with
    | nil => rfl
    | cons c rest =>
      exact List.dropWhile_cons_of_neg
        (by simp [isWhiteSpace_of_isDigit (hcs c List.mem_cons_self)])
  rw [trimWhere, hkeep digits h, hkeep digits.reverse (by simpa using h), List.reverse_reverse]

theorem withAsciiDigits_of_isDigit (h : ∀ c ∈ digits, c.isDigit = true) :
    withAsciiDigits digits = digits := by
  refine (List.map_congr_left ?_).trans (List.map_id digits)
  intro c hc
  have hdigit := h c hc
  have hbounds : 48 ≤ c.toNat ∧ c.toNat ≤ 57 := Char.isDigit_iff_toNat.mp hdigit
  have hvalue : decimalDigit? c = some (c.toNat - 48) := by
    rw [decimalDigit?, if_pos (by omega), if_pos hdigit]
  have hsame : 48 + (c.toNat - 48) = c.toNat := by omega
  simp [hvalue, hsame, Char.ofNat_toNat]

theorem signed_of_isDigit (h : ∀ c ∈ digits, c.isDigit = true) :
    signed digits = (false, digits) := by
  unfold signed
  split
  · exact absurd (h '-' List.mem_cons_self) (by decide)
  · exact absurd (h '+' List.mem_cons_self) (by decide)
  · rfl

theorem joinDigits?_of_isDigit (h : ∀ c ∈ digits, c.isDigit = true) :
    joinDigits? digits = some digits := by
  have hunder : ∀ c ∈ digits, c ≠ '_' := by
    rintro c hc rfl
    exact absurd (h '_' hc) (by decide)
  clear h
  induction digits with
  | nil => rfl
  | cons c rest ih =>
    have hc := hunder c List.mem_cons_self
    have hrest := ih fun d hd => hunder d (List.mem_cons_of_mem c hd)
    cases rest with
    | nil => simp [joinDigits?, hc]
    | cons d rest =>
      have hd := hunder d (by simp)
      rw [joinDigits?, if_neg hc, hrest, Option.map_some]
      · simp
      · rintro _ heq
        exact hd (List.cons.inj heq).1

/-- A whole number that is written in decimal is read back, unless it is too long to be read. -/
theorem freeInteger?_toDigits {n : Nat} (h : isReadable n = true) :
    freeInteger? (Nat.toDigits 10 n) = some n := by
  have hdigits : ∀ c ∈ Nat.toDigits 10 n, c.isDigit = true := fun _ => isDigit_of_mem_toDigits
  have hlength : (Nat.toDigits 10 n).length ≤ digitLimit := by simpa [isReadable] using h
  have hall : (Nat.toDigits 10 n).all Char.isDigit = true := List.all_eq_true.mpr hdigits
  simp [freeInteger?, trimWhere_of_isDigit hdigits, withAsciiDigits_of_isDigit hdigits,
    signed_of_isDigit hdigits,
    joinDigits?_of_isDigit hdigits, hall, hlength, Nat.toDigits_ne_nil, withSign, ofDigits_toDigits]

end Number

namespace Template

/-! ## Cutting paths -/

theorem pathParts_append (p q : List Char) :
    pathParts (p ++ '.' :: q) = pathParts p ++ pathParts q := by
  induction p with
  | nil => simp [pathParts]
  | cons c rest ih =>
    obtain ⟨part, parts, hparts⟩ := List.exists_cons_of_ne_nil (pathParts_ne_nil rest)
    by_cases hpoint : c = '.'
    · simp [pathParts, hpoint, ih]
    · simp [pathParts, hpoint, ih, hparts]

theorem pathParts_of_not_mem {part : List Char} (h : '.' ∉ part) : pathParts part = [part] := by
  induction part with
  | nil => rfl
  | cons c rest ih =>
    obtain ⟨hc, hrest⟩ : '.' ≠ c ∧ '.' ∉ rest := by simpa using h
    simp [pathParts, Ne.symm hc, ih hrest]

/-- A path that is made of two leads where the second leads from where the first does. -/
theorem walk_append (v : Value) (p q : List Char) : walk v (p ++ '.' :: q) = walk (walk v p) q := by
  rw [walk, pathParts_append, List.foldl_append]
  rfl

/-! ## Steps -/

/-- A step into a value. -/
inductive PathStep
  | key (name : String)
  | position (index : Nat)

namespace PathStep

def text : PathStep → List Char
  | key name => name.toList
  | position index => Nat.toDigits 10 index

/-- A step that a part of a path can stand for: a key has no point in it, and a position has no more
digits than are read as a number, which are thousands. -/
def IsWritten : PathStep → Prop
  | key name => '.' ∉ name.toList
  | position index => Number.isReadable index = true

theorem point_not_mem_text {step : PathStep} (h : step.IsWritten) : '.' ∉ step.text := by
  cases step with
  | key name => exact h
  | position index =>
    intro hmem
    exact absurd (Number.isDigit_of_mem_toDigits hmem) (by decide)

end PathStep

/-- What a step leads to from a value. -/
inductive Holds : Value → PathStep → Value → Prop
  | member {fields name w} : Fields.get? name fields = some w → Holds (.object fields) (.key name) w
  | item {items : List Value} {index w} :
      items[index]? = some w → Holds (.list items) (.position index) w

/-- Steps, each of which can be written, that lead from a value to one within it. -/
inductive Leads : Value → List PathStep → Value → Prop
  | here {v} : Leads v [] v
  | step {v w target step steps} : Holds v step w → step.IsWritten → Leads w steps target →
      Leads v (step :: steps) target

def pathOf (steps : List PathStep) : List Char := ['.'].intercalate (steps.map PathStep.text)

theorem Holds.step_eq {v w : Value} {step : PathStep} (h : Holds v step w)
    (hwritten : step.IsWritten) :
    v.step step.text = w := by
  cases h with
  | member hmember => simp [PathStep.text, Value.step, hmember]
  | item hitem =>
    simp [PathStep.text, Value.step, Number.freeInteger?_toDigits hwritten, Value.atIndex?, hitem]

theorem Holds.walk_text {v w : Value} {step : PathStep} (h : Holds v step w)
    (hwritten : step.IsWritten) :
    walk v step.text = w := by
  rw [walk, pathParts_of_not_mem (PathStep.point_not_mem_text hwritten)]
  exact h.step_eq hwritten

theorem Leads.walk_pathOf {v target : Value} {steps : List PathStep} (h : Leads v steps target)
    (hne : steps ≠ []) :
    walk v (pathOf steps) = target := by
  induction h with
  | here => exact absurd rfl hne
  | @step v w target step steps hholds hwritten hleads ih =>
    cases steps with
    | nil =>
      cases hleads
      simpa [pathOf] using hholds.walk_text hwritten
    | cons next steps =>
      have hpath : pathOf (step :: next :: steps) = step.text ++ '.' :: pathOf (next :: steps) := by
        simp [pathOf, List.intercalate]
      rw [hpath, walk_append, hholds.walk_text hwritten]
      exact ih (by simp)

/-- Two paths joined by a point are followed one after the other, and every value within another is
where the path of the keys and positions on the way to it leads. -/
theorem walk_compositional :
    (∀ (v : Value) (p q : List Char), walk v (p ++ '.' :: q) = walk (walk v p) q) ∧
      ∀ (v target : Value) (steps : List PathStep), steps ≠ [] → Leads v steps target →
        walk v (pathOf steps) = target := by
  refine ⟨walk_append, ?_⟩
  intro v target steps hne hleads
  exact hleads.walk_pathOf hne

/-- A value under an empty key, in the second item of a list. -/
theorem walk_compositional_emptyKey :
    ∃ (v : Value) (steps : List PathStep), steps ≠ [] ∧ Leads v steps (.text "x") ∧
      pathOf steps = "rows.1.".toList ∧ walk v "rows.1.".toList = .text "x" := by
  let row : Value := .object [("n", .int 5), ("", .text "x")]
  let steps : List PathStep := [.key "rows", .position 1, .key ""]
  have hleads : Leads (.object [("rows", .list [.int 10, row])]) steps (.text "x") :=
    .step (.member rfl) (by simp [PathStep.IsWritten]) <|
      .step (.item rfl) (by decide : Number.isReadable 1 = true) <|
        .step (.member rfl) (by simp [PathStep.IsWritten]) .here
  have hne : steps ≠ [] := by simp [steps]
  have hpath : pathOf steps = "rows.1.".toList := by decide
  exact ⟨_, steps, hne, hleads, hpath, hpath ▸ walk_compositional.2 _ _ steps hne hleads⟩

end Template

end MailTriage

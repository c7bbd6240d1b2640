import MailTriage.Template
import Mathlib.Tactic

/-!
# What a template reads

A template reads a context along the paths in its tokens, and a path does not see past its first two
steps what else there is in the context. So two contexts give a template one text when they agree on
those parts of the context that its paths lead into.
-/

namespace MailTriage

open Text

/-! ## Values along a path -/

namespace Value

/-- What one step of a path can lead to. -/
def members : Value → List Value
  | .object fields => fields.map Prod.snd
  | .list items => items
  | _ => []

theorem mem_of_get? {key : String} {fields : Fields} {v : Value} (h : fields.get? key = some v) :
    v ∈ fields.map Prod.snd := by
  induction fields with
  | nil => simp at h
  | cons entry rest ih =>
    obtain ⟨k, w⟩ := entry
    rw [Fields.get?] at h
    split at h
    · simp [Option.some.inj h]
    · simp [ih h]

theorem mem_of_atIndex? {items : List Value} {index : Int} {v : Value}
    (h : atIndex? items index = some v) :
    v ∈ items := by
  unfold atIndex? at h
  split at h
  · exact List.mem_of_getElem? h
  · split at h
    · exact List.mem_of_getElem? h
    · simp at h

theorem step_eq_null_or_mem (v : Value) (part : List Char) :
    v.step part = .null ∨ v.step part ∈ v.members := by
  cases v with
  | object fields =>
    cases h : Fields.get? (String.ofList part) fields with
    | none => simp [step, h]
    | some w => exact .inr (by simpa [step, h, members] using mem_of_get? h)
  | list items =>
    cases hindex : Number.freeInteger? part with
    | none => simp [step, hindex]
    | some index =>
      cases h : atIndex? items index with
      | none => simp [step, hindex, h]
      | some w => exact .inr (by simpa [step, hindex, h, members] using mem_of_atIndex? h)
  | _ => exact .inl rfl

end Value

namespace Template

/-- The keys of an email under which its bodies show, or that they have been fetched. -/
def bodyKeys : List String := ["body", "htmlBody", "contentLoaded"]

theorem pathParts_ne_nil (path : List Char) : pathParts path ≠ [] := by
  induction path with
  | nil => simp [pathParts]
  | cons c rest ih =>
    rw [pathParts]
    split
    · simp
    · split <;> simp

theorem joinTexts_one (text : Except Json.WriteFault (List Char)) : joinTexts [text] = text := by
  cases text <;> simp [joinTexts, bind, Except.bind]

/-- What holds of null, and of the members of every value of which it holds, holds along every
path. -/
theorem walk_of_members {P : Value → Prop} (hnull : P .null)
    (hmembers : ∀ v, P v → ∀ w ∈ v.members, P w) {v : Value} (h : P v) (path : List Char) :
    P (walk v path) := by
  unfold walk
  induction pathParts path generalizing v with
  | nil => exact h
  | cons part parts ih =>
    have hstep : P (v.step part) := by
      rcases v.step_eq_null_or_mem part with hnone | hmem
      · rw [hnone]
        exact hnull
      · exact hmembers v h _ hmem
    exact ih hstep

/-- Whether a path stays clear of the bodies of an email, of links when there are any, and of
variables other than the given ones. -/
def isSettledPath (linked : Bool) (names : List String) : List (List Char) → Bool
  | [] => true
  | root :: rest =>
    if String.ofList root = "email" then
      match rest with
      | [] => false
      | key :: _ => !bodyKeys.contains (String.ofList key)
    else if String.ofList root = "variables" then
      match rest with
      | [] => false
      | name :: _ => names.contains (String.ofList name)
    else !(linked && String.ofList root = "extractedLinks")

/-- Whether an alternative of a token is a text of its own or a path that stays clear. -/
def isSettledAlternative (linked : Bool) (names : List String) (alternative : List Char) : Bool :=
  let trimmed := trimWhere isBlank alternative
  (literal? trimmed).isSome || trimmed.isEmpty || isSettledPath linked names (pathParts trimmed)

def isSettled (linked : Bool) (names : List String) (template : List Char) : Bool :=
  (pieces template).all fun
    | .plain _ => true
    | .token body => (splitBars body).all (isSettledAlternative linked names)

/-- Two views of an email that differ at most in its bodies, in the links when there are any, and in
variables other than the given ones. -/
structure SameView (linked : Bool) (names : List String) (view view' : Fields) : Prop where
  email : ∃ email email' : Fields, view.get? "email" = some (.object email) ∧
    view'.get? "email" = some (.object email') ∧
    ∀ key, key ∉ bodyKeys → email.get? key = email'.get? key
  saved : ∃ saved saved' : Fields, view.get? "variables" = some (.object saved) ∧
    view'.get? "variables" = some (.object saved') ∧ ∀ name ∈ names,
      saved.get? name = saved'.get? name
  others : ∀ root, root ≠ "email" → root ≠ "variables" → (linked = true → root ≠ "extractedLinks") →
    view.get? root = view'.get? root

namespace SameView

variable {linked : Bool} {names : List String} {view view' : Fields}
  (h : SameView linked names view view')

include h

/-- A path that stays clear leads to the same value in both views. -/
theorem foldl_step {parts : List (List Char)} (hne : parts ≠ [])
    (hsettled : isSettledPath linked names parts = true) :
    parts.foldl (fun (current : Value) part => current.step part) (.object view) =
      parts.foldl (fun current part => current.step part) (.object view') := by
  match parts with
  | root :: rest =>
    rw [List.foldl_cons, List.foldl_cons, Value.step, Value.step]
    unfold isSettledPath at hsettled
    dsimp only at hsettled
    split at hsettled
    · next hroot =>
      obtain ⟨email, email', hview, hview', hsame⟩ := h.email
      rw [hroot, hview, hview']
      cases rest with
      | nil => simp at hsettled
      | cons key rest =>
        have hkey : String.ofList key ∉ bodyKeys := by simpa using hsettled
        simp only [List.foldl_cons, Option.getD_some, Value.step]
        rw [hsame _ hkey]
    · next hemail =>
      split at hsettled
      · next hroot =>
        obtain ⟨saved, saved', hview, hview', hsame⟩ := h.saved
        rw [hroot, hview, hview']
        cases rest with
        | nil => simp at hsettled
        | cons name rest =>
          have hname : String.ofList name ∈ names := by simpa using hsettled
          simp only [List.foldl_cons, Option.getD_some, Value.step]
          rw [hsame _ hname]
      · next hvariables =>
        have hroot : linked = true → String.ofList root ≠ "extractedLinks" := by
          rintro rfl
          simpa using hsettled
        rw [h.others _ hemail hvariables hroot]

theorem alternativeText_eq {alternative : List Char}
    (hsettled : isSettledAlternative linked names alternative = true) :
    alternativeText view alternative = alternativeText view' alternative := by
  unfold isSettledAlternative at hsettled
  unfold alternativeText
  dsimp only at hsettled ⊢
  generalize trimWhere isBlank alternative = trimmed at *
  cases hliteral : literal? trimmed with
  | some text => rfl
  | none =>
    dsimp only
    split
    · rfl
    · next hempty =>
      have hpath : isSettledPath linked names (pathParts trimmed) = true := by
        simpa [hliteral, hempty] using hsettled
      rw [walk, walk, h.foldl_step (pathParts_ne_nil trimmed) hpath]

theorem expand_eq {template : List Char} (hsettled : isSettled linked names template = true) :
    expand view template = expand view' template := by
  unfold expand
  refine congrArg joinTexts (List.map_congr_left fun piece hpiece => ?_)
  have hclear := List.all_eq_true.mp hsettled piece hpiece
  cases piece with
  | plain c => rfl
  | token body =>
    rw [Piece.render, Piece.render, tokenText, tokenText]
    rw [List.map_congr_left fun alternative halternative =>
      h.alternativeText_eq (List.all_eq_true.mp hclear alternative halternative)]

end SameView

end Template

end MailTriage

import MailTriage.Action.Step
import MailTriage.Form.Scalar

/-!
# Refusals that say why

A form that cannot be read has at least one problem. This is kept by each way of combining readings,
and so it holds of the parameters of every kind of action: whether they can be read is known from
the list of their problems alone.
-/

namespace MailTriage.Form

variable {α β : Type}

/-- A reading that names a problem whenever there is no value. -/
def Gather.Explained (x : Gather α) : Prop :=
  ∀ supply, (x supply).1 ≠ .error []

namespace Gather.Explained

theorem pure (a : α) : Explained (Pure.pure a : Gather α) := by
  intro supply h
  exact nomatch h

theorem refuse (fault : Fault) : (Gather.refuse fault : Gather α).Explained := by
  intro supply h
  exact nomatch h

theorem ofExcept (result : Except Fault α) : (Gather.ofExcept result).Explained := by
  cases result with
  | ok a => exact .pure a
  | error fault => exact .refuse fault

theorem seq {f : Gather (α → β)} {x : Gather α} (hf : f.Explained) (hx : x.Explained) :
    (f <*> x).Explained := by
  intro supply h
  have hfunction := hf supply
  have hargument := hx (f supply).2
  change both (f supply).1 (x (f supply).2).1 = .error [] at h
  cases hfirst : (f supply).1 with
  | ok g =>
    cases hsecond : (x (f supply).2).1 with
    | ok a => simp [hfirst, hsecond, both] at h
    | error problems =>
      simp only [hfirst, hsecond, both, Except.error.injEq] at h
      rw [hsecond, h] at hargument
      exact hargument rfl
  | error problems =>
    have hnone : problems = [] := by
      cases hsecond : (x (f supply).2).1 with
      | ok a => simpa [hfirst, hsecond, both] using h
      | error more =>
        simp only [hfirst, hsecond, both, Except.error.injEq, List.append_eq_nil_iff] at h
        exact h.1
    rw [hfirst, hnone] at hfunction
    exact hfunction rfl

theorem map (f : α → β) {x : Gather α} (h : x.Explained) : (f <$> x).Explained :=
  (Explained.pure f).seq h

theorem under (key : String) {x : Gather α} (h : x.Explained) : (x.under key).Explained := by
  intro supply hnone
  have hx := h supply
  unfold Gather.under at hnone
  split at hnone
  · exact nomatch hnone
  · next problems after heq =>
    simp only [Except.error.injEq, List.map_eq_nil_iff] at hnone
    rw [heq, hnone] at hx
    exact hx rfl

theorem andThen {x : Gather α} (h : x.Explained) (check : α → Except Fault β) :
    (x.andThen check).Explained := by
  intro supply hnone
  have hx := h supply
  unfold Gather.andThen at hnone
  split at hnone
  · next a after heq => exact ofExcept (check a) after hnone
  · next problems after heq =>
    simp only [Except.error.injEq] at hnone
    rw [heq, hnone] at hx
    exact hx rfl

end Gather.Explained

/-! ## Readers -/

/-- A way of reading that names a problem with each value that it cannot read. -/
def Reader.Explains (read : Reader α) : Prop :=
  ∀ value, (read value).Explained

theorem explains_text : Reader.Explains text := by
  intro value
  cases value with
  | text s => exact .pure s
  | null | bool | int | float | list | object => exact .refuse _

theorem explains_someText : Reader.Explains someText := fun value => (explains_text value).andThen _

theorem explains_integer : Reader.Explains integer := by
  intro value
  cases value with
  | bool b => exact .pure _
  | int n => exact .pure n
  | float x => exact .ofExcept _
  | text s =>
    unfold integer
    dsimp only
    split
    · exact .pure _
    · exact .refuse _
    · exact .refuse _
  | null | list | object => exact .refuse _

theorem explains_natural : Reader.Explains natural :=
  fun value => (explains_integer value).andThen _

theorem explains_number : Reader.Explains number := by
  intro value
  cases value with
  | bool b => exact .pure _
  | float x => exact .pure x
  | int n | text s =>
    unfold number
    dsimp only
    split
    · exact .pure _
    · exact .refuse _
  | null | list | object => exact .refuse _

theorem explains_finiteNumber : Reader.Explains finiteNumber :=
  fun value => (explains_number value).andThen _

theorem explains_optional {read : Reader α} (h : Reader.Explains read) :
    Reader.Explains (optional read) := by
  intro value
  cases value with
  | null => exact .pure none
  | bool | int | float | text | list | object => exact (h _).map some

theorem explains_constant (options : List (String × α)) : Reader.Explains (constant options) := by
  intro value
  unfold constant
  split
  · exact .pure _
  · exact .refuse _

/-! ## Fields -/

theorem explained_field {read : Reader α} (h : Reader.Explains read) {absent : Gather α}
    (habsent : absent.Explained) (keys : List String) (fields : Fields) :
    (field keys read absent fields).Explained := by
  unfold field
  split
  · exact (h _).under _
  · exact habsent

theorem explained_required {read : Reader α} (h : Reader.Explains read) (keys : List String)
    (fields : Fields) :
    (required keys read fields).Explained :=
  explained_field h (.under _ (.refuse _)) keys fields

theorem explained_defaulting {read : Reader α} (h : Reader.Explains read) (keys : List String)
    (value : α) (fields : Fields) : (defaulting keys read value fields).Explained :=
  explained_field h (.pure value) keys fields

end MailTriage.Form

namespace MailTriage.Step

open Form

theorem explains_unlessEmpty {α : Type} {read : Form.Reader α} (h : Reader.Explains read)
    (fallback : α) :
    Reader.Explains (unlessEmpty read fallback) := by
  intro value
  cases value with
  | null => exact .pure fallback
  | text s =>
    unfold unlessEmpty
    dsimp only
    split
    · exact .pure fallback
    · exact h _
  | bool | int | float | list | object => exact h _

theorem explains_marker : Reader.Explains marker := fun value => (explains_someText value).andThen _

theorem explained_readAssignment (form : Fields) : (readAssignment form).Explained := by
  unfold readAssignment
  refine .seq (.seq (.seq (.seq (.map _ ?_) ?_) ?_) ?_) ?_
  · exact explained_required explains_someText _ _
  · exact explained_defaulting (fun value => .pure value) _ _ _
  · exact explained_defaulting (explains_optional explains_text) _ _ _
  · exact explained_defaulting (explains_unlessEmpty explains_natural _) _ _ _
  · exact explained_defaulting (explains_unlessEmpty (explains_constant _) _) _ _ _

theorem explained_ofFields (kind : ActionKind) (form : Fields) :
    (ofFields kind form).Explained := by
  cases kind with
  | runScript | logMessage => exact .map _ (explained_required explains_someText _ _)
  | openUrl =>
    refine .seq (.map _ ?_) ?_
    · exact explained_required explains_someText _ _
    · exact explained_defaulting explains_text _ _ _
  | saveVariable => exact .map _ (explained_readAssignment form)
  | addScore =>
    refine .seq (.map _ ?_) ?_
    · exact explained_required explains_finiteNumber _ _
    · exact explained_defaulting (explains_optional explains_text) _ _ _
  | markEmail => exact .map _ (explained_required explains_marker _ _)
  | notify =>
    refine .seq (.map _ ?_) ?_
    · exact explained_defaulting explains_text _ _ _
    · exact explained_defaulting explains_text _ _ _
  | deleteEmail | markAsRead | requestSummary | goToNext | goToPrevious => exact .pure _

end MailTriage.Step

import MailTriage.Action.Execution
import MailTriage.Proofs.Action.Direction
import MailTriage.Proofs.Script.Containment

/-!
# What a failed action leaves

An action that fails never turns the reader to another email, and most actions write no variable
before they can fail. Two can: a script, whose variables are taken over before its addresses are
read and opened, and an assignment, which is noted in the journal once its value is saved. So a
failed action leaves the variables as they were exactly when these have not written others.
-/

namespace MailTriage

variable {σ : Type} {world : Surroundings σ} {context : Context}

/-- The variables that a step has written by the time it fails: those of the document that its
script left, or its own one with a value that is too long for the journal. -/
inductive Step.Overwrites (world : Surroundings σ) (context : Context) (state : PassState)
    (outer : σ) :
    Step → Fields → Prop
  | script {code : String} {document : Value} {after : Fields} :
    Script.Collects world.evaluate code context state.bindings outer document →
      Collection.Leaves document after →
      Step.Overwrites world context state outer (.runScript code) after
  | assignment {assignment : Assignment} {value : Value} :
    assignment.evaluate context state.bindings = .ok value → Json.isWritable value = false →
      Step.Overwrites world context state outer (.saveVariable assignment)
        (state.bindings.set assignment.name value)

theorem Step.script_bindings (code : String) (state : PassState) (outer : σ) :
    (Step.script world code context state outer).2.1.bindings =
      (Script.run world.evaluate code context state.bindings outer).1.bindings := by
  unfold Step.script
  dsimp only
  split
  · rfl
  · rfl
  · split
    · rfl
    · split <;> rfl

/-- An assignment that fails has written its variable only when the value is too long for the
journal. -/
theorem Step.saveVariable_bindings_iff {assignment : Assignment} {state : PassState} {outer : σ}
    {fault : ActionFault}
    (h : (Step.perform world context state outer (.saveVariable assignment)).1 = .error fault) :
    (Step.perform world context state outer (.saveVariable assignment)).2.1.bindings =
      state.bindings ↔
      ∀ after, Step.Overwrites world context state outer (.saveVariable assignment) after →
        after = state.bindings := by
  rw [Step.perform] at h ⊢
  cases hvalue : assignment.evaluate context state.bindings with
  | error other =>
    refine iff_of_true rfl ?_
    intro after hafter
    cases hafter with
    | assignment hok _ => cases hvalue.symm.trans hok
  | ok value =>
    have hoverlong : Json.isWritable value = false := by
      rw [hvalue] at h
      by_contra hwritable
      rw [Bool.not_eq_false] at hwritable
      simp [Assignment.output, hwritable] at h
    dsimp only
    constructor
    · intro hsame after hafter
      cases hafter with
      | assignment hok _ =>
        cases hvalue.symm.trans hok
        exact hsame
    · intro hall
      exact hall _ (.assignment hvalue hoverlong)

theorem Step.failed_bindings_iff {step : Step} {state : PassState} {outer : σ} {fault : ActionFault}
    (h : (step.perform world context state outer).1 = .error fault) :
    (step.perform world context state outer).2.1.bindings = state.bindings ↔
      ∀ after, step.Overwrites world context state outer after → after = state.bindings := by
  cases step with
  | runScript code =>
    rw [Step.perform, Step.script_bindings, Script.run_bindings_eq_iff]
    constructor
    · intro hall after hafter
      cases hafter with
      | script hcollects hleaves => exact hall _ hcollects after hleaves
    · intro hall document hcollects after hleaves
      exact hall after (.script hcollects hleaves)
  | saveVariable assignment => exact Step.saveVariable_bindings_iff h
  | openUrl =>
    refine iff_of_true (by rw [Step.perform_openUrl_state]) ?_
    intro after hafter
    cases hafter
  | notify =>
    refine iff_of_true (by rw [Step.perform_notify_state]) ?_
    intro after hafter
    cases hafter
  | logMessage | requestSummary =>
    constructor
    · intro _ after hafter
      cases hafter
    · intro _
      rw [Step.perform]
      split <;> rfl
  | goToNext | goToPrevious => cases h
  | addScore | markEmail | deleteEmail | markAsRead =>
    refine iff_of_true (by rw [Step.perform, Step.ask_state]) ?_
    intro after hafter
    cases hafter

/-- Only actions that cannot fail turn the reader to another email. -/
theorem Step.failed_navigation {step : Step} {state : PassState} {outer : σ} {fault : ActionFault}
    (h : (step.perform world context state outer).1 = .error fault) :
    (step.perform world context state outer).2.1.navigation = state.navigation := by
  rw [Step.perform_navigation]
  cases step with
  | goToNext | goToPrevious => cases h
  | runScript | openUrl | saveVariable | logMessage | addScore | markEmail | notify | deleteEmail
  | markAsRead | requestSummary => rfl

/-- A failed action leaves the direction of the pass, and it leaves the variables exactly when its
step has not written others by then. -/
theorem Action.failed_leaves_iff {action : Action} {state : PassState} {outer : σ}
    (h : (action.execute world context state outer).1.success = false) :
    (action.execute world context state outer).2.1.navigation = state.navigation ∧
      ((action.execute world context state outer).2.1.bindings = state.bindings ↔
        ∀ step after, action.step = .ok step → step.Overwrites world context state outer after →
          after = state.bindings) := by
  unfold Action.execute at h ⊢
  cases hstep : action.step with
  | error fault => simp
  | ok step =>
    rw [hstep] at h
    dsimp only at h ⊢
    cases hresult : (step.perform world context state outer).1 with
    | ok output =>
      rw [hresult] at h
      exact nomatch h
    | error fault =>
      refine ⟨Step.failed_navigation hresult, ?_⟩
      rw [Step.failed_bindings_iff hresult]
      constructor
      · intro hall other after hother hafter
        cases hother
        exact hall after hafter
      · intro hall after
        exact hall step after rfl

/-- An engine that collects a variable, and an address that is no text. -/
def Surroundings.meddling : Surroundings Unit :=
  { perform := fun _ outer => (.ok .null, outer)
    evaluate := fun _ outer =>
      (.collected (Json.line (.object
        [("logs", .list []), ("variables", .object [("seen", .int 1)]),
          ("opened", .list [.int 5])])), outer) }

def Action.track : Action :=
  { id := "track", kind := "javascript_code", parameters := [("code", .text "track")] }

theorem Action.failed_leaves_iff_track :
    (Action.track.execute .meddling { email := { id := "m" } } {} ()).1.success = false ∧
      (Action.track.execute .meddling { email := { id := "m" } } {} ()).2.1.navigation = none ∧
      ∃ step after, Action.track.step = .ok step ∧
        step.Overwrites .meddling { email := { id := "m" } } {} () after ∧ after ≠ [] := by
  have hfailed :
      (Action.track.execute .meddling { email := { id := "m" } } {} ()).1.success = false := by
    decide +kernel
  obtain ⟨hnavigation, hbindings⟩ := Action.failed_leaves_iff hfailed
  refine ⟨hfailed, hnavigation, ?_⟩
  by_contra hnone
  have hkept := hbindings.mpr fun step after hstep hafter => by
    by_contra hne
    exact hnone ⟨step, after, hstep, hafter, hne⟩
  have hwritten :
      (Action.track.execute .meddling { email := { id := "m" } } {} ()).2.1.bindings.isEmpty =
        false := by
    decide +kernel
  rw [hkept] at hwritten
  exact nomatch hwritten

end MailTriage

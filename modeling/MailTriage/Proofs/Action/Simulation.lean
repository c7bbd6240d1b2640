import MailTriage.Action.Execution
import Mathlib.Tactic

/-!
# Surroundings that answer alike

What actions do depends on their surroundings only through the replies that these give. When two
surroundings, in related states, give equal replies and go to related states, then every action has
the same report in both, leaves the same state of the pass, and keeps the states outside related.
The relation is arbitrary: it may forget what one side records, or tie a store to a copy of it.
-/

namespace MailTriage

variable {α σ τ : Type} {R : σ → τ → Prop}

/-- Two results with one value, in related states. -/
def Alike (R : σ → τ → Prop) (x : α × σ) (y : α × τ) : Prop := x.1 = y.1 ∧ R x.2 y.2

theorem Alike.exists_eq {x : α × σ} {y : α × τ} (h : Alike R x y) :
    ∃ a s t, x = (a, s) ∧ y = (a, t) ∧ R s t :=
  ⟨x.1, x.2, y.2, rfl, by rw [h.1], h.2⟩

/-- Surroundings that give equal replies in related states. -/
structure Surroundings.Mirrors (R : σ → τ → Prop) (world : Surroundings σ)
    (image : Surroundings τ) :
    Prop where
  perform : ∀ {s t}, R s t → ∀ request, Alike R (world.perform request s) (image.perform request t)
  evaluate : ∀ {s t}, R s t → ∀ run, Alike R (world.evaluate run s) (image.evaluate run t)

namespace Surroundings.Mirrors

variable {world : Surroundings σ} {image : Surroundings τ} {s : σ} {t : τ}
  (h : Surroundings.Mirrors R world image) (hs : R s t)

include h hs

theorem request (request : Request) :
    Alike R (world.request request s) (image.request request t) := by
  unfold Surroundings.request
  obtain ⟨reply, s', t', hx, hy, hs'⟩ := (h.perform hs request).exists_eq
  rw [hx, hy]
  cases reply with
  | error trouble => exact ⟨rfl, hs'⟩
  | ok value =>
    cases value with
    | bool done => cases done <;> exact ⟨rfl, hs'⟩
    | null | int | float | text | list | object => exact ⟨rfl, hs'⟩

theorem openPage (url target : String) :
    Alike R (world.openPage url target s) (image.openPage url target t) := by
  unfold Surroundings.openPage
  cases Url.parse url with
  | error fault => exact ⟨rfl, hs⟩
  | ok parsed =>
    dsimp only
    split
    · exact h.request hs _
    · exact ⟨rfl, hs⟩

theorem openAll (urls : List String) (sofar : OpenedUrls) :
    Alike R (openAll world sofar urls s) (openAll image sofar urls t) := by
  induction urls generalizing sofar s t with
  | nil => exact ⟨rfl, hs⟩
  | cons url rest ih =>
    unfold MailTriage.openAll
    cases Url.parse url with
    | error fault => exact ⟨rfl, hs⟩
    | ok parsed =>
      dsimp only
      split
      · obtain ⟨result, s', t', hx, hy, hs'⟩ := (h.request hs (.openUrl url "_blank")).exists_eq
        rw [hx, hy]
        cases result with
        | error fault => exact ⟨rfl, hs'⟩
        | ok value => exact ih hs' _
      · exact ih hs _

theorem ask (request : Request) (output : Value) (state : PassState) :
    Alike (Alike R) (Step.ask world request output state s)
      (Step.ask image request output state t) := by
  unfold Step.ask
  obtain ⟨result, s', t', hx, hy, hs'⟩ := (h.request hs request).exists_eq
  rw [hx, hy]
  cases result <;> exact ⟨rfl, rfl, hs'⟩

theorem script (code : String) (context : Context) (state : PassState) :
    Alike (Alike R) (Step.script world code context state s)
      (Step.script image code context state t) := by
  have hrun : Alike R (Script.run world.evaluate code context state.bindings s)
      (Script.run image.evaluate code context state.bindings t) := by
    unfold Script.run
    split
    · exact ⟨rfl, hs⟩
    · split
      · obtain ⟨reply, s', t', hx, hy, hs'⟩ := (h.evaluate hs _).exists_eq
        rw [hx, hy]
        exact ⟨rfl, hs'⟩
      · exact ⟨rfl, hs⟩
  unfold Step.script
  obtain ⟨result, s', t', hx, hy, hs'⟩ := hrun.exists_eq
  rw [hx, hy]
  dsimp only
  split
  · exact ⟨rfl, rfl, hs'⟩
  · exact ⟨rfl, rfl, hs'⟩
  · split
    · exact ⟨rfl, rfl, hs'⟩
    · obtain ⟨urls, s'', t'', hx, hy, hs''⟩ := (h.openAll hs' _ {}).exists_eq
      rw [hx, hy]
      cases urls <;> exact ⟨rfl, rfl, hs''⟩

theorem perform_step (step : Step) (context : Context) (state : PassState) :
    Alike (Alike R) (step.perform world context state s) (step.perform image context state t) := by
  cases step with
  | runScript code => exact h.script hs code context state
  | openUrl url target =>
    rw [Step.perform, Step.perform]
    cases context.fill state.bindings url with
    | error fault => exact ⟨rfl, rfl, hs⟩
    | ok url =>
      obtain ⟨result, s', t', hx, hy, hs'⟩ := (h.openPage hs (Text.strip url) target).exists_eq
      dsimp only
      rw [hx, hy]
      cases result <;> exact ⟨rfl, rfl, hs'⟩
  | saveVariable assignment =>
    rw [Step.perform, Step.perform]
    cases assignment.evaluate context state.bindings <;> exact ⟨rfl, rfl, hs⟩
  | logMessage message =>
    rw [Step.perform, Step.perform]
    cases context.fill state.bindings message <;> exact ⟨rfl, rfl, hs⟩
  | notify title body =>
    rw [Step.perform, Step.perform]
    cases context.fill state.bindings title with
    | error fault => exact ⟨rfl, rfl, hs⟩
    | ok title =>
      cases context.fill state.bindings body with
      | error fault => exact ⟨rfl, rfl, hs⟩
      | ok body => exact h.ask hs _ _ state
  | goToNext | goToPrevious => exact ⟨rfl, rfl, hs⟩
  | addScore | markEmail | deleteEmail | markAsRead => exact h.ask hs _ _ state
  | requestSummary =>
    rw [Step.perform, Step.perform]
    obtain ⟨result, s', t', hx, hy, hs'⟩ := (h.request hs _).exists_eq
    rw [hx, hy]
    cases result with
    | error fault => exact ⟨rfl, rfl, hs'⟩
    | ok value => cases value <;> exact ⟨rfl, rfl, hs'⟩

theorem execute (action : Action) (context : Context) (state : PassState) :
    Alike (Alike R) (action.execute world context state s)
      (action.execute image context state t) := by
  unfold Action.execute
  cases action.step with
  | error fault => exact ⟨rfl, rfl, hs⟩
  | ok step =>
    obtain ⟨hresult, hrest⟩ := h.perform_step hs step context state
    exact ⟨congrArg action.report hresult, hrest⟩

theorem executeAll (actions : List Action) (context : Context) (state : PassState) :
    Alike (Alike R) (Action.executeAll world context actions state s)
      (Action.executeAll image context actions state t) := by
  induction actions generalizing state s t with
  | nil => exact ⟨rfl, rfl, hs⟩
  | cons action rest ih =>
    obtain ⟨report, x, y, hx, hy, hxy⟩ := (h.execute hs action context state).exists_eq
    obtain ⟨state', s', t', rfl, rfl, hs'⟩ := hxy.exists_eq
    obtain ⟨hreports, hrest⟩ := ih hs' state'
    rw [Action.executeAll, Action.executeAll, hx, hy]
    exact ⟨congrArg (report :: ·) hreports, hrest⟩

end Surroundings.Mirrors

end MailTriage

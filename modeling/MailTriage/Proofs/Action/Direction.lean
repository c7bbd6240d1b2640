import MailTriage.Action.Execution
import MailTriage.Proofs.Form.Gather
import Mathlib.Data.List.Forall2
import Mathlib.Tactic

/-!
# Where actions send the reader

Two kinds of actions send the reader to another email. They need no parameters and no host, so they
always succeed; no other action touches the direction of navigation. The direction that the actions
of a rule leave behind is therefore that of the last one among them, whatever the others come to.
-/

namespace MailTriage

open Form

variable {σ : Type} {world : Surroundings σ} {context : Context}

/-! ## Kinds and steps -/

theorem ActionKind.ofName?_eq_some_iff {name : String} {kind : ActionKind} :
    ActionKind.ofName? name = some kind ↔ kind.name = name := by
  constructor
  · intro h
    simpa using List.find?_some h
  · intro h
    subst h
    cases kind <;> decide

def Step.kind : Step → ActionKind
  | runScript _ => .runScript
  | openUrl .. => .openUrl
  | saveVariable _ => .saveVariable
  | logMessage _ => .logMessage
  | addScore .. => .addScore
  | markEmail _ => .markEmail
  | notify .. => .notify
  | deleteEmail => .deleteEmail
  | markAsRead => .markAsRead
  | requestSummary => .requestSummary
  | goToNext => .goToNext
  | goToPrevious => .goToPrevious

theorem Step.kind_of_ofFields {kind : ActionKind} {form : Fields} {supply : Supply} {step : Step}
    (h : (Step.ofFields kind form supply).1 = .ok step) : step.kind = kind := by
  cases kind with
  | runScript | saveVariable | logMessage | markEmail =>
    obtain ⟨_, _, rfl⟩ := Gather.part_of_map_eq_ok h
    rfl
  | openUrl | addScore | notify =>
    obtain ⟨_, _, hg, _, rfl⟩ := Gather.parts_of_seq_eq_ok h
    obtain ⟨_, _, rfl⟩ := Gather.part_of_map_eq_ok hg
    rfl
  | deleteEmail | markAsRead | requestSummary | goToNext | goToPrevious =>
    rw [Gather.eq_of_pure_eq_ok h]
    rfl

theorem Action.kind_of_step {action : Action} {step : Step} (h : action.step = .ok step) :
    action.kind = step.kind.name := by
  unfold Action.step at h
  split at h
  · simp at h
  · next kind hkind =>
    split at h
    · next step' hstep =>
      cases h
      rw [Step.kind_of_ofFields hstep]
      exact (ActionKind.ofName?_eq_some_iff.mp hkind).symm
    · simp at h

/-! ## The direction of an action -/

def Step.direction? : Step → Option Navigation
  | goToNext => some .next
  | goToPrevious => some .previous
  | _ => none

def Action.direction? (action : Action) : Option Navigation :=
  if action.kind = "goto_next_email" then some .next
  else if action.kind = "goto_previous_email" then some .previous
  else none

theorem Action.direction?_of_step {action : Action} {step : Step} (h : action.step = .ok step) :
    action.direction? = step.direction? := by
  rw [Action.direction?, Action.kind_of_step h]
  cases step <;> rfl

/-- An action that becomes no step sends the reader nowhere: those that do need no parameters. -/
theorem Action.direction?_of_fault {action : Action} {fault : ActionFault}
    (h : action.step = .error fault) : action.direction? = none := by
  have hnext : action.kind ≠ "goto_next_email" := by
    intro he
    have hk : ActionKind.ofName? action.kind = some .goToNext := by rw [he]; decide
    simp [Action.step, hk, Step.ofFields, pure, Gather.of] at h
  have hprevious : action.kind ≠ "goto_previous_email" := by
    intro he
    have hk : ActionKind.ofName? action.kind = some .goToPrevious := by rw [he]; decide
    simp [Action.step, hk, Step.ofFields, pure, Gather.of] at h
  rw [Action.direction?, if_neg hnext, if_neg hprevious]

@[simp] theorem Step.ask_state (request : Request) (output : Value) (state : PassState)
    (outer : σ) :
    (Step.ask world request output state outer).2.1 = state := by
  unfold Step.ask
  split <;> rfl

@[simp] theorem Step.perform_openUrl_state (url target : String) (state : PassState) (outer : σ) :
    (Step.perform world context state outer (.openUrl url target)).2.1 = state := by
  rw [Step.perform]
  split
  · rfl
  · dsimp only
    split <;> rfl

@[simp] theorem Step.perform_notify_state (title body : String) (state : PassState) (outer : σ) :
    (Step.perform world context state outer (.notify title body)).2.1 = state := by
  rw [Step.perform]
  split
  · rfl
  · split
    · rfl
    · rw [Step.ask_state]

theorem Step.script_navigation (code : String) (state : PassState) (outer : σ) :
    (Step.script world code context state outer).2.1.navigation = state.navigation := by
  unfold Step.script
  dsimp only
  split
  · rfl
  · rfl
  · split
    · rfl
    · split <;> rfl

/-- A step that sends the reader somewhere overrides the direction so far, and any other step keeps
it. -/
theorem Step.perform_navigation (step : Step) (state : PassState) (outer : σ) :
    (step.perform world context state outer).2.1.navigation =
      step.direction?.or state.navigation := by
  cases step with
  | runScript code => exact Step.script_navigation code state outer
  | saveVariable | logMessage | requestSummary =>
    rw [Step.perform]
    split <;> rfl
  | openUrl =>
    rw [Step.perform_openUrl_state]
    rfl
  | notify =>
    rw [Step.perform_notify_state]
    rfl
  | goToNext | goToPrevious => rfl
  | addScore | markEmail | deleteEmail | markAsRead =>
    rw [Step.perform, Step.ask_state]
    rfl

theorem Action.execute_navigation (action : Action) (state : PassState) (outer : σ) :
    (action.execute world context state outer).2.1.navigation =
      action.direction?.or state.navigation := by
  unfold Action.execute
  cases h : action.step with
  | error fault => rw [Action.direction?_of_fault h]; rfl
  | ok step => rw [Action.direction?_of_step h, ← Step.perform_navigation]

def Action.lastDirection? (actions : List Action) : Option Navigation :=
  (actions.filterMap Action.direction?).getLast?

theorem Action.lastDirection?_cons (action : Action) (rest : List Action) :
    Action.lastDirection? (action :: rest) =
      (Action.lastDirection? rest).or action.direction? := by
  unfold Action.lastDirection?
  cases h : action.direction? with
  | none => simp [h]
  | some direction =>
    rw [List.filterMap_cons_some h, List.getLast?_cons]
    cases (rest.filterMap Action.direction?).getLast? <;> rfl

theorem Action.executeAll_navigation (actions : List Action) (state : PassState) (outer : σ) :
    (Action.executeAll world context actions state outer).2.1.navigation =
      (Action.lastDirection? actions).or state.navigation := by
  induction actions generalizing state outer with
  | nil => rfl
  | cons action rest ih =>
    rw [Action.executeAll]
    dsimp only
    rw [ih, Action.execute_navigation, Action.lastDirection?_cons, Option.or_assoc]

/-- Some action sends the reader somewhere exactly when one of them has either of the two kinds. -/
theorem Action.lastDirection?_eq_none_iff {actions : List Action} :
    Action.lastDirection? actions = none ↔
      ∀ action ∈ actions, action.kind ≠ "goto_next_email" ∧
        action.kind ≠ "goto_previous_email" := by
  rw [Action.lastDirection?, List.getLast?_eq_none_iff, List.filterMap_eq_nil_iff]
  refine forall₂_congr fun action _ => ?_
  unfold Action.direction?
  split_ifs <;> simp_all

/-! ## The reports on actions -/

/-- A report on an action: it names the action and its kind, and it has an error exactly when it
failed. -/
structure ActionReport.Answers (report : ActionReport) (action : Action) : Prop where
  actionId : report.actionId = some action.id
  kind : report.kind = action.kind
  success : report.success = true ↔ report.error = none

theorem Action.report_answers (action : Action) (result : Except ActionFault Value) :
    (action.report result).Answers action := by
  cases result <;> exact ⟨rfl, rfl, by simp [Action.report]⟩

theorem Action.execute_answers (action : Action) (state : PassState) (outer : σ) :
    (action.execute world context state outer).1.Answers action := by
  unfold Action.execute
  cases action.step with
  | error fault => exact action.report_answers (.error fault)
  | ok step => exact action.report_answers (step.perform world context state outer).1

/-- Every action gets a report, whatever became of those before it. -/
theorem Action.executeAll_answers (actions : List Action) (state : PassState) (outer : σ) :
    List.Forall₂ ActionReport.Answers
      (Action.executeAll world context actions state outer).1 actions := by
  induction actions generalizing state outer with
  | nil => exact .nil
  | cons action rest ih =>
    rw [Action.executeAll]
    exact .cons (action.execute_answers state outer) (ih _ _)

end MailTriage

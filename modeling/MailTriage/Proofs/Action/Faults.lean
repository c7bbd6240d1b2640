import MailTriage.Action.Execution
import MailTriage.Proofs.Outcome
import Mathlib.Tactic

/-!
# What a step can fail with

The kind and the parameters of an action are looked at before it becomes a step. Once it has become
one, neither can be blamed any more: a step fails because of an address, a pattern, a script or the
host. The one exception is a script whose collected document does not fit, which is reported like
parameters that do not.
-/

namespace MailTriage

variable {σ : Type}

/-- Whether a fault can come out of a step. What is put down to the host is a trouble that the host
has answered with. -/
def ActionFault.Raised (world : Surroundings σ) : ActionFault → Prop
  | .unknownKind => False
  | .invalidParameters _ => False
  | .host trouble => ∃ request outer, (world.perform request outer).1 = .error trouble
  | .unusablePattern (.malformed _) => False
  | _ => True

namespace Surroundings

/-- Whether what scripts collect always fits the form of an outcome. -/
def ScriptsFit (world : Surroundings σ) : Prop :=
  ∀ code context bindings outer problems,
    (Script.run world.evaluate code context bindings outer).1.outcome ≠ .error (.form problems)

variable {world : Surroundings σ} {context : Context}

theorem raised_request (request : Request) (outer : σ) :
    FailsOnly (ActionFault.Raised world) (world.request request outer).1 := by
  unfold Surroundings.request
  split
  · next trouble after h =>
    rw [failsOnly_error]
    exact ⟨request, outer, by rw [h]⟩
  · simp [ActionFault.Raised]
  · simp

theorem raised_openPage (url target : String) (outer : σ) :
    FailsOnly (ActionFault.Raised world) (world.openPage url target outer).1 := by
  unfold Surroundings.openPage
  split
  · simp [ActionFault.Raised]
  · split
    · exact raised_request _ _
    · simp [ActionFault.Raised]

theorem raised_openAll (urls : List String) (sofar : OpenedUrls) (outer : σ) :
    FailsOnly (ActionFault.Raised world) (openAll world sofar urls outer).1 := by
  induction urls generalizing sofar outer with
  | nil => simp [openAll]
  | cons url rest ih =>
    unfold openAll
    split
    · simp [ActionFault.Raised]
    · split
      · split
        · next fault after h =>
            exact (raised_request (.openUrl url "_blank") outer).error (by rw [h])
        · exact ih _ _
      · exact ih _ _

theorem raised_extract (pattern : String) (group : Nat) (text : String) :
    FailsOnly (ActionFault.Raised world) (Assignment.extract pattern group text) := by
  unfold Assignment.extract
  split
  · simp [ActionFault.Raised]
  · next refusal hmalformed _ =>
    cases refusal with
    | malformed fault => exact absurd rfl (hmalformed fault)
    | countTooLarge | codeTooLarge | repertoires => simp [ActionFault.Raised]
  · dsimp only
    split
    · simp
    · simp

theorem raised_fill (bindings : Fields) (template : String) :
    FailsOnly (ActionFault.Raised world) (context.fill bindings template) := by
  unfold Context.fill
  cases context.resolve bindings template with
  | ok text => simp [Except.mapError]
  | error fault =>
    cases fault
    simp [Except.mapError, ActionFault.ofWriting, ActionFault.Raised]

theorem raised_assignment (assignment : Assignment) (bindings : Fields) :
    FailsOnly (ActionFault.Raised world) (assignment.evaluate context bindings) := by
  unfold Assignment.evaluate
  extract_lets pattern blankValue
  split
  · exact raised_extract _ _ _
  · split
    · exact (raised_fill bindings _).map _
    · simp

theorem raised_output (assignment : Assignment) (value : Value) :
    FailsOnly (ActionFault.Raised world) (assignment.output value) := by
  unfold Assignment.output
  split
  · simp
  · simp [ActionFault.Raised]

theorem raised_ask (request : Request) (output : Value) (state : PassState) (outer : σ) :
    FailsOnly (ActionFault.Raised world) (Step.ask world request output state outer).1 := by
  unfold Step.ask
  split
  · next fault after h => exact (raised_request request outer).error (by rw [h])
  · simp

theorem ScriptsFit.raised_script (h : world.ScriptsFit) (code : String) (state : PassState)
    (outer : σ) :
    FailsOnly (ActionFault.Raised world) (Step.script world code context state outer).1 := by
  unfold Step.script
  dsimp only
  split
  · simp [ActionFault.Raised]
  · next problems hform => exact absurd hform (h code context state.bindings outer problems)
  · split
    · simp [ActionFault.Raised]
    · split
      · next fault after hopen => exact (raised_openAll _ _ _).error (by rw [hopen])
      · simp

theorem ScriptsFit.raised_perform (h : world.ScriptsFit) (step : Step) (state : PassState)
    (outer : σ) :
    FailsOnly (ActionFault.Raised world) (step.perform world context state outer).1 := by
  cases step with
  | runScript code => exact h.raised_script code state outer
  | openUrl url target =>
    rw [Step.perform]
    split
    · next fault hfill => exact (raised_fill state.bindings url).error hfill
    · dsimp only
      split
      · next fault after hopen => exact (raised_openPage _ _ _).error (by rw [hopen])
      · simp
  | saveVariable assignment =>
    rw [Step.perform]
    split
    · next fault hvalue => exact (raised_assignment assignment state.bindings).error hvalue
    · exact raised_output assignment _
  | requestSummary =>
    rw [Step.perform]
    split
    · next fault after hrequest => exact (raised_request _ outer).error (by rw [hrequest])
    · simp
    · simp
  | logMessage message =>
    rw [Step.perform]
    split
    · next fault hfill => exact (raised_fill state.bindings message).error hfill
    · simp
  | notify title body =>
    rw [Step.perform]
    split
    · next fault hfill => exact (raised_fill state.bindings title).error hfill
    · split
      · next fault hfill => exact (raised_fill state.bindings body).error hfill
      · exact raised_ask _ _ _ _
  | goToNext | goToPrevious =>
    rw [Step.perform]
    simp
  | addScore | markEmail | deleteEmail | markAsRead => exact raised_ask _ _ _ _

end Surroundings

/-! ## Wordings -/

/-- Whether a text says that an action became no step: its kind is unknown, or its parameters cannot
be read. -/
inductive ActionFault.BlamesForm (text : String) : Prop
  | kind (h : text = "unknown action type")
  | parameters (h : "Invalid parameters".toList <+: text.toList)

namespace ActionFault

/-- Both wordings are known by their ninth letter. -/
theorem BlamesForm.begins {text : String} (h : BlamesForm text) :
    text.toList.take 9 = ['u', 'n', 'k', 'n', 'o', 'w', 'n', ' ', 'a'] ∨
      text.toList.take 9 = ['I', 'n', 'v', 'a', 'l', 'i', 'd', ' ', 'p'] := by
  cases h with
  | kind h =>
    left
    simp [h]
  | parameters h =>
    obtain ⟨rest, h⟩ := h
    right
    simp [← h]

theorem not_blamesForm_quoted (s rest : String) : ¬ BlamesForm (Text.quoted s ++ rest) := by
  have hquote : Text.Quoted.quoteFor s.toList = '"' ∨ Text.Quoted.quoteFor s.toList = '\x27' := by
    unfold Text.Quoted.quoteFor
    split
    · exact .inl rfl
    · exact .inr rfl
  intro h
  have hbegins := h.begins
  rcases hquote with hquote | hquote
  · simp [Text.quoted, Text.Quoted.encode, hquote] at hbegins
  · simp [Text.quoted, Text.Quoted.encode, hquote] at hbegins

theorem not_blamesForm_refusal (request : Request) : ¬ BlamesForm request.refusal := by
  intro h
  have hbegins := h.begins
  unfold Request.refusal at hbegins
  cases request with
  | openUrl | adjustScore | markEmail | notify | deleteEmail | markAsRead | requestSummary =>
    simp at hbegins

theorem not_blamesForm_url (fault : UrlFault) : ¬ BlamesForm fault.message := by
  intro h
  have hbegins := h.begins
  unfold UrlFault.message at hbegins
  cases fault with
  | notAnAddress host => exact not_blamesForm_quoted _ _ h
  | unbalancedBracket | badFutureAddress | bracketedIPv4 | deceptive => simp at hbegins

theorem not_blamesForm_shape (fault : ShapeFault) : ¬ BlamesForm fault.message := by
  intro h
  have hbegins := h.begins
  unfold ShapeFault.message at hbegins
  cases fault with
  | missingKey key =>
    apply not_blamesForm_quoted key ""
    rw [String.append_empty]
    exact h
  | noKeys value =>
    cases value with
    | list | text | null | bool | int | float | object => simp at hbegins
  | noItems | noPair | tooFew | tooMany => simp at hbegins

theorem not_blamesForm_overlong : ¬ BlamesForm Json.overlongMessage := by
  have htake : Json.overlongMessage.toList.take 9 = "Exceeds t".toList := by
    unfold Json.overlongMessage
    rw [String.append_assoc, String.toList_append, List.take_append_of_le_length (by decide)]
    rfl
  intro h
  have hbegins := h.begins
  rw [htake] at hbegins
  exact absurd hbegins (by decide)

/-- A fault that can come out of a step is worded differently from those before it, unless the host
has worded it. -/
theorem Raised.not_blamesForm {world : Surroundings σ} {fault : ActionFault}
    (h : fault.Raised world) (hhost : ∀ trouble, fault ≠ .host trouble) :
    ¬ BlamesForm fault.text := by
  intro hblamed
  have hbegins := hblamed.begins
  unfold text at hbegins
  cases fault with
  | unknownKind | invalidParameters => exact h
  | host trouble => exact hhost trouble rfl
  | badUrl fault => exact not_blamesForm_url fault hblamed
  | refused request => exact not_blamesForm_refusal request hblamed
  | collection fault => exact not_blamesForm_shape fault hblamed
  | notWebUrl | badPattern | script => simp at hbegins
  | numberTooLong => exact not_blamesForm_overlong hblamed
  | unusablePattern refusal =>
    cases refusal with
    | malformed => exact h
    | countTooLarge | codeTooLarge | repertoires => simp [Pattern.Refusal.message] at hbegins

end ActionFault

end MailTriage

import MailTriage.Matching.Evaluation
import MailTriage.Proofs.Action.Faults
import MailTriage.Proofs.Form.Explained
import MailTriage.Proofs.Json.Number
import MailTriage.Proofs.Outcome
import MailTriage.Proofs.Pattern.Case
import MailTriage.Proofs.Pattern.Literal
import MailTriage.Proofs.Triage.Deferral
import MailTriage.Validation

/-!
# What a check of a rule promises

A check and a pass look at a rule in different ways. The check looks the kind of a condition up in
the catalog, and reads the pattern as it would be reported; the pass goes by the field that the
condition tests, and reads the pattern as templates show it, with or without regard to case. They
agree all the same: what the check lets through works, and the kinds that it does not know are those
that a pass does not know.
-/

namespace MailTriage

variable {σ : Type}

/-! ## The catalog -/

theorem Operator.ofName?_eq_some_iff {name : String} {operator : Operator} :
    Operator.ofName? name = some operator ↔ operator.name = name := by
  constructor
  · intro h
    simpa using List.find?_some h
  · intro h
    subst h
    cases operator <;> decide

namespace Catalog

def listedName (kind : String) : String :=
  if Subject.variableMark.toList.isPrefixOf kind.toList then ConditionKind.customVariable.name
  else kind

theorem condition_kind (kind : ConditionKind) : (condition kind).kind = kind := by
  cases kind <;> rfl

theorem condition?_eq_find? (kind : String) :
    condition? kind = conditions.find? fun definition => definition.kind.name =
      listedName kind := by
  unfold condition? Subject.ofKind? Subject.variableName? listedName conditions
  rw [List.find?_map]
  by_cases hvariable : Subject.variableMark.toList.isPrefixOf kind.toList = true
  · simp only [hvariable, if_true]
    rfl
  · simp only [hvariable, ConditionKind.ofName?, Option.map_map, Function.comp_def, condition_kind,
      Bool.false_eq_true, if_false]
    rfl

theorem condition?_eq_none_iff {kind : String} :
    condition? kind = none ↔ ∀ definition ∈ conditions, definition.kind.name ≠ listedName kind := by
  simp [condition?_eq_find?]

theorem condition?_eq_none_iff_ofKind? {kind : String} :
    condition? kind = none ↔ Subject.ofKind? kind = none := by
  rw [condition?, Option.map_eq_none_iff]

end Catalog

/-! ## Patterns -/

theorem not_special_of_isDigit {c : Char} (h : c.isDigit = true) :
    c ∉ Pattern.specialCharacters := by
  have hspecial : ∀ d ∈ Pattern.specialCharacters, d.isDigit = false := by
    simp [Pattern.specialCharacters]
  intro hmem
  rw [hspecial c hmem] at h
  simp at h

theorem not_special_of_mem_encodeInt {n : Int} {c : Char} (h : c ∈ Json.encodeInt n) :
    c ∉ Pattern.specialCharacters := by
  have hdigits : c ∈ Nat.toDigits 10 n.natAbs → c ∉ Pattern.specialCharacters := fun hmem =>
    not_special_of_isDigit (Number.isDigit_of_mem_toDigits hmem)
  unfold Json.encodeInt at h
  split at h
  · rcases List.mem_cons.mp h with rfl | h
    · decide
    · exact hdigits h
  · exact hdigits h

/-- A pattern that can be read as it would be reported can be read as templates show it: only whole
floating numbers are shown differently, and those are shown by their digits. -/
theorem Scalar.exists_read_spelled {scalar : Scalar}
    (h : ∃ pattern, Pattern.read scalar.patternText false = .ok pattern) :
    ∃ pattern, Pattern.read scalar.toValue.spelled false = .ok pattern := by
  cases scalar with
  | bool b =>
    cases b with
    | false | true =>
      refine ⟨_, Pattern.read_of_plain ?_⟩
      simp [Scalar.toValue, Value.spelled, Pattern.specialCharacters]
  | int n => exact h
  | text s => exact h
  | float x =>
    rw [Scalar.toValue, Value.spelled]
    split
    · next n _ _ =>
      refine ⟨_, Pattern.read_of_plain ?_⟩
      intro c hc
      rw [String.toList_ofList] at hc
      exact not_special_of_mem_encodeInt hc
    · exact h

/-! ## Comparisons -/

/-- A result that is missing, if it is, for the size of a number. -/
abbrev FailsForSize {α : Type} (result : Except ComparisonFailure α) : Prop :=
  FailsOnly (fun failure => failure = .numberTooLarge ∨ failure = .numberTooLong) result

theorem Value.failsForSize_asNumber (value : Value) : FailsForSize value.asNumber := by
  cases value with
  | int n =>
    rw [Value.asNumber]
    split
    · simp
    · simp
  | null | bool | float | text | list | object => simp [Value.asNumber]

theorem Value.failsForSize_numbers (a b : Value)
    {next : Option Binary64 → Option Binary64 → Except ComparisonFailure Bool}
    (hnext : ∀ x y, FailsForSize (next x y)) :
    FailsForSize (do next (← a.asNumber) (← b.asNumber)) := by
  apply (Value.failsForSize_asNumber a).bind
  intro x
  apply (Value.failsForSize_asNumber b).bind
  intro y
  exact hnext x y

theorem Value.failsForSize_testTexts (test : String → String → Bool) (caseSensitive : Bool)
    (a b : Value) :
    FailsForSize (Value.testTexts test caseSensitive a b) := by
  unfold Value.testTexts
  split
  · simp
  · simp

theorem Value.failsForSize_same (caseSensitive : Bool) (a b : Value) :
    FailsForSize (a.same caseSensitive b) := by
  unfold Value.same
  split
  · split
    · simp
    · simp
  · split
    · apply Value.failsForSize_numbers
      intro x y
      split
      · simp
      · exact Value.failsForSize_testTexts _ caseSensitive a b
    · exact Value.failsForSize_testTexts _ caseSensitive a b

theorem Value.failsForSize_isAbove (a b : Value) : FailsForSize (a.isAbove b) := by
  apply Value.failsForSize_numbers
  intro x y
  split
  · simp
  · simp

theorem Value.failsForSize_isBelow (a b : Value) : FailsForSize (a.isBelow b) := by
  apply Value.failsForSize_numbers
  intro x y
  split
  · simp
  · simp

/-- A comparison fails for the size of a number only, unless it has a pattern that cannot be
read. -/
theorem Operator.failsForSize_apply {operator : Operator} {caseSensitive : Bool} (actual : Value)
    {expected : Value}
    (hread : operator = .regexMatch → expected.isNull = false →
      ∃ pattern, Pattern.read expected.spelled (!caseSensitive) = .ok pattern) :
    FailsForSize (operator.apply caseSensitive actual expected) := by
  cases operator with
  | present | absent => simp [Operator.apply]
  | equals | contains | startsWith | endsWith | greaterThan | lessThan =>
    unfold Operator.apply
    dsimp only
    split
    · simp
    · simp only [Operator.compare, Value.failsForSize_same, Value.failsForSize_isAbove,
        Value.failsForSize_isBelow, Value.failsForSize_testTexts]
  | regexMatch =>
    unfold Operator.apply
    dsimp only
    split
    · simp
    · next hnull =>
      rw [Bool.or_eq_true, not_or, Bool.not_eq_true, Bool.not_eq_true] at hnull
      obtain ⟨pattern, hpattern⟩ := hread rfl hnull.2
      rw [Operator.compare, Value.matchesPattern, hpattern]
      split
      · simp
      · simp

/-! ## Conditions -/

/-- A condition that does in a pass what it says: it tests a field that there is by its own
operator, it is reported without an error, and what it takes for a pattern is one. Only a number may
be too large to be compared, or too long to be written. -/
structure Condition.Works (context : Context) (condition : Condition) : Prop where
  listed : ∃ definition ∈ Catalog.conditions,
    definition.kind.name = Catalog.listedName condition.kind ∧
    condition.effectiveOperator ∈ definition.operators
  operator : condition.effectiveOperator.name = condition.operator
  subject : ∃ subject, Subject.ofKind? condition.kind = some subject
  report : ∀ report, condition.evaluate context = .ok report → report.error = none
  failure : ∀ failure, condition.evaluate context = .error failure →
    failure.failure = .numberTooLarge ∨ failure.failure = .numberTooLong
  pattern : ∀ value, condition.operator = "regex_match" → condition.value = some value →
    ∀ ignoreCase, ∃ pattern, Pattern.read value.toValue.spelled ignoreCase = .ok pattern

namespace Condition

variable {context : Context} {condition : Condition}

theorem patternObjections_cases {patterns : List Objection}
    (h : condition.patternObjections = .ok patterns) :
    patterns = [] ∨ ∃ text fault, patterns = [.badPattern condition.id text fault] := by
  unfold patternObjections at h
  split at h
  · cases h
    exact .inl rfl
  · split at h
    · split at h
      · cases h
        exact .inl rfl
      · cases h
        exact .inr ⟨_, _, rfl⟩
      · exact nomatch h
    · exact nomatch h

/-- What the check of a condition finds: its kind is unknown, its operator is, or the operator is
looked for among those of the field and the pattern, if that is what the operator takes, is read. -/
theorem objections_cases {found : List Objection} (h : condition.objections = .ok found) :
    (Catalog.condition? condition.kind = none ∧ found =
      [.unknownField condition.id condition.kind]) ∨
      ∃ definition, Catalog.condition? condition.kind = some definition ∧
        (found = [.unknownOperator condition.id condition.operator] ∨
          ∃ operator patterns, Operator.ofName? condition.operator = some operator ∧
            (operator = .regexMatch → condition.patternObjections = .ok patterns) ∧
            (operator ≠ .regexMatch → patterns = []) ∧
            found = (if operator ∈ definition.operators then []
              else [.unsupportedOperator condition.id operator condition.kind]) ++ patterns) := by
  unfold objections at h
  split at h
  · next hnone =>
    cases h
    exact .inl ⟨hnone, rfl⟩
  · next definition hdefinition _ =>
    cases h
    exact .inr ⟨definition, hdefinition, .inl rfl⟩
  · next definition operator hdefinition hoperator =>
    refine .inr ⟨definition, hdefinition, .inr ⟨operator, ?_⟩⟩
    simp only [List.contains_iff_mem] at h
    split at h
    · next hregex =>
      obtain ⟨patterns, hpatterns, h⟩ := exists_of_bind_eq_ok h
      cases h
      exact ⟨patterns, hoperator, fun _ => hpatterns, fun hother => absurd hregex hother, rfl⟩
    · next hregex =>
      cases h
      exact ⟨[], hoperator, fun h => absurd h hregex, fun _ => rfl, rfl⟩

theorem objections_of_unknown (h : Catalog.condition? condition.kind = none) :
    condition.objections = .ok [.unknownField condition.id condition.kind] := by
  rw [objections, h]

theorem of_unknownField_mem {id kind : String} {found : List Objection}
    (h : condition.objections = .ok found) (hmem : .unknownField id kind ∈ found) :
    Catalog.condition? kind = none := by
  rcases objections_cases h with ⟨hnone, rfl⟩ |
    ⟨definition, -, rfl | ⟨operator, patterns, -, hregex, hother, rfl⟩⟩
  · simp only [List.mem_singleton, Objection.unknownField.injEq] at hmem
    rw [hmem.2]
    exact hnone
  · simp at hmem
  · have hpatterns : .unknownField id kind ∉ patterns := by
      by_cases hoperator : operator = .regexMatch
      · rcases patternObjections_cases (hregex hoperator) with rfl | ⟨text, fault, rfl⟩
        · simp
        · simp
      · simp [hother hoperator]
    rw [List.mem_append, or_iff_left hpatterns] at hmem
    split at hmem
    · simp at hmem
    · simp at hmem

theorem accepted_of_objections (h : condition.objections = .ok []) :
    ∃ definition operator, Catalog.condition? condition.kind = some definition ∧
      Operator.ofName? condition.operator = some operator ∧ operator ∈ definition.operators ∧
        (operator = .regexMatch → condition.patternObjections = .ok []) := by
  rcases objections_cases h with ⟨-, hfound⟩ |
    ⟨definition, hdefinition, hfound | ⟨operator, patterns, hoperator, hregex, -, hfound⟩⟩
  · exact nomatch hfound
  · exact nomatch hfound
  · obtain ⟨hsupported, rfl⟩ := List.append_eq_nil_iff.mp hfound.symm
    refine ⟨definition, operator, hdefinition, hoperator, ?_, hregex⟩
    by_contra hmem
    simp [hmem] at hsupported

theorem exists_read_of_patternObjections (h : condition.patternObjections = .ok []) {value : Scalar}
    (hvalue : condition.value = some value) (ignoreCase : Bool) :
    ∃ pattern, Pattern.read value.toValue.spelled ignoreCase = .ok pattern := by
  have hchecked : ∃ pattern, Pattern.read value.patternText false = .ok pattern := by
    rw [patternObjections, hvalue] at h
    dsimp only at h
    split at h
    · split at h
      · next pattern hpattern => exact ⟨pattern, hpattern⟩
      · exact nomatch h
      · exact nomatch h
    · exact nomatch h
  have hshown := Scalar.exists_read_spelled hchecked
  cases ignoreCase with
  | false => exact hshown
  | true => rwa [Pattern.read_true, exists_map_eq_ok_iff]

theorem not_passed_over (hloaded : context.email.contentLoaded = true) :
    (condition.readsContent && !context.email.contentLoaded) = false := by
  simp [hloaded]

theorem works_of_objections (hloaded : context.email.contentLoaded = true)
    (h : condition.objections = .ok []) :
    condition.Works context := by
  obtain ⟨definition, operator, hdefinition, hoperator, hsupported, hpattern⟩ :=
    accepted_of_objections h
  have heffective : condition.effectiveOperator = operator := by
    rw [effectiveOperator, hdefinition, hoperator]
    simp [hsupported]
  have hname : operator.name = condition.operator := Operator.ofName?_eq_some_iff.mp hoperator
  obtain ⟨subject, hsubject⟩ : ∃ subject, Subject.ofKind? condition.kind = some subject := by
    rw [← Option.ne_none_iff_exists', ne_eq, ← Catalog.condition?_eq_none_iff_ofKind?, hdefinition]
    simp
  have hread (hregex : operator = .regexMatch) {value : Scalar}
      (hvalue : condition.value = some value) :=
    exists_read_of_patternObjections (hpattern hregex) hvalue
  constructor
  · rw [Catalog.condition?_eq_find?] at hdefinition
    refine ⟨definition,
      List.mem_of_find?_eq_some hdefinition, by simpa using List.find?_some hdefinition, ?_⟩
    rw [heffective]
    exact hsupported
  · rw [heffective, hname]
  · exact ⟨subject, hsubject⟩
  · intro report hreport
    rw [evaluate_eq (not_passed_over hloaded), hsubject] at hreport
    dsimp only at hreport
    split at hreport
    · exact nomatch hreport
    · split at hreport
      · cases hreport
        rfl
      · exact nomatch hreport
  · intro failure hfailure
    rw [evaluate_eq (not_passed_over hloaded), hsubject] at hfailure
    dsimp only at hfailure
    split at hfailure
    · next reason hreason =>
      cases hfailure
      refine Operator.failsForSize_apply _ ?_ reason hreason
      intro hregex hnull
      rw [heffective] at hregex
      cases hvalue : condition.value with
      | none =>
        rw [expected, hvalue] at hnull
        exact nomatch hnull
      | some value =>
        rw [expected, hvalue]
        exact hread hregex hvalue _
    · split at hfailure
      · exact nomatch hfailure
      · cases hfailure
        exact .inr rfl
  · intro value hregex hvalue
    have hregex : operator = .regexMatch := by
      rw [hregex] at hoperator
      exact Option.some.inj (hoperator.symm.trans (by decide))
    exact hread hregex hvalue

theorem evaluate_unknown_iff (hloaded : context.email.contentLoaded = true) :
    (∃ report, condition.evaluate context = .ok report ∧
        report.error = some ("Unknown condition type: " ++ condition.kind)) ↔
      Subject.ofKind? condition.kind = none := by
  rw [evaluate_eq (not_passed_over hloaded)]
  constructor
  · rintro ⟨report, hreport, herror⟩
    by_contra hknown
    obtain ⟨subject, hsubject⟩ := Option.ne_none_iff_exists'.mp hknown
    rw [hsubject] at hreport
    dsimp only at hreport
    split at hreport
    · exact nomatch hreport
    · split at hreport
      · cases hreport
        exact nomatch herror
      · exact nomatch hreport
  · intro hunknown
    rw [hunknown]
    exact ⟨_, rfl, rfl⟩

end Condition

/-! ## Actions -/

/-- An action that in a pass becomes a step and ends as the step does, well or with a fault of its
own. Only the host can word a trouble as if the action had become no step. -/
structure Action.Works (world : Surroundings σ) (context : Context) (state : PassState) (outer : σ)
    (action : Action) :
    Prop where
  step : ∃ step, action.step = .ok step ∧
    action.execute world context state outer =
      (action.report (step.perform world context state outer).1,
        (step.perform world context state outer).2) ∧
    (step.perform world context state outer).1 ≠ .error .unknownKind ∧
    ∀ problems, (step.perform world context state outer).1 ≠ .error (.invalidParameters problems)
  wording : ∀ text,
    (action.execute world context state outer).1.error = some text → ActionFault.BlamesForm text →
    ∃ request before trouble,
      (world.perform request before).1 = .error trouble ∧ text = trouble.text

namespace Action

theorem exists_step_of_objections {action : Action} (h : action.objections = []) :
    ∃ step, action.step = .ok step := by
  cases hkind : ActionKind.ofName? action.kind with
  | none =>
    rw [objections, hkind] at h
    exact nomatch h
  | some kind =>
    cases hform : (Step.ofFields kind action.parameters ⟨0, 0⟩).1 with
    | ok step => exact ⟨step, by simp [Action.step, hkind, hform]⟩
    | error problems =>
      have hnone : problems = [] := by simpa [objections, hkind, hform] using h
      rw [hnone] at hform
      exact absurd hform (Step.explained_ofFields kind action.parameters ⟨0, 0⟩)

theorem works_of_objections {world : Surroundings σ} (hscripts : world.ScriptsFit) {action : Action}
    (h : action.objections = []) (context : Context) (state : PassState) (outer : σ) :
    action.Works world context state outer := by
  obtain ⟨step, hstep⟩ := exists_step_of_objections h
  have hexecute : action.execute world context state outer =
      (action.report (step.perform world context state outer).1,
        (step.perform world context state outer).2) := by
    rw [execute, hstep]
  have hraised : FailsOnly (ActionFault.Raised world) (step.perform world context state outer).1 :=
    hscripts.raised_perform step state outer
  constructor
  · refine ⟨step, hstep, hexecute, ?_, ?_⟩
    · intro hkind
      exact hraised _ hkind
    · intro problems hproblems
      exact hraised _ hproblems
  · intro text htext hblamed
    rw [hexecute] at htext
    cases hresult : (step.perform world context state outer).1 with
    | ok output =>
      rw [hresult] at htext
      exact nomatch htext
    | error fault =>
      rw [hresult] at htext
      obtain rfl : fault.text = text := Option.some.inj htext
      have hfault := hraised fault hresult
      by_cases hhost : ∃ trouble, fault = .host trouble
      · obtain ⟨trouble, rfl⟩ := hhost
        obtain ⟨request, before, hanswer⟩ := hfault
        exact ⟨request, before, trouble, hanswer, rfl⟩
      · exact absurd hblamed (hfault.not_blamesForm (not_exists.mp hhost))

theorem unknownField_not_mem (action : Action) (id kind : String) :
    .unknownField id kind ∉ action.objections := by
  unfold objections
  split
  · simp
  · split
    · simp
    · simp

end Action

namespace Rule

variable {rule : Rule} {problems : List Objection}

theorem unknownField_not_mem_own (rule : Rule) (id kind : String) :
    .unknownField id kind ∉ rule.ownObjections := by
  unfold ownObjections
  split <;> split <;> simp

theorem exists_of_objections (h : rule.objections = .ok problems) :
    ∃ found, rule.conditions.mapM Condition.objections = .ok found ∧
      problems = rule.ownObjections ++ found.flatten ++ rule.actions.flatMap Action.objections := by
  obtain ⟨found, hfound, h⟩ := exists_of_bind_eq_ok h
  exact ⟨found, hfound, (Except.ok.inj h).symm⟩

theorem unknownField_mem_iff (h : rule.objections = .ok problems) {condition : Condition}
    (hcondition : condition ∈ rule.conditions) :
    .unknownField condition.id condition.kind ∈ problems ↔
      Catalog.condition? condition.kind = none := by
  obtain ⟨found, hfound, rfl⟩ := exists_of_objections h
  obtain ⟨hconditions, hobjections⟩ := mem_of_mapM_eq_ok hfound
  constructor
  · intro hmem
    rw [List.mem_append, List.mem_append] at hmem
    rcases hmem with (hown | hmem) | haction
    · exact absurd hown (unknownField_not_mem_own rule _ _)
    · obtain ⟨objections, hmem, hobjection⟩ := List.mem_flatten.mp hmem
      obtain ⟨other, _, hother⟩ := hobjections objections hmem
      exact Condition.of_unknownField_mem hother hobjection
    · obtain ⟨action, _, haction⟩ := List.mem_flatMap.mp haction
      exact absurd haction (Action.unknownField_not_mem action _ _)
  · intro hunknown
    obtain ⟨objections, hmem, hobjection⟩ := hconditions condition hcondition
    rw [Condition.objections_of_unknown hunknown] at hobjection
    cases hobjection
    rw [List.mem_append, List.mem_append]
    exact .inl (.inr (List.mem_flatten.mpr ⟨_, hmem, List.mem_singleton.mpr rfl⟩))

theorem objections_nil (h : rule.objections = .ok []) :
    (∀ condition ∈ rule.conditions, condition.objections = .ok []) ∧
      ∀ action ∈ rule.actions, action.objections = [] := by
  obtain ⟨found, hfound, hnone⟩ := exists_of_objections h
  simp only [List.nil_eq, List.append_eq_nil_iff, List.flatten_eq_nil_iff,
    List.flatMap_eq_nil_iff] at hnone
  constructor
  · intro condition hcondition
    obtain ⟨objections, hmem, hobjection⟩ := (mem_of_mapM_eq_ok hfound).1 condition hcondition
    rw [hobjection, hnone.1.2 objections hmem]
  · exact hnone.2

/-- What a check finds agrees with what a pass does: the conditions and the actions of a rule
without objections work, whatever the context and the surroundings, and the check and the pass know
the kinds of the same conditions. -/
theorem check_agrees (h : rule.objections = .ok problems) {context : Context}
    (hloaded : context.email.contentLoaded = true) :
    (problems = [] →
      (∀ condition ∈ rule.conditions, condition.Works context) ∧
        ∀ {σ : Type} (world : Surroundings σ), world.ScriptsFit →
          ∀ action ∈ rule.actions, ∀ state outer,
          action.Works world context state outer) ∧
      ∀ condition ∈ rule.conditions,
        (.unknownField condition.id condition.kind ∈ problems ↔
          ∀ definition ∈ Catalog.conditions, definition.kind.name ≠
            Catalog.listedName condition.kind) ∧
        (.unknownField condition.id condition.kind ∈ problems ↔
          ∃ report, condition.evaluate context = .ok report ∧
            report.error = some ("Unknown condition type: " ++ condition.kind)) := by
  constructor
  · rintro rfl
    obtain ⟨hconditions, hactions⟩ := objections_nil h
    constructor
    · intro condition hcondition
      exact Condition.works_of_objections hloaded (hconditions condition hcondition)
    · intro σ world hscripts action haction state outer
      exact Action.works_of_objections hscripts (hactions action haction) context state outer
  · intro condition hcondition
    rw [unknownField_mem_iff h hcondition]
    constructor
    · exact Catalog.condition?_eq_none_iff
    · rw [Catalog.condition?_eq_none_iff_ofKind?, Condition.evaluate_unknown_iff hloaded]

/-- A rule that looks for a whole floating number in the subject and for a variable that has not
been saved, and that writes a message and runs a script. -/
def versions : Rule :=
  { id := "versions", name := "Versions", createdAt := 0, lastModified := 0
    conditions := [
      { id := "c", kind := "subject", operator := "regex_match",
        value := some (.float (Binary64.ofInt 2)) },
      { id := "d", kind := "custom_variable_seen", operator := "not_exists" }]
    actions := [
      { id := "note", kind := "log_message", parameters := [("message", .text "Seen")] },
      { id := "run", kind := "javascript_code", parameters := [("code", .text "1")] }] }

theorem check_agrees_versions :
    versions.objections = .ok [] ∧ (World.still []).toSurroundings.ScriptsFit ∧
      (∀ condition ∈ versions.conditions,
        condition.Works { email := { id := "m", contentLoaded := true } }) ∧
      ∀ action ∈ versions.actions, ∀ state outer,
        action.Works (World.still []).toSurroundings
          { email := { id := "m", contentLoaded := true } } state outer := by
  have hchecked : versions.objections = .ok [] := rfl
  have hloaded : ({ email := { id := "m", contentLoaded := true } } : Context).email.contentLoaded =
      true := rfl
  have hscripts : (World.still []).toSurroundings.ScriptsFit := by
    intro code context bindings outer problems
    unfold Script.run
    split
    · intro h
      exact nomatch h
    · split
      · intro h
        exact nomatch h
      · intro h
        exact nomatch h
  obtain ⟨hconditions, hactions⟩ := (check_agrees hchecked hloaded).1 rfl
  exact ⟨hchecked, hscripts, hconditions, hactions _ hscripts⟩

end Rule

end MailTriage

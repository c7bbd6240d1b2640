import MailTriage.Proofs.Triage.Course

/-!
# Faults stay with their rule

Conditions, parameters, the host, the engine of scripts, the counters and the log may all fail, and
each of them at any moment. What fails in a rule is told in the report of that rule: a match has a
report on every action, whatever became of the others, and conditions that cannot be evaluated leave
one report of kind `error`. The pass itself always has an outcome, and goes on to the next rule
unless a rule that matched sends the reader to another email.
-/

namespace MailTriage

variable {σ : Type}

/-! ## One rule -/

/-- What a rule comes to in a context: its conditions cannot be evaluated, or do not match, or they
match and every action has its report. -/
inductive RuleReport.Settles (rule : Rule) (context : Context) : RuleReport → Prop
  | failed {failure : ConditionFailure}
      (hconditions : rule.logic.combine context rule.conditions = .error failure) :
      Settles rule context
        { ruleId := rule.id, ruleName := rule.name, matched := false
          actions := [{ actionId := some "error", kind := "error", success := false
                        error := some failure.message }] }
  | unmatched {conditions : List ConditionReport}
      (hconditions : rule.logic.combine context rule.conditions = .ok (false, conditions)) :
      Settles rule context
        { ruleId := rule.id, ruleName := rule.name, matched := false, conditions := conditions }
  | matched {conditions : List ConditionReport} {actions : List ActionReport}
      (hconditions : rule.logic.combine context rule.conditions = .ok (true, conditions))
      (hactions : List.Forall₂ ActionReport.Answers actions rule.actions) :
      Settles rule context
        { ruleId := rule.id, ruleName := rule.name, matched := true, conditions := conditions
          actions := actions }

theorem Rule.execute_settles (world : Surroundings σ) (context : Context) (rule : Rule)
    (state : PassState) (outer : σ) :
    (rule.execute world context state outer).1.Settles rule
      { context with bindings := state.bindings } := by
  unfold Rule.execute
  cases hconditions :
      rule.logic.combine { context with bindings := state.bindings } rule.conditions with
  | error failure => exact .failed hconditions
  | ok result =>
    obtain ⟨matched, conditions⟩ := result
    cases matched with
    | false => exact .unmatched hconditions
    | true => exact .matched hconditions (Action.executeAll_answers rule.actions state outer)

/-! ## The rules of a pass -/

namespace World

variable (world : World σ) (context : Context) (timestamp : Int)

/-- Takes a rule in a state of the pass and of the outside: executes it, and records the firing of a
match. -/
def takeRule (standing : PassState × σ) (rule : Rule) : PassState × σ :=
  let (report, state, outer) := rule.execute world.toSurroundings context standing.1 standing.2
  (state, world.recordIfMatched timestamp report outer)

theorem runRules_cons (rule : Rule) (rest : List Rule) (standing : PassState × σ) :
    (world.runRules context timestamp (rule :: rest) standing.1 standing.2).1 =
      (rule.execute world.toSurroundings context standing.1 standing.2).1 ::
        if (world.takeRule context timestamp standing rule).1.navigation.isSome then []
        else (world.runRules context timestamp rest
          (world.takeRule context timestamp standing rule).1
          (world.takeRule context timestamp standing rule).2).1 := by
  rw [runRules, takeRule]
  dsimp only
  split <;> rfl

theorem settles_of_runRules (before : List CheckedRule) (checked : CheckedRule) {more : List Rule}
    {others : List RuleReport} (standing : PassState × σ)
    (h : (world.runRules context timestamp (before.map Prod.fst ++ checked.1 :: more)
        standing.1 standing.2).1 = before.map Prod.snd ++ checked.2 :: others) :
    checked.2.Settles checked.1
      { context with
        bindings :=
      ((before.map Prod.fst).foldl (world.takeRule context timestamp) standing).1.bindings } := by
  induction before generalizing standing with
  | nil =>
    rw [List.map_nil, List.map_nil, List.nil_append, List.nil_append, runRules_cons] at h
    rw [← (List.cons.inj h).1]
    exact Rule.execute_settles world.toSurroundings context checked.1 standing.1 standing.2
  | cons first before ih =>
    rw [List.map_cons, List.map_cons, List.cons_append, List.cons_append, runRules_cons] at h
    have hrest := (List.cons.inj h).2
    split at hrest
    · simp at hrest
    · exact ih _ hrest

end World

/-! ## The pass -/

/-- A pass of `rules` at a desk in which every fault stayed with its rule. The variables and the
outside are, before the first rule, those of `start`. -/
structure Desk.Contained (world : World σ) (context : Context) (desk : Desk σ)
    (start : PassState × σ) (rules : List Rule) (passEnd : PassEnd) (after : Desk σ)
    (checked : List CheckedRule) (left : List Rule) : Prop where
  runs : Desk.process world context desk = (.ok passEnd, after)
  inOrder : rules = checked.map Prod.fst ++ left
  reports : passEnd.outcome.report.rules = checked.map Prod.snd
  /-- Each rule that was checked settled in the state that the rules before it had left. -/
  settled : ∀ before c rest, checked = before ++ c :: rest →
    c.2.Settles c.1
      { context with
        bindings :=
          ((before.map Prod.fst).foldl (world.takeRule context desk.supply.now) start).1.bindings }
  /-- No rule is left unless one that matched sends the reader to another email. -/
  ends : PassEnds checked left passEnd.outcome.report.navigation

/-- A pass has an outcome whatever the host, the engine of scripts, the counters, the settings and
the log answer. In it every rule that matched has one report for each action, in order, with an
error exactly when the action failed; a rule that did not match has none, or one of kind `error`
when its conditions could not be evaluated; and every rule has its report unless one before it that
matched sends the reader on. -/
theorem Desk.process_contained (world : World σ) (context : Context) (desk : Desk σ)
    {rules : List Rule} {outer : σ} (hrules : world.enabledRules desk.outer = (.ok rules, outer)) :
    ∃ passEnd after checked left,
      Desk.Contained world context desk ({ bindings := context.bindings }, outer)
        rules passEnd after
        checked left := by
  obtain ⟨checked, left, hinOrder, hreports, -, hends⟩ :=
    world.exists_checked_of_runRules context desk.supply.now rules
      { bindings := context.bindings } outer rfl
  let passed := world.pass rules context desk.supply outer
  refine ⟨passed.1, ⟨desk.waiting, passed.2.1, passed.2.2⟩, checked, left,
    { runs := ?_, inOrder := hinOrder, reports := hreports, settled := ?_, ends := hends }⟩
  · simp only [Desk.process, Desk.run, hrules]
    rfl
  · rintro before c rest rfl
    have hrun : (world.runRules context desk.supply.now
        (before.map Prod.fst ++ c.1 :: (rest.map Prod.fst ++ left)) { bindings := context.bindings }
        outer).1 = before.map Prod.snd ++ c.2 :: rest.map Prod.snd := by
      rw [hinOrder] at hreports
      simpa using hreports
    exact world.settles_of_runRules context desk.supply.now before c _ hrun

/-! ## A world where everything fails -/

/-- A world in which the host, the engine of scripts, the counters, the settings and the log all
fail. -/
def World.broken (rules : List Rule) : World Unit where
  perform _ outer := (.error ⟨"RuntimeError", "no host", false⟩, outer)
  evaluate _ outer := (.failed "RuntimeError" "", outer)
  enabledRules outer := (.ok rules, outer)
  recordFire _ _ outer := (.error ⟨"RuntimeError", "no counters", false⟩, outer)
  settings outer := (.error ⟨"RuntimeError", "no settings", false⟩, outer)
  append := some fun _ outer => (.error ⟨"RuntimeError", "no log", false⟩, outer)

/-- A rule whose conditions cannot be evaluated: its bound is past the range of floating numbers. -/
def Rule.beyondRange : Rule :=
  { id := "far", name := "Far", createdAt := 0, lastModified := 0
    conditions :=
      [{ id := "c", kind := "sender_score", operator := "greater_than",
         value := some (.int (10 ^ 400)) }] }

/-- A rule that matches emails without a name of the sender, and does what nobody knows, what lacks
a parameter, what the engine of scripts is asked for and what the host is asked for. -/
def Rule.doomed : Rule :=
  { id := "doomed", name := "Doomed", createdAt := 0, lastModified := 0
    conditions := [{ id := "c", kind := "sender_name", operator := "not_exists" }]
    actions :=
      [{ id := "a", kind := "teleport" }, { id := "b", kind := "add_score" },
       { id := "c", kind := "javascript_code", parameters := [("code", .text "return 1")] },
       { id := "d", kind := "delete_email" }] }

theorem Desk.process_contained_broken :
    (World.broken [.beyondRange, .doomed, .skipNameless]).enabledRules () =
        (.ok [.beyondRange, .doomed, .skipNameless], ()) ∧
      ∃ passEnd after checked left,
        Desk.Contained (World.broken [.beyondRange, .doomed, .skipNameless])
          { email := { id := "m" }, score := some .zero } ⟨[], ⟨0, 0⟩, ()⟩
          ({ bindings := [] }, ()) [.beyondRange, .doomed, .skipNameless] passEnd after
            checked left :=
  ⟨rfl, Desk.process_contained _ _ _ rfl⟩

example :
    ((Desk.process (World.broken [.beyondRange, .doomed, .skipNameless])
      { email := { id := "m" }, score := some .zero } ⟨[], ⟨0, 0⟩, ()⟩).1.toOption.map
        fun passEnd =>
        passEnd.outcome.report.rules.map fun report =>
          (report.matched, report.actions.map ActionReport.success)) =
      some [(false, [false]), (true, [false, false, false, false]), (true, [true, true])] := by
  decide +kernel

end MailTriage

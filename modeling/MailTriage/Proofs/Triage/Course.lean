import MailTriage.Proofs.Action.Direction
import MailTriage.Proofs.Action.Simulation
import MailTriage.Triage.Desk

/-!
# The course of a pass

A pass takes the enabled rules in order and goes on to the next one unless the rule just executed
matched and sends the reader to another email. So the reports answer a prefix of the rules: all of
them, or those up to the first that matched and sends the reader on, whose last direction is then
that of the pass. The state that carries this through the rules is the direction so far, which is
empty before every rule.

The firings of a pass are observed in a world that keeps those it is asked to record. Such a world
cannot be told from the one it was made of.
-/

namespace MailTriage

variable {σ τ : Type}

/-! ## One rule -/

/-- A rule with an action that sends the reader to another email. -/
def Rule.Navigates (rule : Rule) : Prop :=
  ∃ action ∈ rule.actions, action.kind = "goto_next_email" ∨ action.kind = "goto_previous_email"

/-- The direction in which a rule sends the reader once it matches: that of its last action with
one. -/
def Rule.direction? (rule : Rule) : Option Navigation := Action.lastDirection? rule.actions

theorem Rule.direction?_eq_none_iff {rule : Rule} : rule.direction? = none ↔ ¬ rule.Navigates := by
  rw [Rule.direction?, Action.lastDirection?_eq_none_iff, Rule.Navigates]
  push Not
  rfl

/-- A report on a rule: it names the rule, and has a report on every action of a rule that
matched. -/
structure RuleReport.Answers (report : RuleReport) (rule : Rule) : Prop where
  ruleId : report.ruleId = rule.id
  ruleName : report.ruleName = rule.name
  actions : report.matched = true → List.Forall₂ ActionReport.Answers report.actions rule.actions

section Rule

variable (world : Surroundings σ) (context : Context) (rule : Rule) (state : PassState) (outer : σ)

theorem Rule.execute_answers : (rule.execute world context state outer).1.Answers rule := by
  unfold Rule.execute
  split
  · exact ⟨rfl, rfl, by simp [Rule.failed]⟩
  · exact ⟨rfl, rfl, by simp⟩
  · exact ⟨rfl, rfl, fun _ => Action.executeAll_answers rule.actions state outer⟩

/-- A rule that does not match leaves the direction alone; one that matches overrides it with its
own. -/
theorem Rule.execute_navigation :
    (rule.execute world context state outer).2.1.navigation =
      if (rule.execute world context state outer).1.matched then
        rule.direction?.or state.navigation
      else state.navigation := by
  unfold Rule.execute
  split
  · rfl
  · rfl
  · exact Action.executeAll_navigation rule.actions state outer

end Rule

theorem Surroundings.Mirrors.executeRule {R : σ → τ → Prop} {world : Surroundings σ}
    {image : Surroundings τ} (h : Surroundings.Mirrors R world image) {s : σ} {t : τ} (hs : R s t)
    (rule : Rule) (context : Context) (state : PassState) :
    Alike (Alike R) (rule.execute world context state s) (rule.execute image context state t) := by
  unfold Rule.execute
  cases rule.logic.combine { context with bindings := state.bindings } rule.conditions with
  | error failure => exact ⟨rfl, rfl, hs⟩
  | ok result =>
    obtain ⟨matched, reports⟩ := result
    cases matched with
    | false => exact ⟨rfl, rfl, hs⟩
    | true =>
      obtain ⟨actions, x, y, hx, hy, hxy⟩ := (h.executeAll hs rule.actions context state).exists_eq
      dsimp only
      rw [hx, hy]
      exact ⟨rfl, hxy⟩

/-! ## The rules that are checked -/

abbrev CheckedRule := Rule × RuleReport

/-- A checked rule after which a pass does not go on. -/
def CheckedRule.Halts (checked : CheckedRule) : Prop :=
  checked.2.matched = true ∧ checked.1.Navigates

/-- Where a pass ends: after the last rule, when none of those checked halts it, and otherwise after
the first that does, whose direction it takes. -/
inductive PassEnds (checked : List CheckedRule) (left : List Rule) : Option Navigation → Prop
  | finished (hleft : left = []) (hgo : ∀ c ∈ checked, ¬ CheckedRule.Halts c) :
      PassEnds checked left none
  | halted (before : List CheckedRule) (last : CheckedRule) (hlast : checked = before ++ [last])
      (hgo : ∀ c ∈ before, ¬ CheckedRule.Halts c) (hhalt : CheckedRule.Halts last) :
      PassEnds checked left last.1.direction?

theorem PassEnds.cons {first : CheckedRule} {checked : List CheckedRule} {left : List Rule}
    {navigation : Option Navigation} (hfirst : ¬ first.Halts)
    (h : PassEnds checked left navigation) :
    PassEnds (first :: checked) left navigation := by
  have hgo {cs : List CheckedRule} (hcs : ∀ c ∈ cs, ¬ CheckedRule.Halts c) :
      ∀ c ∈ first :: cs, ¬ CheckedRule.Halts c := by
    intro c hc
    rcases List.mem_cons.mp hc with rfl | hc
    · exact hfirst
    · exact hcs c hc
  cases h with
  | finished hleft hcs => exact .finished hleft (hgo hcs)
  | halted before last hlast hcs hhalt =>
    exact .halted (first :: before) last (by rw [hlast]; rfl) (hgo hcs) hhalt

/-- The rules that were checked are a prefix of those given, each with its report. -/
theorem World.exists_checked_of_runRules (world : World σ) (context : Context) (timestamp : Int)
    (rules : List Rule) (state : PassState) (outer : σ) (h : state.navigation = none) :
    ∃ (checked : List CheckedRule) (left : List Rule),
      rules = checked.map Prod.fst ++ left ∧
      (world.runRules context timestamp rules state outer).1 = checked.map Prod.snd ∧
      (∀ c ∈ checked, c.2.Answers c.1) ∧
      PassEnds checked left
        (world.runRules context timestamp rules state outer).2.1.navigation := by
  induction rules generalizing state outer with
  | nil =>
    exact ⟨[], [], rfl, rfl, by simp, by rw [World.runRules, h]; exact .finished rfl (by simp)⟩
  | cons rule rest ih =>
    have hanswers := Rule.execute_answers world.toSurroundings context rule state outer
    have hnavigation := Rule.execute_navigation world.toSurroundings context rule state outer
    rw [h, Option.or_none] at hnavigation
    rw [World.runRules]
    generalize rule.execute world.toSurroundings context state outer = executed at *
    obtain ⟨report, state', outer'⟩ := executed
    dsimp only at hanswers hnavigation ⊢
    by_cases hhalts : CheckedRule.Halts (rule, report)
    · -- the rule matched and sends the reader on
      obtain ⟨hmatched, hnavigates⟩ := hhalts
      dsimp only at hmatched hnavigates
      have hsome : rule.direction?.isSome := by
        rw [← Option.ne_none_iff_isSome]
        exact fun hnone => Rule.direction?_eq_none_iff.mp hnone hnavigates
      rw [if_pos hmatched] at hnavigation
      rw [if_pos (by rw [hnavigation]; exact hsome)]
      refine ⟨[(rule, report)], rest, rfl, rfl, by simpa using hanswers, ?_⟩
      dsimp only
      rw [hnavigation]
      exact .halted [] (rule, report) rfl (by simp) ⟨hmatched, hnavigates⟩
    · -- the direction is still empty, and the pass goes on
      have hnone : state'.navigation = none := by
        rw [hnavigation]
        split
        · next hmatched => exact Rule.direction?_eq_none_iff.mpr fun hn => hhalts ⟨hmatched, hn⟩
        · rfl
      rw [if_neg (by rw [hnone]; simp)]
      obtain ⟨checked, left, hrules, hreports, hchecked, hends⟩ :=
        ih state' (world.recordIfMatched timestamp report outer') hnone
      refine ⟨(rule, report) :: checked, left, by rw [hrules]; rfl, ?_, ?_, hends.cons hhalts⟩
      · exact congrArg (report :: ·) hreports
      · intro c hc
        rcases List.mem_cons.mp hc with rfl | hc
        · exact hanswers
        · exact hchecked c hc

/-! ## The firings -/

/-- Firings that were to be recorded, each with the identifier of the rule and the time, in
order. -/
abbrev Firings := List (String × Int)

namespace World

def besideFirings {α : Type} (step : σ → α × σ) (outer : σ × Firings) : α × (σ × Firings) :=
  ((step outer.1).1, ((step outer.1).2, outer.2))

/-- The same world, keeping the firings that it is asked to record, whether or not it can record
them. -/
def keepingFirings (world : World σ) : World (σ × Firings) where
  perform request := besideFirings (world.perform request)
  evaluate run := besideFirings (world.evaluate run)
  enabledRules := besideFirings world.enabledRules
  recordFire ruleId timestamp outer :=
    besideFirings (world.recordFire ruleId timestamp) (outer.1, outer.2 ++ [(ruleId, timestamp)])
  settings := besideFirings world.settings
  append := world.append.map fun append entry => besideFirings (append entry)

def firings (timestamp : Int) (reports : List RuleReport) : Firings :=
  (reports.filter RuleReport.matched).map fun report => (report.ruleId, timestamp)

variable (world : World σ)

theorem mirrors_keepingFirings (fired : Firings) :
    Surroundings.Mirrors (fun outer kept => kept = (outer, fired)) world.toSurroundings
      world.keepingFirings.toSurroundings where
  perform := by rintro s _ rfl request; exact ⟨rfl, rfl⟩
  evaluate := by rintro s _ rfl run; exact ⟨rfl, rfl⟩

theorem recordIfMatched_keepingFirings (timestamp : Int) (report : RuleReport) (outer : σ)
    (fired : Firings) :
    world.keepingFirings.recordIfMatched timestamp report (outer, fired) =
      (world.recordIfMatched timestamp report outer, fired ++ firings timestamp [report]) := by
  unfold recordIfMatched firings
  cases h : report.matched <;> simp [h, keepingFirings, besideFirings]

theorem firings_cons (timestamp : Int) (report : RuleReport) (reports : List RuleReport) :
    firings timestamp (report :: reports) =
      firings timestamp [report] ++ firings timestamp reports := by
  unfold firings
  cases h : report.matched <;> simp [h]

/-- A pass asks for the firings of the rules that matched, in their order, and for no others. -/
theorem runRules_keepingFirings (context : Context) (timestamp : Int) (rules : List Rule)
    (state : PassState) (outer : σ) (fired : Firings) :
    world.keepingFirings.runRules context timestamp rules state (outer, fired) =
      ((world.runRules context timestamp rules state outer).1,
        (world.runRules context timestamp rules state outer).2.1,
        ((world.runRules context timestamp rules state outer).2.2,
          fired ++ firings timestamp (world.runRules context timestamp rules state outer).1)) := by
  induction rules generalizing state outer fired with
  | nil => simp [runRules, firings]
  | cons rule rest ih =>
    obtain ⟨report, x, y, hx, hy, hxy⟩ :=
      ((world.mirrors_keepingFirings fired).executeRule rfl rule context state).exists_eq
    obtain ⟨state', outer', _, rfl, rfl, rfl⟩ := hxy.exists_eq
    rw [runRules, runRules, hx, hy]
    dsimp only
    rw [recordIfMatched_keepingFirings]
    split
    · rfl
    · rw [ih]
      dsimp only
      rw [List.append_assoc, ← firings_cons]

theorem firings_of_answers (timestamp : Int) {checked : List CheckedRule}
    (h : ∀ c ∈ checked, c.2.Answers c.1) :
    firings timestamp (checked.map Prod.snd) =
      (checked.filter (·.2.matched)).map fun c => (c.1.id, timestamp) := by
  rw [firings, List.filter_map, List.map_map]
  refine List.map_congr_left fun c hc => ?_
  rw [Function.comp_apply, (h c (List.mem_filter.mp hc).1).ruleId]

theorem publish_keepingFirings (entry : LogEntry) (outer : σ) (fired : Firings) :
    world.keepingFirings.publish entry (outer, fired) = (world.publish entry outer, fired) := by
  unfold publish
  cases happend : world.append with
  | none => simp [keepingFirings, happend]
  | some append =>
    simp only [keepingFirings, happend, Option.map_some, besideFirings]
    obtain ⟨settings, outer'⟩ := world.settings outer
    cases settings with
    | error trouble => rfl
    | ok settings =>
      dsimp only
      split <;> rfl

theorem pass_keepingFirings (rules : List Rule) (context : Context) (supply : Supply) (outer : σ)
    (fired : Firings) :
    world.keepingFirings.pass rules context supply (outer, fired) =
      ((world.pass rules context supply outer).1, (world.pass rules context supply outer).2.1,
        ((world.pass rules context supply outer).2.2,
          fired ++
            firings supply.now
              (world.pass rules context supply outer).1.outcome.report.rules)) := by
  unfold pass
  rw [runRules_keepingFirings]
  dsimp only
  rw [publish_keepingFirings]
  rfl

end World

/-! ## The course of a pass -/

/-- How a pass of `rules` at a desk went: the rules that were checked, each with its report, and
those left. -/
structure Desk.Course (world : World σ) (context : Context) (desk : Desk σ) (rules : List Rule)
    (passEnd : PassEnd) (after : Desk σ) (entry : LogEntry) (checked : List CheckedRule)
    (left : List Rule) : Prop where
  runs : Desk.process world context desk = (.ok passEnd, after)
  logged : passEnd.outcome.entry = some entry
  inOrder : rules = checked.map Prod.fst ++ left
  reports : passEnd.outcome.report.rules = checked.map Prod.snd
  answers : ∀ c ∈ checked, c.2.Answers c.1
  ends : PassEnds checked left passEnd.outcome.report.navigation
  rulesChecked : passEnd.outcome.report.rulesChecked = checked.length
  rulesFired : passEnd.outcome.report.rulesFired = (checked.filter (·.2.matched)).length
  /-- The firings asked for are those of the rules that matched, at the time of the log entry. -/
  fired : Desk.process world.keepingFirings context ⟨desk.waiting, desk.supply, (desk.outer, [])⟩ =
    (.ok passEnd, ⟨after.waiting, after.supply, (after.outer,
      (checked.filter (·.2.matched)).map fun c => (c.1.id, entry.timestamp))⟩)

/-- The reports of a pass answer, one by one and in order, the enabled rules up to the first that
matched and sends the reader on, or all of them; the pass takes the last direction of that rule,
counts what was checked and what matched, and asks for the firing of every rule that matched, once,
in order, at the time of its log entry. -/
theorem Desk.process_course (world : World σ) (context : Context) (desk : Desk σ)
    {rules : List Rule} {outer : σ} (hrules : world.enabledRules desk.outer = (.ok rules, outer)) :
    ∃ passEnd after entry checked left,
      Desk.Course world context desk rules passEnd after entry checked left := by
  obtain ⟨checked, left, hinOrder, hreports, hanswers, hends⟩ :=
    world.exists_checked_of_runRules context desk.supply.now rules
      { bindings := context.bindings } outer rfl
  have hkept : world.keepingFirings.enabledRules (desk.outer, []) = (.ok rules, (outer, [])) := by
    simp [World.keepingFirings, World.besideFirings, hrules]
  let passed := world.pass rules context desk.supply outer
  refine ⟨passed.1, ⟨desk.waiting, passed.2.1, passed.2.2⟩, _, checked, left,
    { runs := ?_, logged := rfl, inOrder := hinOrder, reports := hreports, answers := hanswers
      ends := hends, rulesChecked := ?_, rulesFired := ?_, fired := ?_ }⟩
  · simp only [Desk.process, Desk.run, hrules]
    rfl
  · change ((world.runRules _ _ _ _ _).1.length : Int) = _
    rw [hreports, List.length_map]
  · change (((world.runRules _ _ _ _ _).1.filter RuleReport.matched).length : Int) = _
    rw [hreports, List.filter_map, List.length_map]
    rfl
  · simp only [Desk.process, Desk.run, hkept, World.pass_keepingFirings]
    rw [List.nil_append, show passed.1.outcome.report.rules = checked.map Prod.snd from hreports,
      World.firings_of_answers desk.supply.now hanswers]
    rfl

/-- A world in which nothing happens: the host and the engine of scripts do nothing, and the enabled
rules stay as they are. -/
def World.still (rules : List Rule) : World Unit where
  perform _ outer := (.ok .null, outer)
  evaluate _ outer := (.thrown "", outer)
  enabledRules outer := (.ok rules, outer)
  recordFire _ _ outer := (.ok (), outer)
  settings outer := (.ok {}, outer)

/-- A rule that matches emails without a name of the sender, and sends the reader back and then
on. -/
def Rule.skipNameless : Rule :=
  { id := "skip", name := "Skip", createdAt := 0, lastModified := 0
    conditions := [{ id := "c", kind := "sender_name", operator := "not_exists" }]
    actions :=
      [{ id := "back", kind := "goto_previous_email" }, { id := "on", kind := "goto_next_email" }] }

theorem Desk.process_course_skipNameless :
    (World.still [Rule.skipNameless, Rule.skipNameless]).enabledRules () =
        (.ok [Rule.skipNameless, Rule.skipNameless], ()) ∧
      ∃ passEnd after entry checked left,
        Desk.Course (World.still [Rule.skipNameless, Rule.skipNameless]) { email := { id := "m" } }
          ⟨[], ⟨0, 0⟩, ()⟩ [Rule.skipNameless, Rule.skipNameless] passEnd after entry
            checked left :=
  ⟨rfl, Desk.process_course _ _ _ rfl⟩

example :
    ((Desk.process (World.still [Rule.skipNameless, Rule.skipNameless]) { email := { id := "m" } }
      ⟨[], ⟨0, 0⟩, ()⟩).1.toOption.map fun passEnd =>
        (passEnd.outcome.report.navigation, passEnd.outcome.report.rulesChecked)) =
      some (some .next, 1) := by
  decide

end MailTriage

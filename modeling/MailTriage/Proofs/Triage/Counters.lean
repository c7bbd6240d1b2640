import MailTriage.Proofs.Triage.Deferral
import MailTriage.Proofs.Triage.Memory

/-!
# Exact counters

However a desk with rules in memory is called, and whatever the clock shows, a rule has fired in the
end once for every pass in which its report says that it matched, and keeps the time of the last of
these passes. Nothing else about a rule changes, and a call that runs no pass changes no rule. What
carries this over a run of calls is that a call changes the rules one by one, by its own time or not
at all, and leaves their identifiers distinct.
-/

namespace MailTriage

variable {σ : Type}

/-! ## One pass -/

def PassOutcome.matches (ruleId : String) (outcome : PassOutcome) : Bool :=
  outcome.report.rules.any fun report => report.ruleId = ruleId && report.matched

def Served.timesOf (ruleId : String) (calls : List Served) : List Int :=
  (calls.filter fun served => served.passed?.any (PassOutcome.matches ruleId)).map Served.time

theorem Served.timesOf_cons (ruleId : String) (first : Served) (rest : List Served) :
    Served.timesOf ruleId (first :: rest) = Served.timesOf ruleId [first] ++
      Served.timesOf ruleId rest := by
  unfold Served.timesOf
  rw [← List.map_append, ← List.filter_append, List.singleton_append]

/-- Reports that name each rule at most once fire a rule at most once. -/
theorem Firings.timesOf_firings {reports : List RuleReport}
    (h : (reports.map RuleReport.ruleId).Nodup) (ruleId : String) (timestamp : Int) :
    Firings.timesOf ruleId (World.firings timestamp reports) =
      if reports.any fun report => report.ruleId = ruleId && report.matched then [timestamp]
        else [] := by
  induction reports with
  | nil => rfl
  | cons report rest ih =>
    rw [List.map_cons, List.nodup_cons] at h
    rw [World.firings_cons, Firings.timesOf, List.filter_append, List.map_append]
    change Firings.timesOf ruleId _ ++ Firings.timesOf ruleId _ = _
    rw [ih h.2, List.any_cons]
    by_cases hid : report.ruleId = ruleId
    · -- no later report names this rule
      have hrest : (rest.any fun other => other.ruleId = ruleId && other.matched) = false := by
        rw [List.any_eq_false]
        intro other hother
        have hne : other.ruleId ≠ ruleId := fun he =>
          h.1 (hid.trans he.symm ▸ List.mem_map_of_mem hother)
        simp [hne]
      rw [hrest]
      cases hmatched : report.matched <;> simp [World.firings, Firings.timesOf, hid, hmatched]
    · cases hmatched : report.matched <;> simp [World.firings, Firings.timesOf, hid, hmatched]

theorem World.nodup_ruleIds_of_pass (world : World σ) {rules : List Rule}
    (h : (rules.map Rule.id).Nodup) (context : Context) (supply : Supply) (outer : σ) :
    ((world.pass rules context supply outer).1.outcome.report.rules.map
      RuleReport.ruleId).Nodup := by
  obtain ⟨checked, left, hrules, hreports, hanswers, -⟩ :=
    world.exists_checked_of_runRules context supply.now rules
      { bindings := context.bindings } outer rfl
  change ((world.runRules context supply.now rules { bindings := context.bindings } outer).1.map
    RuleReport.ruleId).Nodup
  rw [hrules, List.map_append, List.nodup_append] at h
  have hids : (checked.map Prod.snd).map RuleReport.ruleId =
      (checked.map Prod.fst).map Rule.id := by
    rw [List.map_map, List.map_map]
    exact List.map_congr_left fun c hc => (hanswers c hc).ruleId
  rw [hreports, hids]
  exact h.1

/-! ## One call -/

namespace Desk

variable (surroundings : Surroundings σ) (append : Option (LogEntry → σ → Except Trouble Unit × σ))

/-- A call changes the rules one by one: those that matched in its pass have fired at its time. -/
theorem serveAt_list (time : Int) (call : Call) {desk : Desk (σ × RuleList)}
    (h : (desk.outer.2.rules.map Rule.id).Nodup) :
    (serveAt (.inMemory surroundings append) time call desk).2.outer.2 =
      desk.outer.2.firedAt fun ruleId =>
        Served.timesOf ruleId [(serveAt (.inMemory surroundings append) time call desk).1] := by
  obtain ⟨hanswer, houter⟩ | ⟨context, hanswer, houter⟩ :=
    serve_cases surroundings append call (desk.setClock time)
  · have hnone : (serveAt (.inMemory surroundings append) time call desk).1.passed? = none := by
      unfold Served.passed? serveAt
      dsimp only
      split
      · next outcome hok => rw [if_pos (hanswer outcome hok)]
      · rfl
    rw [RuleList.firedAt_nil fun ruleId => by simp [Served.timesOf, hnone]]
    exact congrArg Prod.snd houter
  · have hpassed : (serveAt (.inMemory surroundings append) time call desk).1.passed? = some
        ((World.inMemory surroundings append).pass desk.outer.2.enabled context
          (desk.setClock time).supply
          desk.outer).1.outcome := by
      unfold Served.passed? serveAt
      dsimp only
      rw [hanswer]
      rfl
    have henabled : (desk.outer.2.enabled.map Rule.id).Nodup :=
      h.sublist (List.filter_sublist.map Rule.id)
    have hids := World.nodup_ruleIds_of_pass (World.inMemory surroundings append) henabled context
      (desk.setClock time).supply desk.outer
    have hlist := congrArg Prod.snd houter
    rw [World.pass_inMemory, setClock_outer, RuleList.recordAll_eq h] at hlist
    refine hlist.trans (congrArg (RuleList.firedAt · desk.outer.2) (funext fun ruleId => ?_))
    rw [Firings.timesOf_firings hids, setClock_now, Served.timesOf, List.filter_singleton, hpassed,
      Option.any_some, PassOutcome.matches]
    cases List.any _ _ <;> rfl

theorem serveAt_nodup (time : Int) (call : Call) {desk : Desk (σ × RuleList)}
    (h : (desk.outer.2.rules.map Rule.id).Nodup) :
    ((serveAt (.inMemory surroundings append) time call desk).2.outer.2.rules.map
      Rule.id).Nodup := by
  rwa [serveAt_list surroundings append time call h, RuleList.firedAt_ids]

theorem serveAt_stamped (time : Int) (call : Call) (desk : Desk (σ × RuleList))
    {outcome : PassOutcome}
    (h : (serveAt (.inMemory surroundings append) time call desk).1.passed? = some outcome) :
    outcome.entry.map LogEntry.timestamp = some time := by
  unfold Served.passed? serveAt at h
  dsimp only at h
  obtain ⟨hanswer, -⟩ | ⟨context, hanswer, -⟩ :=
    serve_cases surroundings append call (desk.setClock time)
  · split at h
    · next other hok => simp [hanswer other hok] at h
    · exact nomatch h
  · rw [hanswer] at h
    obtain rfl := Option.some.inj h
    rfl

/-! ## Runs of calls -/

theorem serveAll_nodup (calls : List (Int × Call)) {desk : Desk (σ × RuleList)}
    (h : (desk.outer.2.rules.map Rule.id).Nodup) :
    ((serveAll (.inMemory surroundings append) calls desk).2.outer.2.rules.map Rule.id).Nodup := by
  induction calls generalizing desk with
  | nil => exact h
  | cons call rest ih => exact ih (serveAt_nodup surroundings append call.1 call.2 h)

theorem serveAll_list (calls : List (Int × Call)) {desk : Desk (σ × RuleList)}
    (h : (desk.outer.2.rules.map Rule.id).Nodup) :
    (serveAll (.inMemory surroundings append) calls desk).2.outer.2 =
      desk.outer.2.firedAt fun ruleId =>
        Served.timesOf ruleId (serveAll (.inMemory surroundings append) calls desk).1 := by
  induction calls generalizing desk with
  | nil => exact (RuleList.firedAt_nil (fun _ => rfl) desk.outer.2).symm
  | cons call rest ih =>
    obtain ⟨time, call⟩ := call
    rw [serveAll]
    dsimp only
    rw [ih (serveAt_nodup surroundings append time call h),
      serveAt_list surroundings append time call h, RuleList.firedAt_firedAt]
    simp only [← Served.timesOf_cons]

theorem serveAll_concat (world : World σ) (calls : List (Int × Call)) (time : Int) (call : Call)
    (desk : Desk σ) :
    (serveAll world (calls ++ [(time, call)]) desk).2 =
      (serveAt world time call (serveAll world calls desk).2).2 := by
  induction calls generalizing desk with
  | nil => rfl
  | cons first rest ih => exact ih _

theorem serveAll_stamped (calls : List (Int × Call)) (desk : Desk (σ × RuleList)) :
    ∀ served ∈ (serveAll (.inMemory surroundings append) calls desk).1, ∀ outcome,
      served.passed? = some outcome → outcome.entry.map LogEntry.timestamp = some served.time := by
  induction calls generalizing desk with
  | nil => simp [serveAll]
  | cons call rest ih =>
    intro served hserved outcome houtcome
    rcases List.mem_cons.mp hserved with rfl | hserved
    · exact serveAt_stamped surroundings append call.1 call.2 desk houtcome
    · exact ih _ served hserved outcome houtcome

/-- How the counters stand after calls at a desk. -/
structure CountsExactly (world : World (σ × RuleList)) (calls : List (Int × Call))
    (desk : Desk (σ × RuleList)) : Prop where
  /-- A rule has fired once for each pass in which it matched, last at the time of the last of
  these. -/
  counted : (serveAll world calls desk).2.outer.2 =
    desk.outer.2.firedAt fun ruleId => Served.timesOf ruleId (serveAll world calls desk).1
  stamped : ∀ served ∈ (serveAll world calls desk).1, ∀ outcome,
    served.passed? = some outcome → outcome.entry.map LogEntry.timestamp = some served.time
  /-- A call that runs no pass changes no rule. -/
  idle : ∀ before time call rest, calls = before ++ (time, call) :: rest →
    (serveAt world time call (serveAll world before desk).2).1.passed? = none →
    (serveAll world (before ++ [(time, call)]) desk).2.outer.2 =
      (serveAll world before desk).2.outer.2

/-- After any calls, at any readings of the clock, every rule of a list with distinct identifiers
has fired once more for each pass in which it matched, keeps the time of the last of these passes if
there is one, and is otherwise as it was; passes that are put off, and calls that run none, change
no rule. -/
theorem serveAll_countsExactly (calls : List (Int × Call)) (desk : Desk (σ × RuleList))
    (h : (desk.outer.2.rules.map Rule.id).Nodup) :
    CountsExactly (.inMemory surroundings append) calls desk := by
  refine ⟨serveAll_list surroundings append calls h,
    serveAll_stamped surroundings append calls desk, ?_⟩
  intro before time call rest _ hnone
  rw [serveAll_concat, serveAt_list surroundings append time call
    (serveAll_nodup surroundings append before h)]
  exact RuleList.firedAt_nil (fun ruleId => by simp [Served.timesOf, hnone]) _

/-- A desk with a rule about texts and a rule about nameless senders. -/
def overTwoRules : Desk (Unit × RuleList) :=
  ⟨[], ⟨0, 0⟩, ((), { rules := [.texted, .skipNameless] })⟩

/-- Calls that put a pass off, run another one, take the first up again at an earlier reading of the
clock, and then give up what no longer waits. -/
def aroundOnePass : List (Int × Call) :=
  [(5, .email { id := "m", contentLoaded := false } none (some [{ url := "https://example.com" }])),
   (9, .context { email := { id := "n" } }), (7, .loaded "m" "See you soon" none), (8, .clear "m")]

theorem serveAll_countsExactly_aroundOnePass :
    (overTwoRules.outer.2.rules.map Rule.id).Nodup ∧
      CountsExactly (.inMemory (World.still []).toSurroundings none) aroundOnePass overTwoRules :=
  ⟨by decide, serveAll_countsExactly _ none aroundOnePass overTwoRules (by decide)⟩

example :
    (serveAll (.inMemory (World.still []).toSurroundings none) aroundOnePass
        overTwoRules).2.outer.2.rules.map (fun rule => (rule.executionCount, rule.lastExecuted)) =
      [(1, some 7), (2, some 7)] := by
  decide +kernel

end Desk

end MailTriage

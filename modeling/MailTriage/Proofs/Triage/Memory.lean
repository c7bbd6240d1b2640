import MailTriage.Proofs.Triage.Course
import MailTriage.Triage.RuleList

/-!
# Rules in memory

When the rules are kept in memory, the host, the engine of scripts and the log do not reach them: a
pass changes them by the firings that it records, and by nothing else. Several firings change a list
of rules with distinct identifiers rule by rule: each counts its own, and keeps the time of the last
one.

The desk is asked to run passes, to run those that were put off, and to give them up, in any order
and with any readings of the clock. Each call runs one pass of the enabled rules or leaves the
outside as it was.
-/

namespace MailTriage

variable {σ : Type}

/-! ## Firings in a list of rules -/

def Firings.timesOf (ruleId : String) (firings : Firings) : List Int :=
  (firings.filter fun firing => firing.1 = ruleId).map Prod.snd

def Rule.firedAt (times : List Int) (rule : Rule) : Rule :=
  { rule with
    executionCount := rule.executionCount + times.length
    lastExecuted := times.getLast?.or rule.lastExecuted }

namespace Rule

@[simp] theorem firedAt_nil (rule : Rule) : rule.firedAt [] = rule := rfl

@[simp] theorem firedAt_id (times : List Int) (rule : Rule) : (rule.firedAt times).id = rule.id :=
  rfl

@[simp] theorem firedAt_enabled (times : List Int) (rule : Rule) :
    (rule.firedAt times).enabled = rule.enabled := rfl

theorem fire_eq_firedAt (timestamp : Int) (rule : Rule) :
    rule.fire timestamp = rule.firedAt [timestamp] :=
  rfl

theorem firedAt_firedAt (earlier later : List Int) (rule : Rule) :
    (rule.firedAt earlier).firedAt later = rule.firedAt (earlier ++ later) := by
  simp only [firedAt, List.length_append, List.getLast?_append, Option.or_assoc, Nat.add_assoc]

theorem fireIn?_getD {rules : List Rule} (h : (rules.map Rule.id).Nodup) (ruleId : String)
    (timestamp : Int) :
    (fireIn? ruleId timestamp rules).getD rules =
      rules.map fun rule => rule.firedAt (Firings.timesOf rule.id [(ruleId, timestamp)]) := by
  induction rules with
  | nil => rfl
  | cons rule rest ih =>
    rw [List.map_cons, List.nodup_cons] at h
    rw [fireIn?, List.map_cons]
    by_cases hid : rule.id = ruleId
    · subst hid
      have hothers :
          rest.map (fun other => other.firedAt (Firings.timesOf other.id [(rule.id, timestamp)])) =
          rest := by
        refine (List.map_congr_left fun other hother => ?_).trans (List.map_id rest)
        have hne : rule.id ≠ other.id := fun he => h.1 (he ▸ List.mem_map_of_mem hother)
        simp [Firings.timesOf, hne]
      rw [if_pos rfl, hothers, fire_eq_firedAt]
      simp [Firings.timesOf]
    · rw [if_neg hid, ← ih h.2]
      have hself : Firings.timesOf rule.id [(ruleId, timestamp)] = [] := by
        simp [Firings.timesOf, Ne.symm hid]
      rw [hself, firedAt_nil]
      cases fireIn? ruleId timestamp rest <;> rfl

end Rule

namespace RuleList

def firedAt (times : String → List Int) (list : RuleList) : RuleList :=
  { list with rules := list.rules.map fun rule => rule.firedAt (times rule.id) }

theorem firedAt_nil {times : String → List Int} (h : ∀ ruleId, times ruleId = [])
    (list : RuleList) :
    list.firedAt times = list := by
  simp [firedAt, h]

@[simp] theorem firedAt_ids (times : String → List Int) (list : RuleList) :
    (list.firedAt times).rules.map Rule.id = list.rules.map Rule.id := by
  simp [firedAt, Function.comp_def]

theorem firedAt_firedAt (earlier later : String → List Int) (list : RuleList) :
    (list.firedAt earlier).firedAt later = list.firedAt fun ruleId => earlier ruleId ++
      later ruleId := by
  simp [firedAt, Function.comp_def, Rule.firedAt_firedAt]

theorem recordFire_snd {list : RuleList} (h : (list.rules.map Rule.id).Nodup) (ruleId : String)
    (timestamp : Int) :
    (list.recordFire ruleId timestamp).2 =
      list.firedAt fun other => Firings.timesOf other [(ruleId, timestamp)] := by
  rw [firedAt, ← Rule.fireIn?_getD h]
  unfold recordFire
  cases Rule.fireIn? ruleId timestamp list.rules <;> rfl

def recordAll (firings : Firings) (list : RuleList) : RuleList :=
  firings.foldl (fun list firing => (list.recordFire firing.1 firing.2).2) list

theorem recordAll_append (earlier later : Firings) (list : RuleList) :
    list.recordAll (earlier ++ later) = (list.recordAll earlier).recordAll later :=
  List.foldl_append

theorem recordAll_eq {list : RuleList} (h : (list.rules.map Rule.id).Nodup) (firings : Firings) :
    list.recordAll firings = list.firedAt fun ruleId => firings.timesOf ruleId := by
  induction firings generalizing list with
  | nil => exact (firedAt_nil (fun _ => rfl) list).symm
  | cons firing rest ih =>
    have hids : (((list.recordFire firing.1 firing.2).2).rules.map Rule.id).Nodup := by
      rwa [recordFire_snd h, firedAt_ids]
    rw [show list.recordAll (firing :: rest) =
      (list.recordFire firing.1 firing.2).2.recordAll rest from rfl,
      ih hids, recordFire_snd h, firedAt_firedAt]
    congr 1
    funext ruleId
    rw [Firings.timesOf, Firings.timesOf, Firings.timesOf, ← List.map_append, ← List.filter_append,
      List.singleton_append]

end RuleList

/-! ## Passes over rules in memory -/

namespace World

/-- A world with rules in memory beside an outside with a host, an engine of scripts and perhaps a
log. -/
def inMemory (surroundings : Surroundings σ)
    (append : Option (LogEntry → σ → Except Trouble Unit × σ)) :
    World (σ × RuleList) where
  perform request outer :=
    let (reply, inner) := surroundings.perform request outer.1
    (reply, (inner, outer.2))
  evaluate run outer :=
    let (reply, inner) := surroundings.evaluate run outer.1
    (reply, (inner, outer.2))
  enabledRules outer := (.ok outer.2.enabled, outer)
  recordFire ruleId timestamp outer :=
    let (result, list) := outer.2.recordFire ruleId timestamp
    (result, (outer.1, list))
  settings outer := (.ok outer.2.settings, outer)
  append := append.map fun append entry outer =>
    let (result, inner) := append entry outer.1
    (result, (inner, outer.2))

variable (surroundings : Surroundings σ) (append : Option (LogEntry → σ → Except Trouble Unit × σ))

theorem mirrors_inMemory (list : RuleList) :
    Surroundings.Mirrors (fun inner outer => outer = (inner, list)) surroundings
      (inMemory surroundings append).toSurroundings where
  perform := by rintro s _ rfl request; exact ⟨rfl, rfl⟩
  evaluate := by rintro s _ rfl run; exact ⟨rfl, rfl⟩

theorem execute_inMemory (context : Context) (rule : Rule) (state : PassState)
    (outer : σ × RuleList) :
    (rule.execute (inMemory surroundings append).toSurroundings context state outer).2.2.2 =
      outer.2 := by
  have hself : outer = (outer.1, outer.2) := rfl
  obtain ⟨report, x, y, -, hy, hxy⟩ :=
    ((mirrors_inMemory surroundings append outer.2).executeRule hself rule context state).exists_eq
  obtain ⟨state', inner, outer', rfl, rfl, hlist⟩ := hxy.exists_eq
  rw [hy, hlist]

theorem recordIfMatched_inMemory (timestamp : Int) (report : RuleReport) (outer : σ × RuleList) :
    ((inMemory surroundings append).recordIfMatched timestamp report outer).2 =
      outer.2.recordAll (firings timestamp [report]) := by
  unfold recordIfMatched firings
  cases h : report.matched <;> simp [h, inMemory, RuleList.recordAll]

theorem runRules_inMemory (context : Context) (timestamp : Int) (rules : List Rule)
    (state : PassState) (outer : σ × RuleList) :
    ((inMemory surroundings append).runRules context timestamp rules state outer).2.2.2 =
      outer.2.recordAll
        (firings timestamp
          ((inMemory surroundings append).runRules context timestamp rules state outer).1) := by
  -- each rule records its own firing before the next is checked
  induction rules generalizing state outer with
  | nil => rfl
  | cons rule rest ih =>
    have hexecute := execute_inMemory surroundings append context rule state outer
    rw [runRules]
    generalize rule.execute (inMemory surroundings append).toSurroundings context state outer =
      executed at *
    obtain ⟨report, state', outer'⟩ := executed
    dsimp only at hexecute ⊢
    have hrecord := recordIfMatched_inMemory surroundings append timestamp report outer'
    rw [hexecute] at hrecord
    split
    · exact hrecord
    · dsimp only
      rw [ih, hrecord, ← RuleList.recordAll_append, ← firings_cons]

theorem publish_inMemory (entry : LogEntry) (outer : σ × RuleList) :
    ((inMemory surroundings append).publish entry outer).2 = outer.2 := by
  unfold publish
  cases append with
  | none => rfl
  | some append =>
    simp only [inMemory, Option.map_some]
    split <;> rfl

theorem pass_inMemory (rules : List Rule) (context : Context) (supply : Supply)
    (outer : σ × RuleList) :
    ((inMemory surroundings append).pass rules context supply outer).2.2.2 =
      outer.2.recordAll (firings supply.now
        ((inMemory surroundings append).pass rules context supply
          outer).1.outcome.report.rules) := by
  unfold pass
  dsimp only
  rw [publish_inMemory]
  exact runRules_inMemory surroundings append context supply.now rules _ outer

end World

/-! ## Calls -/

/-- What is asked of a desk: a pass on an email or on a context, the pass that waits for the body of
an email, or to give up that wait. -/
inductive Call
  | email (email : Email) (score : Option Binary64) (links : Option (List Link))
  | context (context : Context)
  | loaded (emailId body : String) (htmlBody : Option String)
  | clear (emailId : String)

/-- A call that has been served: when, and with which outcome of a pass, if there is one. -/
structure Served where
  time : Int
  answer : Except PassFault (Option PassOutcome)

/-- The outcome of the pass that a call ran; none when there was no pass or it was put off. -/
def Served.passed? (served : Served) : Option PassOutcome :=
  match served.answer with
  | .ok (some outcome) => if outcome.report.deferred then none else some outcome
  | _ => none

namespace Desk

def serve (world : World σ) (call : Call) (desk : Desk σ) :
    Except PassFault (Option PassOutcome) × Desk σ :=
  match call with
  | .email email score links =>
    let (result, desk) := processEmail world email score links desk
    (result.map some, desk)
  | .context context =>
    let (result, desk) := process world context desk
    (result.map fun passEnd => some passEnd.outcome, desk)
  | .loaded emailId body htmlBody => processLoaded world emailId body htmlBody desk
  | .clear emailId => (.ok none, desk.clear emailId)

def setClock (time : Int) (desk : Desk σ) : Desk σ :=
  { desk with supply := { desk.supply with now := time } }

@[simp] theorem setClock_outer (time : Int) (desk : Desk σ) :
    (desk.setClock time).outer = desk.outer := rfl

@[simp] theorem setClock_now (time : Int) (desk : Desk σ) :
    (desk.setClock time).supply.now = time := rfl

def serveAt (world : World σ) (time : Int) (call : Call) (desk : Desk σ) : Served × Desk σ :=
  let (answer, desk) := serve world call (desk.setClock time)
  (⟨time, answer⟩, desk)

/-- Serves calls one after another, each at a reading of the clock. -/
def serveAll (world : World σ) : List (Int × Call) → Desk σ → List Served × Desk σ
  | [], desk => ([], desk)
  | (time, call) :: rest, desk =>
    let (first, desk) := serveAt world time call desk
    let (others, desk) := serveAll world rest desk
    (first :: others, desk)

/-- A call runs no pass and leaves the outside as it was, or it runs one pass of the enabled
rules. -/
theorem serve_cases (surroundings : Surroundings σ)
    (append : Option (LogEntry → σ → Except Trouble Unit × σ)) (call : Call)
    (desk : Desk (σ × RuleList)) :
    (∀ outcome, (serve (.inMemory surroundings append) call desk).1 = .ok (some outcome) →
        outcome.report.deferred = true) ∧
      (serve (.inMemory surroundings append) call desk).2.outer = desk.outer ∨
    ∃ context,
      (serve (.inMemory surroundings append) call desk).1 = .ok (some
        ((World.inMemory surroundings append).pass desk.outer.2.enabled context desk.supply
          desk.outer).1.outcome) ∧
      (serve (.inMemory surroundings append) call desk).2.outer =
        ((World.inMemory surroundings append).pass desk.outer.2.enabled context desk.supply
          desk.outer).2.2 := by
  cases call with
  | email email score links =>
    dsimp only [serve, processEmail]
    cases Context.prepare email score links [] with
    | error fault => exact .inl ⟨by simp [Except.map], rfl⟩
    | ok context =>
      dsimp only [World.inMemory]
      split
      · refine .inl ⟨fun outcome houtcome => ?_, rfl⟩
        obtain rfl : PassOutcome.putOff = outcome := by simpa [Except.map] using houtcome
        rfl
      · exact .inr ⟨context, rfl, rfl⟩
  | context context => exact .inr ⟨context, rfl, rfl⟩
  | loaded emailId body htmlBody =>
    dsimp only [serve, processLoaded]
    cases desk.waiting.find? emailId with
    | none => exact .inl ⟨by simp, rfl⟩
    | some context =>
      dsimp only
      cases context.load body htmlBody with
      | error fault => exact .inl ⟨by simp, rfl⟩
      | ok context => exact .inr ⟨context, rfl, rfl⟩
  | clear emailId => exact .inl ⟨by simp [serve], rfl⟩

end Desk

end MailTriage

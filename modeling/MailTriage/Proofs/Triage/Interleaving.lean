import MailTriage.Proofs.Triage.Counters
import MailTriage.Proofs.Triage.Custody

/-!
# Calls about different emails

Passes over rules in memory share a desk, the rules and their counters. Still, when the outside
answers each request and each script in one way only, a call about an email comes to what it would
come to if the desk were asked about no other email: the counters play no part in a pass, and what
waits under one identifier is moved by calls about that identifier alone. The simulation runs
between a desk that is asked about all emails and one that is asked about a single one. So the calls
about different emails may come in any order, as long as those about each email keep theirs.
-/

namespace MailTriage

variable {α σ : Type}

/-! ## Entries of one key -/

namespace Keyed

def ofKey (key : String) (entries : Keyed α) : Keyed α := entries.filter fun entry => entry.1 = key

@[simp] theorem ofKey_nil (key : String) : ofKey key ([] : Keyed α) = [] := rfl

@[simp] theorem ofKey_cons_self (key : String) (a : α) (rest : Keyed α) :
    ofKey key ((key, a) :: rest) = (key, a) :: ofKey key rest := by
  simp [ofKey]

theorem ofKey_cons_of_ne {key other : String} (h : other ≠ key) (a : α) (rest : Keyed α) :
    ofKey key ((other, a) :: rest) = ofKey key rest := by
  simp [ofKey, h]

theorem find?_ofKey (key : String) (entries : Keyed α) :
    (entries.ofKey key).find? key = entries.find? key := by
  induction entries with
  | nil => rfl
  | cons entry rest ih =>
    obtain ⟨k, a⟩ := entry
    by_cases h : k = key
    · subst h
      simp [find?]
    · rw [ofKey_cons_of_ne h, ih, find?, if_neg h]

theorem ofKey_put_self (key : String) (a : α) (entries : Keyed α) :
    (entries.put key a).ofKey key = (entries.ofKey key).put key a := by
  induction entries with
  | nil => simp [put]
  | cons entry rest ih =>
    obtain ⟨k, b⟩ := entry
    by_cases h : k = key
    · subst h
      simp [put]
    · rw [put, if_neg h, ofKey_cons_of_ne h, ofKey_cons_of_ne h, ih]

theorem ofKey_put_of_ne {key other : String} (h : other ≠ key) (a : α) (entries : Keyed α) :
    (entries.put other a).ofKey key = entries.ofKey key := by
  induction entries with
  | nil => exact ofKey_cons_of_ne h a []
  | cons entry rest ih =>
    obtain ⟨k, b⟩ := entry
    rw [put]
    split
    · next hk => rw [ofKey_cons_of_ne (hk ▸ h), ofKey_cons_of_ne (hk ▸ h)]
    · by_cases hkey : k = key
      · subst hkey
        rw [ofKey_cons_self, ofKey_cons_self, ih]
      · rw [ofKey_cons_of_ne hkey, ofKey_cons_of_ne hkey, ih]

@[simp] theorem ofKey_drop_self (key : String) (entries : Keyed α) :
    (entries.drop key).ofKey key = [] := by
  simp [ofKey, drop]

theorem ofKey_drop_of_ne {key other : String} (h : other ≠ key) (entries : Keyed α) :
    (entries.drop other).ofKey key = entries.ofKey key := by
  rw [ofKey, drop, List.filter_filter]
  refine List.filter_congr ?_
  intro entry _
  by_cases hkey : entry.1 = key
  · simp [hkey, Ne.symm h]
  · simp [hkey]

/-- Lists of entries that agree under every key only differ in how the keys follow one another. -/
theorem perm_of_ofKey_eq {entries others : Keyed α}
    (h : ∀ key, entries.ofKey key = others.ofKey key) :
    entries.Perm others := by
  classical
  rw [List.perm_iff_count]
  intro entry
  have hcount (list : Keyed α) : (list.ofKey entry.1).count entry = list.count entry :=
    List.count_filter (by simp)
  rw [← hcount entries, h, hcount others]

end Keyed

/-! ## Passes and counters -/

/-- Surroundings whose replies depend on what is asked, and on nothing that was asked before. -/
structure Surroundings.Stateless (surroundings : Surroundings σ) : Prop where
  perform : ∀ request s t, (surroundings.perform request s).1 = (surroundings.perform request t).1
  evaluate : ∀ run s t, (surroundings.evaluate run s).1 = (surroundings.evaluate run t).1

def Rule.uncounted (rule : Rule) : Rule := { rule with executionCount := 0, lastExecuted := none }

@[simp] theorem Rule.uncounted_firedAt (times : List Int) (rule : Rule) :
    (rule.firedAt times).uncounted = rule.uncounted := rfl

theorem RuleList.uncounted_firedAt (times : String → List Int) (list : RuleList) :
    (list.firedAt times).rules.map Rule.uncounted = list.rules.map Rule.uncounted := by
  simp [RuleList.firedAt, Function.comp_def]

theorem RuleList.uncounted_enabled (list : RuleList) :
    list.enabled.map Rule.uncounted = (list.rules.map Rule.uncounted).filter Rule.enabled := by
  rw [RuleList.enabled, List.filter_map]
  rfl

theorem readsContent_uncounted (rules : List Rule) :
    readsContent (rules.map Rule.uncounted) = readsContent rules := by
  rw [readsContent, List.any_map]
  rfl

/-- An outcome without the identifier that its log entry was given. -/
def PassOutcome.unnamed (outcome : PassOutcome) : PassOutcome :=
  { outcome with entry := outcome.entry.map fun entry => { entry with id := "" } }

namespace World

theorem runRules_uncounted (world : World σ) (context : Context) (timestamp : Int)
    (rules : List Rule) (state : PassState) (outer : σ) :
    world.runRules context timestamp (rules.map Rule.uncounted) state outer =
      world.runRules context timestamp rules state outer := by
  induction rules generalizing state outer with
  | nil => rfl
  | cons rule rest ih =>
    have hrule : rule.uncounted.execute world.toSurroundings context state outer =
        rule.execute world.toSurroundings context state outer := rfl
    rw [List.map_cons, runRules, runRules, hrule]
    dsimp only
    rw [ih]

variable {surroundings : Surroundings σ} {append : Option (LogEntry → σ → Except Trouble Unit × σ)}

theorem actsAlike_of_stateless (h : surroundings.Stateless) (timestamp : Int) :
    ActsAlike (fun _ _ => True) timestamp (inMemory surroundings append)
      (inMemory surroundings append) where
  surroundings :=
    { perform := fun {s t} _ request => ⟨h.perform request s.1 t.1, trivial⟩
      evaluate := fun {s t} _ run => ⟨h.evaluate run s.1 t.1, trivial⟩ }
  recordFire _ _ := trivial

/-- What a pass comes to depends on the context and the rules, but not on their counters, nor on
what is outside. -/
theorem unnamed_pass (h : surroundings.Stateless) {rules rules' : List Rule}
    (hrules : rules.map Rule.uncounted = rules'.map Rule.uncounted) (context : Context)
    {supply supply' : Supply} (hnow : supply.now = supply'.now) (outer outer' : σ × RuleList) :
    ((inMemory surroundings append).pass rules context supply outer).1.outcome.unnamed =
      ((inMemory surroundings append).pass rules' context supply' outer').1.outcome.unnamed := by
  have halike :
      ActsAlike (fun _ _ => True) supply.now (inMemory surroundings append)
        (inMemory surroundings append) :=
    actsAlike_of_stateless h supply.now
  have hruns := halike.runRules (s := outer) (t := outer') (rules.map Rule.uncounted) context
    { bindings := context.bindings } trivial
  obtain ⟨reports, x, y, hx, hy, hxy⟩ := hruns.exists_eq
  obtain ⟨state, s, t, rfl, rfl, -⟩ := hxy.exists_eq
  rw [hrules] at hy
  rw [runRules_uncounted] at hx hy
  rw [hnow] at hy
  unfold pass
  rw [hx, hy]
  dsimp only [PassOutcome.unnamed, Option.map_some, PassReport.entry]
  rw [hnow]

end World

/-! ## One call -/

def Call.emailId : Call → String
  | .email mail _ _ => mail.id
  | .context known => known.email.id
  | .loaded loadedId _ _ => loadedId
  | .clear clearedId => clearedId

@[simp] theorem Call.emailId_email (email : Email) (score : Option Binary64)
    (links : Option (List Link)) :
    (Call.email email score links).emailId = email.id := rfl

@[simp] theorem Call.emailId_loaded (loadedId body : String) (htmlBody : Option String) :
    (Call.loaded loadedId body htmlBody).emailId = loadedId := rfl

/-- The answer to a call, without identifiers that were given in it. -/
def Served.unnamed (served : Served) : Except PassFault (Option PassOutcome) :=
  served.answer.map (Option.map PassOutcome.unnamed)

/-- Desks that have the same rules but for the counters, and for which the same waits under an
identifier. -/
structure Desk.SameFor (emailId : String) (desk alone : Desk (σ × RuleList)) : Prop where
  waiting : desk.waiting.ofKey emailId = alone.waiting.ofKey emailId
  rules : desk.outer.2.rules.map Rule.uncounted = alone.outer.2.rules.map Rule.uncounted

theorem Handled.Moves.ofKey_of_ne {waiting after : Waiting} {handled : Handled}
    (h : handled.Moves waiting after) {emailId : String} (hother : handled.call.emailId ≠ emailId) :
    after.ofKey emailId = waiting.ofKey emailId := by
  cases h with
  | parks hdeferred hprepare => exact Keyed.ofKey_put_of_ne hother _ waiting
  | @ends _ ended hends =>
    apply Keyed.ofKey_drop_of_ne
    obtain ⟨call, answer⟩ := handled
    cases call with
    | email | context => exact hends.elim
    | loaded | clear => exact hends ▸ hother
  | leaves => rfl

namespace Desk

variable {surroundings : Surroundings σ} (append : Option (LogEntry → σ → Except Trouble Unit × σ))
  {emailId : String} {desk alone : Desk (σ × RuleList)}

theorem serveAt_uncounted (h : (desk.outer.2.rules.map Rule.id).Nodup) (time : Int) (call : Call) :
    (serveAt (.inMemory surroundings append) time call desk).2.outer.2.rules.map Rule.uncounted =
      desk.outer.2.rules.map Rule.uncounted := by
  rw [serveAt_list surroundings append time call h, RuleList.uncounted_firedAt]

namespace SameFor

theorem enabled (h : SameFor emailId desk alone) :
    desk.outer.2.enabled.map Rule.uncounted = alone.outer.2.enabled.map Rule.uncounted := by
  rw [RuleList.uncounted_enabled, RuleList.uncounted_enabled, h.rules]

theorem readsContent (h : SameFor emailId desk alone) :
    MailTriage.readsContent desk.outer.2.enabled =
      MailTriage.readsContent alone.outer.2.enabled := by
  rw [← readsContent_uncounted, h.enabled, readsContent_uncounted]

theorem find? (h : SameFor emailId desk alone) :
    desk.waiting.find? emailId = alone.waiting.find? emailId := by
  rw [← Keyed.find?_ofKey, h.waiting, Keyed.find?_ofKey]

theorem nodup (h : SameFor emailId desk alone) (hids : (desk.outer.2.rules.map Rule.id).Nodup) :
    (alone.outer.2.rules.map Rule.id).Nodup := by
  have hsame := congrArg (List.map Rule.id) h.rules
  rw [List.map_map, List.map_map] at hsame
  exact hsame ▸ hids

theorem beside (h : SameFor emailId desk alone) (hids : (desk.outer.2.rules.map Rule.id).Nodup)
    (time : Int) {call : Call} (hcall : call.emailId ≠ emailId) :
    SameFor emailId (serveAt (.inMemory surroundings append) time call desk).2 alone where
  waiting := by
    rw [← h.waiting]
    exact (serve_moves (.inMemory surroundings append) (desk.setClock time) call).ofKey_of_ne hcall
  rules := (serveAt_uncounted append hids time call).trans h.rules

theorem serve (hstateless : surroundings.Stateless) (h : SameFor emailId desk alone)
    (hnow : desk.supply.now = alone.supply.now) {call : Call} (hcall : call.emailId = emailId) :
    (Desk.serve (.inMemory surroundings append) call desk).1.map (Option.map PassOutcome.unnamed) =
        (Desk.serve (.inMemory surroundings append) call alone).1.map
          (Option.map PassOutcome.unnamed) ∧
      (Desk.serve (.inMemory surroundings append) call desk).2.waiting.ofKey emailId =
        (Desk.serve (.inMemory surroundings append) call alone).2.waiting.ofKey emailId := by
  have hpass (context : Context) :
      ((World.inMemory surroundings append).pass desk.outer.2.enabled context desk.supply
          desk.outer).1.outcome.unnamed =
        ((World.inMemory surroundings append).pass alone.outer.2.enabled context alone.supply
          alone.outer).1.outcome.unnamed :=
    World.unnamed_pass hstateless h.enabled context hnow _ _
  cases call with
  | email email score links =>
    obtain rfl : email.id = emailId := hcall
    dsimp only [Desk.serve, processEmail]
    cases Context.prepare email score links [] with
    | error fault => exact ⟨rfl, h.waiting⟩
    | ok context =>
      dsimp only [World.inMemory]
      rw [h.readsContent]
      split
      · constructor
        · rfl
        · rw [Keyed.ofKey_put_self, Keyed.ofKey_put_self, h.waiting]
      · constructor
        · exact congrArg (fun outcome => Except.ok (some outcome)) (hpass context)
        · exact h.waiting
  | context context =>
    constructor
    · exact congrArg (fun outcome => Except.ok (some outcome)) (hpass context)
    · exact h.waiting
  | loaded loadedId body htmlBody =>
    obtain rfl : loadedId = emailId := hcall
    constructor
    · dsimp only [Desk.serve, processLoaded]
      rw [h.find?]
      cases alone.waiting.find? loadedId with
      | none => rfl
      | some context =>
        dsimp only
        cases context.load body htmlBody with
        | error fault => rfl
        | ok loaded => exact congrArg (fun outcome => Except.ok (some outcome)) (hpass loaded)
    · dsimp only [Desk.serve]
      rw [processLoaded_waiting, processLoaded_waiting, Keyed.ofKey_drop_self,
        Keyed.ofKey_drop_self]
  | clear clearedId =>
    obtain rfl : clearedId = emailId := hcall
    constructor
    · rfl
    · dsimp only [Desk.serve, clear]
      rw [Keyed.ofKey_drop_self, Keyed.ofKey_drop_self]

end SameFor

/-! ## Runs of calls -/

/-- Serves calls one after another, all at one reading of the clock. -/
def serveAllAt (world : World σ) (time : Int) (calls : List Call) (desk : Desk σ) :
    List Served × Desk σ :=
  serveAll world (calls.map fun call => (time, call)) desk

/-- The answers to calls, each under the identifier of the email that the call is about, without
identifiers that were given in it. -/
def answersTo (world : World σ) (time : Int) (calls : List Call) (desk : Desk σ) :
    Keyed (Except PassFault (Option PassOutcome)) :=
  List.zipWith (fun call served => (call.emailId, served.unnamed)) calls
    (serveAllAt world time calls desk).1

theorem answersTo_cons (world : World σ) (time : Int) (call : Call) (rest : List Call)
    (desk : Desk σ) :
    answersTo world time (call :: rest) desk =
      (call.emailId, (serveAt world time call desk).1.unnamed) ::
        answersTo world time rest (serveAt world time call desk).2 := rfl

theorem serveAllAt_cons (world : World σ) (time : Int) (call : Call) (rest : List Call)
    (desk : Desk σ) :
    (serveAllAt world time (call :: rest) desk).1 =
      (serveAt world time call desk).1 :: (serveAllAt world time rest
        (serveAt world time call desk).2).1 := rfl

/-- Calls about other emails change neither the answers to the calls about an email nor what waits
for it. -/
theorem SameFor.serveAllAt (hstateless : surroundings.Stateless) (time : Int) (calls : List Call)
    (h : SameFor emailId desk alone) (hids : (desk.outer.2.rules.map Rule.id).Nodup) :
    let own := calls.filter fun call => call.emailId = emailId
    (answersTo (.inMemory surroundings append) time calls desk).ofKey emailId =
        (answersTo (.inMemory surroundings append) time own alone).ofKey emailId ∧
      SameFor emailId (Desk.serveAllAt (.inMemory surroundings append) time calls desk).2
        (Desk.serveAllAt (.inMemory surroundings append) time own alone).2 := by
  induction calls generalizing desk alone with
  | nil => exact ⟨rfl, h⟩
  | cons call rest ih =>
    have hafter := serveAt_nodup surroundings append time call hids
    dsimp only at ih ⊢
    -- a call about this email is served alike at both desks; any other leaves this one out
    by_cases hcall : call.emailId = emailId
    · have hclocked : SameFor emailId (desk.setClock time) (alone.setClock time) :=
        ⟨h.waiting, h.rules⟩
      obtain ⟨hanswer, hwaiting⟩ := hclocked.serve append hstateless rfl hcall
      have hserved : SameFor emailId (serveAt (.inMemory surroundings append) time call desk).2
          (serveAt (.inMemory surroundings append) time call alone).2 := by
        refine ⟨hwaiting, ?_⟩
        rw [serveAt_uncounted append hids, serveAt_uncounted append (h.nodup hids), h.rules]
      obtain ⟨hanswers, hrest⟩ := ih hserved hafter
      rw [List.filter_cons_of_pos (by simpa using hcall)]
      constructor
      · subst hcall
        rw [answersTo_cons, answersTo_cons, Keyed.ofKey_cons_self, Keyed.ofKey_cons_self, hanswers]
        exact congrArg (fun answer => (call.emailId, answer) :: _) hanswer
      · exact hrest
    · obtain ⟨hanswers, hrest⟩ := ih (h.beside append hids time hcall) hafter
      rw [List.filter_cons_of_neg (by simpa using hcall)]
      constructor
      · rw [answersTo_cons, Keyed.ofKey_cons_of_ne hcall, hanswers]
      · exact hrest

theorem timesOf_serveAllAt (world : World σ) (time : Int) (ruleId : String) (calls : List Call)
    (desk : Desk σ) :
    Served.timesOf ruleId (serveAllAt world time calls desk).1 =
      List.replicate ((answersTo world time calls desk).countP fun entry =>
        (Served.passed? ⟨time, entry.2⟩).any (PassOutcome.matches ruleId)) time := by
  induction calls generalizing desk with
  | nil => rfl
  | cons call rest ih =>
    have hmatches (served : Served) :
        (Served.passed? ⟨time, served.unnamed⟩).any (PassOutcome.matches ruleId) =
        served.passed?.any (PassOutcome.matches ruleId) := by
      obtain ⟨served, answer⟩ := served
      rcases answer with fault | _ | outcome
      · rfl
      · rfl
      · simp only [Served.passed?, Served.unnamed, Except.map, Option.map_some, PassOutcome.unnamed]
        split <;> rfl
    rw [serveAllAt_cons, Served.timesOf_cons, ih, answersTo_cons, List.countP_cons, hmatches,
      Served.timesOf, List.filter_singleton]
    cases (serveAt world time call desk).1.passed?.any (PassOutcome.matches ruleId) with
    | false => rfl
    | true => exact List.replicate_succ.symm

/-- Two ways of serving calls that come to the same: each call about an email has its answer, the
same contexts wait, and the rules are the same with their counters. -/
structure SameServed (world : World (σ × RuleList)) (time : Int) (calls calls' : List Call)
    (desk : Desk (σ × RuleList)) : Prop where
  answers : ∀ emailId,
    (answersTo world time calls desk).ofKey emailId =
      (answersTo world time calls' desk).ofKey emailId
  waiting : (serveAllAt world time calls desk).2.waiting.Perm
    (serveAllAt world time calls' desk).2.waiting
  found : ∀ emailId, (serveAllAt world time calls desk).2.waiting.find? emailId =
    (serveAllAt world time calls' desk).2.waiting.find? emailId
  rules : (serveAllAt world time calls desk).2.outer.2 =
    (serveAllAt world time calls' desk).2.outer.2

/-- Calls about different emails do not interfere: when the outside answers everything in one way
only, it makes no difference in which order the calls come, as long as those about each email keep
their order. -/
theorem sameServed_of_interleaving (hstateless : surroundings.Stateless)
    (time : Int) {calls calls' : List Call}
    (hcalls : ∀ emailId, (calls.filter fun call => call.emailId = emailId) =
      calls'.filter fun call => call.emailId = emailId)
    (desk : Desk (σ × RuleList)) (hids : (desk.outer.2.rules.map Rule.id).Nodup) :
    SameServed (.inMemory surroundings append) time calls calls' desk := by
  let world := World.inMemory surroundings append
  -- each way of serving is compared with the calls about one email alone, which are the same in
  -- both
  have halone (emailId : String) (calls : List Call) :=
    @SameFor.serveAllAt σ surroundings append emailId desk desk hstateless time calls
      ⟨rfl, rfl⟩ hids
  have hanswers (emailId : String) :
      (answersTo world time calls desk).ofKey emailId =
        (answersTo world time calls' desk).ofKey emailId := by
    rw [(halone emailId calls).1, (halone emailId calls').1, hcalls]
  have hwaiting (emailId : String) :
      (Desk.serveAllAt world time calls desk).2.waiting.ofKey emailId =
      (Desk.serveAllAt world time calls' desk).2.waiting.ofKey emailId := by
    rw [(halone emailId calls).2.waiting, (halone emailId calls').2.waiting, hcalls]
  constructor
  · exact hanswers
  · exact Keyed.perm_of_ofKey_eq hwaiting
  · intro emailId
    rw [← Keyed.find?_ofKey, hwaiting, Keyed.find?_ofKey]
  · rw [Desk.serveAllAt, Desk.serveAllAt, serveAll_list surroundings append _ hids,
      serveAll_list surroundings append _ hids]
    congr 1
    funext ruleId
    change Served.timesOf ruleId (Desk.serveAllAt world time calls desk).1 =
      Served.timesOf ruleId (Desk.serveAllAt world time calls' desk).1
    rw [timesOf_serveAllAt, timesOf_serveAllAt, (Keyed.perm_of_ofKey_eq hanswers).countP_eq]

/-- The pass on one email is put off and taken up, and between that the pass on another one is put
off. -/
def crossing : List Call :=
  [.email { id := "m", contentLoaded := false } none (some []),
    .email { id := "n", contentLoaded := false } none none,
   .loaded "m" "See you soon" none]

/-- The same calls, the one about the other email first. -/
def crossing' : List Call :=
  [.email { id := "n", contentLoaded := false } none none,
    .email { id := "m", contentLoaded := false } none (some []),
   .loaded "m" "See you soon" none]

theorem sameServed_of_interleaving_crossing :
    (World.still []).toSurroundings.Stateless ∧
      (∀ emailId, (crossing.filter fun call => call.emailId = emailId) =
        crossing'.filter fun call => call.emailId = emailId) ∧
      (overTwoRules.outer.2.rules.map Rule.id).Nodup ∧
      SameServed (.inMemory (World.still []).toSurroundings none) 5 crossing crossing'
        overTwoRules := by
  have hstateless : (World.still []).toSurroundings.Stateless :=
    ⟨fun _ _ _ => rfl, fun _ _ _ => rfl⟩
  have hcalls (emailId : String) : (crossing.filter fun call => call.emailId = emailId) =
      crossing'.filter fun call => call.emailId = emailId := by
    by_cases hm : "m" = emailId
    · subst hm
      simp [crossing, crossing']
    · simp [crossing, crossing', List.filter_cons, hm]
  have hids : (overTwoRules.outer.2.rules.map Rule.id).Nodup := by decide
  exact ⟨hstateless, hcalls, hids,
    sameServed_of_interleaving none hstateless 5 hcalls overTwoRules hids⟩

end Desk

end MailTriage

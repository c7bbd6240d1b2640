import MailTriage.Proofs.Triage.Headers
import MailTriage.Proofs.Triage.Memory
import MailTriage.Proofs.Triage.Record
import Mathlib.Data.Set.Card

/-!
# Custody of passes that are put off

A pass that is put off is in the custody of the desk until it is taken up or given up. What happens
at a desk is kept as a chronicle: calls, each with its answer, and between them changes outside,
such as of the rules. The contexts that wait are then just those of the emails whose passes were put
off since the last call that ended such a wait, each with what was known at the last of these
occasions. Every call either adds a context, takes one away, or leaves all of them, and this carries
the agreement with the chronicle from call to call.

No pass of the desk on an email meets a body that is not there.
-/

namespace MailTriage

variable {σ : Type}

/-! ## Conditions that were not evaluated -/

section Reports

variable {P : ConditionReport → Prop}

theorem Logic.forall_mem_of_evaluateAll {logic : Logic} {context : Context}
    {conditions : List Condition}
    (h : ∀ condition ∈ conditions, ∀ report, condition.evaluate context = .ok report → P report)
    {matched : Bool} {reports : List ConditionReport}
    (heval : logic.evaluateAll context conditions = .ok (matched, reports)) :
    ∀ report ∈ reports, P report := by
  induction conditions generalizing matched reports with
  | nil =>
    cases heval
    simp
  | cons condition rest ih =>
    rw [List.forall_mem_cons] at h
    rw [Logic.evaluateAll] at heval
    obtain ⟨first, hfirst, heval⟩ := exists_of_bind_eq_ok heval
    split at heval
    · cases heval
      simpa using h.1 first hfirst
    · obtain ⟨⟨others, otherReports⟩, hothers, heval⟩ := exists_of_bind_eq_ok heval
      cases heval
      intro report hreport
      rcases List.mem_cons.mp hreport with rfl | hreport
      · exact h.1 report hfirst
      · exact ih h.2 hothers report hreport

theorem Rule.forall_conditions_of_execute (world : Surroundings σ) {context : Context} {rule : Rule}
    (h : ∀ condition ∈ rule.conditions, ∀ bindings report,
      condition.evaluate { context with bindings := bindings } = .ok report → P report)
    (state : PassState) (outer : σ) :
    ∀ report ∈ (rule.execute world context state outer).1.conditions, P report := by
  have hcombine {matched : Bool} {reports : List ConditionReport} (hreports :
      rule.logic.combine { context with bindings := state.bindings } rule.conditions =
        .ok (matched, reports)) :
      ∀ report ∈ reports, P report := by
    unfold Logic.combine at hreports
    split at hreports
    · cases hreports
      simp
    · refine Logic.forall_mem_of_evaluateAll ?_ hreports
      intro condition hcondition report
      exact h condition hcondition state.bindings report
  unfold Rule.execute
  split
  · simp [Rule.failed]
  · next hreports => exact hcombine hreports
  · next hreports => exact hcombine hreports

theorem World.forall_conditions_of_runRules {world : World σ} {context : Context}
    {rules : List Rule}
    (h : ∀ rule ∈ rules, ∀ condition ∈ rule.conditions, ∀ bindings report,
      condition.evaluate { context with bindings := bindings } = .ok report → P report)
    (timestamp : Int) (state : PassState) (outer : σ) :
    ∀ report ∈ (world.runRules context timestamp rules state outer).1, 
      ∀ condition ∈ report.conditions,
      P condition := by
  induction rules generalizing state outer with
  | nil => simp [World.runRules]
  | cons rule rest ih =>
    rw [List.forall_mem_cons] at h
    have hrule := Rule.forall_conditions_of_execute world.toSurroundings h.1 state outer
    rw [World.runRules]
    dsimp only
    split
    · simpa using hrule
    · intro report hreport
      rcases List.mem_cons.mp hreport with rfl | hreport
      · exact hrule
      · exact ih h.2 _ _ report hreport

end Reports

/-- No condition was passed over because the body of the email was not there. -/
def PassOutcome.SkipsNone (outcome : PassOutcome) : Prop :=
  ∀ report ∈ outcome.report.rules, ∀ condition ∈ report.conditions,
    condition.error ≠ some "Content not loaded - condition skipped"

theorem Condition.error_ne_of_evaluate {condition : Condition} {context : Context}
    {report : ConditionReport}
    (h : (condition.readsContent && !context.email.contentLoaded) = false)
    (heval : condition.evaluate context = .ok report) :
    report.error ≠ some "Content not loaded - condition skipped" := by
  rw [Condition.evaluate_eq h] at heval
  split at heval
  · cases heval
    intro herror
    have hfirst := congrArg (fun text : String => text.toList.head?) (Option.some.inj herror)
    simp at hfirst
  · split at heval
    · exact nomatch heval
    · split at heval
      · cases heval
        simp
      · exact nomatch heval

theorem World.skipsNone_pass {world : World σ} {rules : List Rule} {context : Context}
    (h : (!context.email.contentLoaded && MailTriage.readsContent rules) = false) (supply : Supply)
    (outer : σ) :
    (world.pass rules context supply outer).1.outcome.SkipsNone := by
  apply World.forall_conditions_of_runRules
  intro rule hrule condition hcondition bindings report
  apply Condition.error_ne_of_evaluate
  cases hloaded : context.email.contentLoaded with
  | true => simp
  | false =>
    rw [hloaded, Bool.not_false, Bool.true_and] at h
    simp [readsContent_eq_false_iff.mp h rule hrule condition hcondition]

/-! ## Calls with their answers -/

/-- A call that was served, with its answer. -/
structure Handled where
  call : Call
  answer : Except PassFault (Option PassOutcome)

namespace Handled

def Defers (emailId : String) : Handled → Prop
  | ⟨.email email _ _, .ok (some outcome)⟩ => email.id = emailId ∧ outcome.report.deferred = true
  | _ => False

/-- The wait for the body of an email is over: its pass was taken up, or given up. -/
def Ends (emailId : String) : Handled → Prop
  | ⟨.loaded id _ _, _⟩ => id = emailId
  | ⟨.clear id, _⟩ => id = emailId
  | _ => False

/-- What is known of the email that comes with a call. -/
def Prepares (context : Context) : Handled → Prop
  | ⟨.email email score links, _⟩ => Context.prepare email score links [] = .ok context
  | _ => False

end Handled

/-- Calls that were served, the first one first. -/
abbrev History := List Handled

namespace Handled

variable {handled : Handled} {emailId other : String}

theorem Ends.not_defers (h : handled.Ends emailId) : ¬ handled.Defers other := by
  obtain ⟨call, answer⟩ := handled
  cases call with
  | email | context => exact h.elim
  | loaded | clear => exact id

theorem Ends.eq (h : handled.Ends emailId) (hother : handled.Ends other) : emailId = other := by
  obtain ⟨call, answer⟩ := handled
  cases call with
  | email | context => exact h.elim
  | loaded | clear => exact h.symm.trans hother

end Handled

namespace History

/-- The pass on an email has been put off since the last call that ended such a wait. -/
def Awaits (history : History) (emailId : String) : Prop :=
  ∃ before parked after, history = before ++ parked :: after ∧ parked.Defers emailId ∧
    ∀ later ∈ after, ¬ Handled.Ends emailId later

/-- The last call by which the pass on an email was put off; its wait has not been ended since. -/
def LastParked (history : History) (emailId : String) (parked : Handled) : Prop :=
  ∃ before after, history = before ++ parked :: after ∧ parked.Defers emailId ∧
    ∀ later ∈ after, ¬ Handled.Defers emailId later ∧ ¬ Handled.Ends emailId later

variable {history : History} {emailId : String} {handled parked : Handled}

theorem awaits_concat : Awaits (history ++ [handled]) emailId ↔
    handled.Defers emailId ∨ history.Awaits emailId ∧ ¬ handled.Ends emailId := by
  constructor
  · rintro ⟨before, parked, after, hhistory, hdefers, hafter⟩
    rcases List.eq_nil_or_concat' after with rfl | ⟨after, last, rfl⟩
    · obtain ⟨rfl, hlast⟩ := List.append_inj' hhistory rfl
      obtain rfl := (List.cons.inj hlast).1
      exact .inl hdefers
    · rw [← List.cons_append, ← List.append_assoc] at hhistory
      obtain ⟨rfl, hlast⟩ := List.append_inj' hhistory rfl
      obtain rfl := (List.cons.inj hlast).1
      refine .inr ⟨⟨before, parked, after, rfl, hdefers, ?_⟩, hafter handled (by simp)⟩
      intro later hlater
      exact hafter later (List.mem_append_left _ hlater)
  · rintro (hdefers | ⟨⟨before, parked, after, rfl, hdefers, hafter⟩, hends⟩)
    · exact ⟨history, handled, [], rfl, hdefers, by simp⟩
    · refine ⟨before, parked, after ++ [handled], by simp, hdefers, ?_⟩
      intro later hlater
      rcases List.mem_append.mp hlater with hlater | hlater
      · exact hafter later hlater
      · exact List.mem_singleton.mp hlater ▸ hends

theorem lastParked_concat_self (h : handled.Defers emailId) :
    LastParked (history ++ [handled]) emailId handled :=
  ⟨history, [], rfl, h, by simp⟩

theorem LastParked.concat (h : history.LastParked emailId parked)
    (hdefers : ¬ handled.Defers emailId) (hends : ¬ handled.Ends emailId) :
    LastParked (history ++ [handled]) emailId parked := by
  obtain ⟨before, after, rfl, hparked, hafter⟩ := h
  refine ⟨before, after ++ [handled], by simp, hparked, ?_⟩
  intro later hlater
  rcases List.mem_append.mp hlater with hlater | hlater
  · exact hafter later hlater
  · exact List.mem_singleton.mp hlater ▸ ⟨hdefers, hends⟩

end History

/-! ## What calls make of the contexts that wait -/

/-- What a call that was served makes of the contexts that wait: it adds one, takes one away, or
leaves them. -/
inductive Handled.Moves (waiting : Waiting) : Handled → Waiting → Prop
  | parks {email : Email} {score : Option Binary64} {links : Option (List Link)}
    {outcome : PassOutcome}
      {context : Context} (hdeferred : outcome.report.deferred = true)
      (hprepare : Context.prepare email score links [] = .ok context) :
      Moves waiting ⟨.email email score links, .ok (some outcome)⟩ (waiting.put email.id context)
  | ends {handled : Handled} {emailId : String} (hends : handled.Ends emailId) :
      Moves waiting handled (waiting.drop emailId)
  | leaves {handled : Handled} (hdefers : ∀ emailId, ¬ handled.Defers emailId)
      (hends : ∀ emailId, ¬ handled.Ends emailId) : Moves waiting handled waiting

namespace Desk

variable (world : World σ) (desk : Desk σ)

/-- A call for a pass on an email fails, or the pass is put off with nothing but a look at the
rules, or a pass is run of rules that test no body that is not there. -/
theorem processEmail_cases (email : Email) (score : Option Binary64) (links : Option (List Link)) :
    (∃ fault outer,
      processEmail world email score links desk = (.error fault, { desk with outer := outer })) ∨
    ∃ context, Context.prepare email score links [] = .ok context ∧
      (processEmail world email score links desk =
          (.ok .putOff,
            { desk with
              waiting := desk.waiting.put email.id context
              outer := (world.enabledRules desk.outer).2 }) ∨
        ∃ rules outer, (!email.contentLoaded && MailTriage.readsContent rules) = false ∧
          processEmail world email score links desk =
            (.ok (run world rules context { desk with outer := outer }).1.outcome,
              (run world rules context { desk with outer := outer }).2)) := by
  unfold processEmail
  cases hprepare : Context.prepare email score links [] with
  | error fault => exact .inl ⟨.links fault, desk.outer, rfl⟩
  | ok context =>
    obtain ⟨result, outer⟩ := world.enabledRules desk.outer
    cases result with
    | error trouble => exact .inl ⟨.rules trouble, outer, rfl⟩
    | ok rules =>
      refine .inr ⟨context, rfl, ?_⟩
      dsimp only
      split
      · exact .inl rfl
      · next hready => exact .inr ⟨rules, outer, Bool.not_eq_true _ ▸ hready, rfl⟩

theorem process_waiting (context : Context) :
    (process world context desk).2.waiting = desk.waiting := by
  unfold process
  split <;> rfl

theorem processLoaded_waiting (emailId body : String) (htmlBody : Option String) :
    (processLoaded world emailId body htmlBody desk).2.waiting = desk.waiting.drop emailId := by
  unfold processLoaded
  cases hfind : desk.waiting.find? emailId with
  | none => exact (Keyed.drop_of_find?_eq_none hfind).symm
  | some context =>
    dsimp only
    cases context.load body htmlBody with
    | error fault => rfl
    | ok loaded =>
      have hwaiting :=
        process_waiting world { desk with waiting := desk.waiting.drop emailId } loaded
      dsimp only
      split <;> next hprocess => rwa [hprocess] at hwaiting

theorem serve_moves (call : Call) :
    Handled.Moves desk.waiting ⟨call, (serve world call desk).1⟩
      (serve world call desk).2.waiting := by
  cases call with
  | email email score links =>
    dsimp only [serve]
    rcases processEmail_cases world desk email score links with
      ⟨fault, outer, hprocess⟩ | ⟨context, hprepare, hprocess | ⟨rules, outer, -, hprocess⟩⟩
    · rw [hprocess]
      exact .leaves (fun _ => id) fun _ => id
    · rw [hprocess]
      exact .parks rfl hprepare
    · rw [hprocess]
      exact .leaves (fun _ h => Bool.false_ne_true h.2) fun _ => id
  | context context =>
    dsimp only [serve]
    rw [process_waiting]
    exact .leaves (fun _ => id) fun _ => id
  | loaded emailId body htmlBody =>
    dsimp only [serve]
    rw [processLoaded_waiting]
    exact .ends rfl
  | clear emailId => exact .ends rfl

theorem processLoaded_of_find? {emailId body : String} {htmlBody : Option String}
    {context : Context} (hfind : desk.waiting.find? emailId = some context)
    {answer : Option PassOutcome} {after : Desk σ}
    (h : processLoaded world emailId body htmlBody desk = (.ok answer, after)) :
    ∃ loaded rules outer, context.load body htmlBody = .ok loaded ∧
      world.enabledRules desk.outer = (.ok rules, outer) ∧
      answer = some (world.pass rules loaded desk.supply outer).1.outcome ∧
      after = ⟨desk.waiting.drop emailId, (world.pass rules loaded desk.supply outer).2.1,
        (world.pass rules loaded desk.supply outer).2.2⟩ := by
  unfold processLoaded at h
  rw [hfind] at h
  dsimp only at h
  cases hload : context.load body htmlBody with
  | error fault =>
    rw [hload] at h
    exact nomatch h
  | ok loaded =>
    rw [hload] at h
    dsimp only [process] at h
    cases hrules : world.enabledRules desk.outer with
    | mk result outer =>
      rw [hrules] at h
      cases result with
      | error trouble => exact nomatch h
      | ok rules =>
        cases h
        exact ⟨loaded, rules, outer, rfl, rfl, rfl, rfl⟩

end Desk

/-- No call of the desk passes over a condition because the body of its email is not there. -/
theorem Desk.skipsNone_processEmail {world : World σ} {desk after : Desk σ} {email : Email}
    {score : Option Binary64} {links : Option (List Link)} {outcome : PassOutcome}
    (h : processEmail world email score links desk = (.ok outcome, after)) : outcome.SkipsNone := by
  rcases processEmail_cases world desk email score links with
    ⟨fault, outer, hprocess⟩ | ⟨context, hprepare, hprocess | ⟨rules, outer, hready, hprocess⟩⟩
  · exact nomatch hprocess.symm.trans h
  · cases hprocess.symm.trans h
    intro report hreport
    exact nomatch hreport
  · cases hprocess.symm.trans h
    apply World.skipsNone_pass
    rwa [Context.email_of_prepare hprepare]

/-- Nothing is taken up exactly when nothing waits. -/
theorem Desk.processLoaded_eq_none_iff (world : World σ) (desk : Desk σ) {emailId body : String}
    {htmlBody : Option String} :
    (processLoaded world emailId body htmlBody desk).1 = .ok none ↔
      desk.waiting.find? emailId = none := by
  constructor
  · intro hnone
    cases hfind : desk.waiting.find? emailId with
    | none => rfl
    | some context =>
      obtain ⟨loaded, rules, outer, -, -, hanswer, -⟩ :=
        processLoaded_of_find? world desk hfind (Prod.ext hnone rfl)
      exact nomatch hanswer
  · intro hfind
    rw [processLoaded, hfind]

theorem Context.email_of_load {context loaded : Context} {body : String} {htmlBody : Option String}
    (h : context.load body htmlBody = .ok loaded) :
    loaded.email = context.email.load body htmlBody := by
  unfold load at h
  dsimp only at h
  split at h <;> obtain ⟨links, -, hloaded⟩ := exists_of_bind_eq_ok h <;> cases hloaded <;> rfl

theorem Desk.skipsNone_processLoaded {world : World σ} {desk after : Desk σ} {emailId body : String}
    {htmlBody : Option String} {outcome : PassOutcome}
    (h : processLoaded world emailId body htmlBody desk = (.ok (some outcome), after)) :
    outcome.SkipsNone := by
  cases hfind : desk.waiting.find? emailId with
  | none =>
    rw [processLoaded, hfind] at h
    exact nomatch h
  | some context =>
    obtain ⟨loaded, rules, outer, hload, -, houtcome, -⟩ :=
      processLoaded_of_find? world desk hfind h
    obtain rfl := Option.some.inj houtcome
    apply World.skipsNone_pass
    rw [Context.email_of_load hload]
    rfl

/-! ## Chronicles -/

/-- The contexts that wait are those that the history tells of. -/
structure History.Agrees (history : History) (waiting : Waiting) : Prop where
  distinct : (waiting.map Prod.fst).Nodup
  awaits_iff : ∀ emailId, (waiting.find? emailId).isSome = true ↔ history.Awaits emailId
  prepared : ∀ emailId context, waiting.find? emailId = some context →
    ∃ parked, history.LastParked emailId parked ∧ parked.Prepares context

namespace History.Agrees

variable {history : History} {waiting after : Waiting} {handled : Handled}

theorem nil : Agrees [] [] where
  distinct := List.nodup_nil
  awaits_iff emailId := by simp [Awaits]
  prepared emailId context h := nomatch h

/-- A call that leaves the wait for an email alone leaves what the history tells of it. -/
theorem awaits_iff_of_ne (h : history.Agrees waiting) {emailId : String}
    (hfind : after.find? emailId = waiting.find? emailId) (hdefers : ¬ handled.Defers emailId)
    (hends : ¬ handled.Ends emailId) :
    (after.find? emailId).isSome = true ↔ Awaits (history ++ [handled]) emailId := by
  rw [hfind, h.awaits_iff, awaits_concat]
  simp [hdefers, hends]

theorem prepared_of_ne (h : history.Agrees waiting) {emailId : String} {context : Context}
    (hfind : waiting.find? emailId = some context) (hdefers : ¬ handled.Defers emailId)
    (hends : ¬ handled.Ends emailId) :
    ∃ parked, LastParked (history ++ [handled]) emailId parked ∧ parked.Prepares context := by
  obtain ⟨parked, hparked, hprepares⟩ := h.prepared emailId context hfind
  exact ⟨parked, hparked.concat hdefers hends, hprepares⟩

theorem move (h : history.Agrees waiting) (hmove : handled.Moves waiting after) :
    Agrees (history ++ [handled]) after := by
  cases hmove with
  | @parks email score links outcome context hdeferred hprepare =>
    -- now this email waits, with the context of the call that was put off
    have hself : Handled.Defers email.id ⟨.email email score links, .ok (some outcome)⟩ :=
      ⟨rfl, hdeferred⟩
    have hother {emailId : String} (hne : emailId ≠ email.id) :
        ¬ Handled.Defers emailId ⟨.email email score links, .ok (some outcome)⟩ :=
          fun hdefers => hne hdefers.1.symm
    constructor
    · exact Keyed.nodup_put h.distinct email.id context
    · intro emailId
      by_cases hid : emailId = email.id
      · subst hid
        simp [awaits_concat, hself]
      · exact h.awaits_iff_of_ne (Keyed.find?_put_of_ne hid context waiting) (hother hid) id
    · intro emailId found hfind
      by_cases hid : emailId = email.id
      · subst hid
        rw [Keyed.find?_put_self] at hfind
        obtain rfl := Option.some.inj hfind
        exact ⟨_, lastParked_concat_self hself, hprepare⟩
      · rw [Keyed.find?_put_of_ne hid] at hfind
        exact h.prepared_of_ne hfind (hother hid) id
  -- the email no longer waits, whether its pass was run or given up
  | @ends _ emailId hends =>
    constructor
    · exact Keyed.nodup_drop h.distinct emailId
    · intro other
      by_cases hid : other = emailId
      · subst hid
        simp [awaits_concat, hends, hends.not_defers]
      · exact h.awaits_iff_of_ne (Keyed.find?_drop_of_ne hid waiting) hends.not_defers
          fun hother => hid (hother.eq hends)
    · intro other context hfind
      by_cases hid : other = emailId
      · subst hid
        simp at hfind
      · rw [Keyed.find?_drop_of_ne hid] at hfind
        exact h.prepared_of_ne hfind hends.not_defers fun hother => hid (hother.eq hends)
  | leaves hdefers hends =>
    constructor
    · exact h.distinct
    · intro emailId
      exact h.awaits_iff_of_ne rfl (hdefers emailId) (hends emailId)
    · intro emailId context hfind
      exact h.prepared_of_ne hfind (hdefers emailId) (hends emailId)

theorem find?_eq_none_iff (h : history.Agrees waiting) (emailId : String) :
    waiting.find? emailId = none ↔ ¬ history.Awaits emailId := by
  rw [← h.awaits_iff emailId]
  cases waiting.find? emailId <;> simp

theorem encard_awaits (h : history.Agrees waiting) :
    {emailId | history.Awaits emailId}.encard = waiting.length := by
  have hkeys : {emailId | history.Awaits emailId} = ↑(waiting.map Prod.fst).toFinset := by
    ext emailId
    rw [Set.mem_ofPred_eq, ← h.awaits_iff, Keyed.find?_isSome_iff]
    simp
  rw [hkeys, Set.encard_coe_eq_coe_finsetCard, List.toFinset_card_of_nodup h.distinct,
    List.length_map]

end History.Agrees

/-- What happens at a desk: a call at a reading of the clock, or a change outside, such as of the
rules. -/
inductive DeskEvent (σ : Type)
  | call (time : Int) (call : Call)
  | change (change : σ → σ)

/-- A desk, and beside it the calls that it has served. -/
structure Chronicle (σ : Type) where
  history : History := []
  desk : Desk σ

namespace Chronicle

/-- Lets something happen, and adds it to the history when it is a call. -/
def record (world : World σ) (chronicle : Chronicle σ) : DeskEvent σ → Chronicle σ
  | .call time call =>
    let (served, desk) := Desk.serveAt world time call chronicle.desk
    ⟨chronicle.history ++ [⟨call, served.answer⟩], desk⟩
  | .change change =>
    { chronicle with desk := { chronicle.desk with outer := change chronicle.desk.outer } }

def recordAll (world : World σ) (events : List (DeskEvent σ)) (chronicle : Chronicle σ) :
    Chronicle σ :=
  events.foldl (record world) chronicle

variable {world : World σ}

theorem agrees_record {chronicle : Chronicle σ}
    (h : chronicle.history.Agrees chronicle.desk.waiting) (event : DeskEvent σ) :
    (chronicle.record world event).history.Agrees (chronicle.record world event).desk.waiting := by
  cases event with
  | call time call => exact h.move (Desk.serve_moves world (chronicle.desk.setClock time) call)
  | change change => exact h

theorem agrees_recordAll {chronicle : Chronicle σ}
    (h : chronicle.history.Agrees chronicle.desk.waiting) (events : List (DeskEvent σ)) :
    (chronicle.recordAll world events).history.Agrees
      (chronicle.recordAll world events).desk.waiting := by
  induction events generalizing chronicle with
  | nil => exact h
  | cons event rest ih => exact ih (agrees_record h event)

/-- The desk has custody of the passes that were put off: none is lost, and none is run twice. -/
structure Custody (world : World σ) (chronicle : Chronicle σ) : Prop where
  /-- Nothing is taken up exactly when nothing was put off that still waits. -/
  nothing_iff : ∀ time emailId body htmlBody,
    (Desk.processLoaded world emailId body htmlBody (chronicle.desk.setClock time)).1 = .ok none ↔
      ¬ chronicle.history.Awaits emailId
  /-- What is taken up is one pass, on what was known when it was last put off, and the new body. -/
  once : ∀ time emailId body htmlBody outcome after,
    Desk.processLoaded world emailId body htmlBody (chronicle.desk.setClock time) =
      (.ok (some outcome), after) →
    ∃ parked context loaded rules outer,
      (chronicle.history.LastParked emailId parked ∧ parked.Prepares context) ∧
      (context.load body htmlBody = .ok loaded ∧ loaded.email = context.email.load body htmlBody) ∧
      world.enabledRules chronicle.desk.outer = (.ok rules, outer) ∧
      let passed := world.pass rules loaded (chronicle.desk.setClock time).supply outer
      outcome = passed.1.outcome ∧
        after = ⟨chronicle.desk.waiting.drop emailId, passed.2.1, passed.2.2⟩
  count : {emailId | chronicle.history.Awaits emailId}.encard = chronicle.desk.waiting.length
  /-- To put a pass off takes a look at the rules and nothing else, and is not seen under another
  identifier. -/
  deferring : ∀ time email score links outcome after,
    Desk.processEmail world email score links (chronicle.desk.setClock time) =
      (.ok outcome, after) →
    outcome.report.deferred = true →
      outcome = .putOff ∧ after.outer = (world.enabledRules chronicle.desk.outer).2 ∧
        ∀ emailId, emailId ≠ email.id → after.waiting.find? emailId =
          chronicle.desk.waiting.find? emailId
  loadedSkipsNone : ∀ time emailId body htmlBody outcome after,
    Desk.processLoaded world emailId body htmlBody (chronicle.desk.setClock time) =
      (.ok (some outcome), after) →
      outcome.SkipsNone
  emailSkipsNone : ∀ time email score links outcome after,
    Desk.processEmail world email score links (chronicle.desk.setClock time) =
      (.ok outcome, after) →
      outcome.SkipsNone

theorem Custody.of_agrees {chronicle : Chronicle σ}
    (h : chronicle.history.Agrees chronicle.desk.waiting) :
    Custody world chronicle := by
  constructor
  · intro time emailId body htmlBody
    rw [← h.find?_eq_none_iff]
    exact Desk.processLoaded_eq_none_iff world (chronicle.desk.setClock time)
  · intro time emailId body htmlBody outcome after hloaded
    cases hfind : chronicle.desk.waiting.find? emailId with
    | none =>
      rw [Desk.processLoaded,
        show (chronicle.desk.setClock time).waiting.find? emailId = none from hfind] at hloaded
      exact nomatch hloaded
    | some context =>
      obtain ⟨parked, hparked, hprepares⟩ := h.prepared emailId context hfind
      obtain ⟨loaded, rules, outer, hload, hrules, houtcome, hafter⟩ :=
        Desk.processLoaded_of_find? world (chronicle.desk.setClock time) hfind hloaded
      exact ⟨parked, context, loaded, rules, outer, ⟨hparked, hprepares⟩,
        ⟨hload, Context.email_of_load hload⟩, hrules, Option.some.inj houtcome, hafter⟩
  · exact h.encard_awaits
  · intro time email score links outcome after hprocess hdeferred
    rcases Desk.processEmail_cases world (chronicle.desk.setClock time) email score links with
      ⟨fault, outer, hcase⟩ | ⟨context, hprepare, hcase | ⟨rules, outer, hready, hcase⟩⟩
    · exact nomatch hcase.symm.trans hprocess
    · cases hcase.symm.trans hprocess
      refine ⟨rfl, rfl, ?_⟩
      intro emailId hne
      exact Keyed.find?_put_of_ne hne context chronicle.desk.waiting
    · cases hcase.symm.trans hprocess
      exact nomatch hdeferred
  · intro time emailId body htmlBody outcome after hloaded
    exact Desk.skipsNone_processLoaded hloaded
  · intro time email score links outcome after hprocess
    exact Desk.skipsNone_processEmail hprocess

/-- After any calls, at any readings of the clock and whatever changes outside between them, the
desk has custody of the passes that were put off. -/
theorem custody_recordAll (world : World σ) (supply : Supply) (outer : σ)
    (events : List (DeskEvent σ)) :
    Custody world (recordAll world events { desk := { supply := supply, outer := outer } }) := by
  apply Custody.of_agrees
  apply agrees_recordAll
  exact .nil

end Chronicle

end MailTriage

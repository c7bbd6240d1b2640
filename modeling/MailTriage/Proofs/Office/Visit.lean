import MailTriage.Proofs.Form.Gather
import MailTriage.Proofs.Office.Simulation
import MailTriage.Proofs.Store.Processed

/-!
# Visits

A round visits the listed messages one by one. What it does there is put on record: the messages
that it fetches, with or without success, the requests of its passes, the passes, and the marks of
emails that are done with. Every visit that comes to an end is of one of four kinds, and only the
last runs a pass: the message is done with already, its headers cannot be fetched, its body is
needed and cannot be fetched, or there is one pass, for an email that was not done with, and then
its mark. No visit leaves a context waiting.

A visit that is broken off has fetched something at most, unless the store has failed.
-/

namespace MailTriage

open Form

variable {α β σ : Type}

/-- Something that a round does, as far as it is put on record. -/
inductive Event
  | fetched (emailId format : String) (found : Bool)
  | asked (request : Request)
  | passed (entry : LogEntry)
  | finished (emailId : String)

/-- Whether something can be used as a message. -/
def isFound (answer : Option Value) : Bool := answer.any fun message => !message.isVoid

def Intake.recorded (intake : Intake σ) : Intake (σ × List Event) where
  world := intake.world.recorded Event.asked Event.passed
  service request outer :=
    match request with
    | .get emailId format =>
      let answer := intake.service (.get emailId format) outer.1
      (answer.1, (answer.2, outer.2 ++ [.fetched emailId format (isFound answer.1)]))
    | request => beside (intake.service request) outer
  isProcessed emailId := beside (intake.isProcessed emailId)
  score address := beside (intake.score address)
  finish emailId rulesFired := recording (.finished emailId) (intake.finish emailId rulesFired)

theorem Intake.recorded_world (intake : Intake σ) :
    intake.recorded.world = intake.world.recorded Event.asked Event.passed := rfl

theorem Intake.recorded_mirrors (intake : Intake σ) :
    Intake.Mirrors OnRecord intake.recorded intake where
  world := World.recorded_mirrors Event.asked Event.passed
  service := ⟨by rintro s _ rfl request hread; cases request <;> exact ⟨rfl, rfl⟩⟩
  isProcessed := by rintro s _ rfl emailId; exact ⟨rfl, rfl⟩
  score := by rintro s _ rfl address; exact ⟨rfl, rfl⟩
  finish := by rintro s _ rfl emailId rulesFired; exact ⟨rfl, rfl⟩

/-- An intake that keeps a record of the emails that are done with, and changes it by marking them
only. -/
structure Intake.Records (Done : Set String → σ → Prop) (intake : Intake σ) : Prop where
  world : ∀ done, intake.world.Keeps (Done done)
  service : ∀ {done s}, Done done s → ∀ request : MailRequest, request.IsRead →
    Done done (intake.service request s).2
  isProcessed : ∀ {done s}, Done done s → ∀ emailId, Done done (intake.isProcessed emailId s).2
  isProcessed_iff : ∀ {done s}, Done done s → ∀ {emailId answer},
    (intake.isProcessed emailId s).1 = .ok answer → (answer = true ↔ emailId ∈ done)
  score : ∀ {done s}, Done done s → ∀ address, Done done (intake.score address s).2
  finish : ∀ {done s}, Done done s → ∀ {emailId rulesFired},
    (intake.finish emailId rulesFired s).1 = .ok () →
      Done (insert emailId done) (intake.finish emailId rulesFired s).2

/-- A message that is fetched is the one that was asked for. -/
def MailService.Faithful (service : MailService σ) : Prop :=
  ∀ emailId format s message,
    (service (.get emailId format) s).1 = some message → message.isVoid = false →
    Resource.require "id" message = .ok (.text emailId)

/-! ## What is on record -/

/-- What is on record of a visit, and which emails are done with before and after it. -/
inductive Visited (done : Set String) : List Event → Set String → Prop
  | skipped {emailId : String} (hdone : emailId ∈ done) : Visited done [] done
  | unfetched {emailId : String} (hnew : emailId ∉ done) :
      Visited done [.fetched emailId "metadata" false] done
  | unloaded {emailId : String} (hnew : emailId ∉ done) :
      Visited done [.fetched emailId "metadata" true, .fetched emailId "full" false] done
  | passed {emailId : String} (hnew : emailId ∉ done) (loads : List Event)
      (hloads : loads = [] ∨ loads = [.fetched emailId "full" true]) (requests : List Request)
      {entry : LogEntry} (hentry : entry.emailId = emailId) :
      Visited done
        ([.fetched emailId "metadata" true] ++ loads ++ requests.map .asked ++
          [.passed entry, .finished emailId])
        (insert emailId done)

/-- What is on record of visits one after another. -/
inductive Trace : Set String → List Event → Set String → Prop
  | none (done : Set String) : Trace done [] done
  | visit {done between after : Set String} {first rest : List Event}
    (hfirst : Visited done first between)
      (hrest : Trace between rest after) : Trace done (first ++ rest) after

theorem Visited.trace {done after : Set String} {events : List Event}
    (h : Visited done events after) :
    Trace done events after := by
  have htrace := Trace.visit h (.none after)
  rwa [List.append_nil] at htrace

theorem Trace.append {done between after : Set String} {first rest : List Event}
    (hfirst : Trace done first between) (hrest : Trace between rest after) :
    Trace done (first ++ rest) after := by
  induction hfirst with
  | none => exact hrest
  | visit hvisited _ ih =>
    rw [List.append_assoc]
    exact .visit hvisited (ih hrest)

/-- Something that changes nothing: a message is fetched, or not. -/
def Event.IsFetch : Event → Prop
  | .fetched .. => True
  | _ => False

/-! ## Steps of a visit -/

theorem Email.id_of_read {form : Fields} {supply : Supply} {email : Email} {emailId : String}
    (hid : form.get? "id" = some (.text emailId))
    (h : (Email.read (.object form) supply).1 = .ok email) :
    email.id = emailId := by
  have hfield : required ["id"] text form = pure emailId :=
    field_eq_pure hid (show text (.text emailId) = pure emailId from rfl) [] _
  unfold Email.read record at h
  dsimp only at h
  rw [hfield] at h
  iterate 11 obtain ⟨_, _, h, -, _⟩ := Gather.parts_of_seq_eq_ok h
  obtain ⟨_, hread, _⟩ := Gather.part_of_map_eq_ok h
  subst_vars
  exact Gather.eq_of_pure_eq_ok hread

theorem Message.id_of_email {message : Value} {contentLoaded : Bool} {email : Email}
    {emailId : String} (hid : Resource.require "id" message = .ok (.text emailId))
    (h : Message.email message contentLoaded = .ok email) : email.id = emailId := by
  unfold Message.email at h
  cases hform : Message.form message contentLoaded with
  | error fault =>
    rw [hform] at h
    exact nomatch h
  | ok form =>
    rw [hform] at h
    dsimp only at h
    split at h
    · next hread =>
      cases h
      refine Email.id_of_read ?_ hread
      unfold Message.form at hform
      obtain ⟨fields, -, hform⟩ := exists_of_bind_eq_ok hform
      obtain ⟨payload, -, hform⟩ := exists_of_bind_eq_ok hform
      obtain ⟨headers, -, hform⟩ := exists_of_bind_eq_ok hform
      obtain ⟨bodies, -, hform⟩ := exists_of_bind_eq_ok hform
      obtain ⟨id, hsame, hform⟩ := exists_of_bind_eq_ok hform
      obtain rfl : Value.text emailId = id := Except.ok.inj (hid.symm.trans hsame)
      obtain ⟨date, -, hform⟩ := exists_of_bind_eq_ok hform
      obtain ⟨unread, -, hform⟩ := exists_of_bind_eq_ok hform
      cases hform
      rfl
    · exact nomatch h

/-- How things stand in a round: what waits at the desk, which emails are done with, and what is on
record. -/
structure Round.Stands (Done : Set String → σ → Prop) (waiting : Waiting) (done : Set String)
    (events : List Event) (round : Round (σ × List Event)) : Prop where
  waiting : round.desk.waiting = waiting
  done : Done done round.desk.outer.1
  events : round.desk.outer.2 = events

theorem Round.run_stored {τ : Type} (f : τ → Except Trouble α × τ) (round : Round τ) :
    (Round.stored f).run.run round =
      ((f round.desk.outer).1.mapError RoundFault.store,
        { round with desk := { round.desk with outer := (f round.desk.outer).2 } }) := by
  have houtside : (Round.outside f).run.run round = (.ok (f round.desk.outer).1,
      { round with desk := { round.desk with outer := (f round.desk.outer).2 } }) := rfl
  rw [Round.stored, run_bind_eq, houtside]
  dsimp only
  cases (f round.desk.outer).1 <;> rfl

theorem Round.run_lookInto {τ : Type} (answer : Except ResourceFault α) (round : Round τ) :
    (Round.lookInto answer).run.run round = (answer.mapError RoundFault.resource, round) := by
  cases answer <;> rfl

theorem Round.run_report {τ : Type} (emailId : String) (email : Email) (report : PassReport)
    (round : Round τ) :
    ∃ notices, (Round.report emailId email report).run.run round =
      (.ok (), { round with notices := notices }) := by
  unfold Round.report
  rw [run_bind_eq]
  cases report.navigation <;> exact ⟨_, rfl⟩

/-- How the pass of an email ends at a desk at which nothing waits. -/
inductive EmailEnds (Done : Set String → σ → Prop) (done : Set String) (events : List Event)
    (emailId : String) :
    Except RoundFault (Option PassReport) × Round (σ × List Event) → Prop
  | passed (report : PassReport) {round : Round (σ × List Event)} (loads : List Event)
      (hloads : loads = [] ∨ loads = [.fetched emailId "full" true]) (requests : List Request)
      {entry : LogEntry} (hentry : entry.emailId = emailId)
      (hround : round.Stands Done [] done (events ++ loads ++ requests.map .asked ++
        [.passed entry])) :
      EmailEnds Done done events emailId (.ok (some report), round)
  | unloaded {round : Round (σ × List Event)}
      (hround : round.Stands Done [] done (events ++ [.fetched emailId "full" false])) :
      EmailEnds Done done events emailId (.ok none, round)
  /-- The store has failed. -/
  | failed (trouble : Trouble) (round : Round (σ × List Event)) :
      EmailEnds Done done events emailId (.error (.store trouble), round)
  | broken (fault : RoundFault) {round : Round (σ × List Event)} {fetches : List Event}
      (hfetches : ∀ event ∈ fetches, event.IsFetch) (hdone : Done done round.desk.outer.1)
      (hevents : round.desk.outer.2 = events ++ fetches) :
      EmailEnds Done done events emailId (.error fault, round)

/-- How steps of a round end that begin with given emails done with and given events on record. -/
inductive RoundEnds (Done : Set String → σ → Prop) (done : Set String) (events : List Event) :
    Except RoundFault α × Round (σ × List Event) → Prop
  | ended (a : α) {round : Round (σ × List Event)} {trace : List Event} {after : Set String}
      (htrace : Trace done trace after) (hround : round.Stands Done [] after (events ++ trace)) :
      RoundEnds Done done events (.ok a, round)
  /-- The store has failed. -/
  | failed (trouble : Trouble) (round : Round (σ × List Event)) :
      RoundEnds Done done events (.error (.store trouble), round)
  | broken (fault : RoundFault) {round : Round (σ × List Event)} {trace fetches : List Event}
      {after : Set String} (htrace : Trace done trace after)
        (hfetches : ∀ event ∈ fetches, event.IsFetch)
      (hdone : Done after round.desk.outer.1)
        (hevents : round.desk.outer.2 = events ++ (trace ++ fetches)) :
      RoundEnds Done done events (.error fault, round)

namespace RoundEnds

variable {Done : Set String → σ → Prop} {done : Set String} {events : List Event}
  {round : Round (σ × List Event)}

theorem broken_at {waiting : Waiting} (hround : round.Stands Done waiting done events)
    (fault : RoundFault) :
    RoundEnds Done done events
      ((.error fault, round) : Except RoundFault α × Round (σ × List Event)) := by
  have hevents : round.desk.outer.2 = events ++ ([] ++ []) := by
    rw [hround.events, List.append_nil, List.append_nil]
  exact .broken fault (.none done) (by simp) hround.done hevents

theorem pure (hround : round.Stands Done [] done events) (a : α) :
    RoundEnds Done done events ((Pure.pure a : RoundStep (σ × List Event) α).run.run round) :=
  .ended a (.none done) ⟨hround.waiting, hround.done, by rw [hround.events, List.append_nil]⟩

theorem note (hround : round.Stands Done [] done events) (notice : Notice) :
    RoundEnds Done done events ((Round.note notice).run.run round) :=
  .ended () (.none done) ⟨hround.waiting, hround.done, by rw [List.append_nil]; exact hround.events⟩

theorem lookInto (hround : round.Stands Done [] done events) (answer : Except ResourceFault α) :
    RoundEnds Done done events ((Round.lookInto answer).run.run round) := by
  cases answer with
  | error fault => exact broken_at hround (.resource fault)
  | ok a => exact pure hround a

theorem outside (hround : round.Stands Done [] done events)
    {f : σ × List Event → α × (σ × List Event)} (hdone : Done done (f round.desk.outer).2.1)
    (hevents : (f round.desk.outer).2.2 = events) :
    RoundEnds Done done events ((Round.outside f).run.run round) :=
  .ended _ (.none done) ⟨hround.waiting, hdone, by rw [List.append_nil]; exact hevents⟩

/-- Steps one after another: the second begins with what the first has left. -/
theorem bind {step : RoundStep (σ × List Event) α} {next : α → RoundStep (σ × List Event) β}
    (hstep : RoundEnds Done done events (step.run.run round))
    (hnext : ∀ a after between sofar, Round.Stands Done [] between sofar after →
      RoundEnds Done between sofar ((next a).run.run after)) :
    RoundEnds Done done events ((step >>= next).run.run round) := by
  rw [run_bind_eq]
  generalize step.run.run round = ended at hstep ⊢
  cases hstep with
  | failed trouble after => exact .failed trouble after
  | broken fault htrace hfetches hdone hevents => exact .broken fault htrace hfetches hdone hevents
  | @ended a after trace between htrace hafter =>
    have hrest := hnext a after between _ hafter
    dsimp only
    generalize (next a).run.run after = ended at hrest ⊢
    cases hrest with
    | ended b hrest hround => exact .ended b (htrace.append hrest) (by rwa [← List.append_assoc])
    | failed trouble round => exact .failed trouble round
    | broken fault hrest hfetches hdone hevents =>
      exact .broken fault (htrace.append hrest) hfetches hdone
        (by simpa only [List.append_assoc] using hevents)

end RoundEnds

section

variable {Done : Set String → σ → Prop} {intake : Intake σ} (h : intake.Records Done)
  (hfaithful : intake.service.Faithful) {done : Set String} {events : List Event}
    {waiting : Waiting}
  {round : Round (σ × List Event)}

include h hfaithful

theorem Round.fetch_stands (hround : round.Stands Done waiting done events)
    (emailId format : String) :
    ∃ answer after, (Round.fetch intake.recorded emailId format).run.run round =
      (.ok answer, after) ∧
      after.Stands Done waiting done (events ++ [.fetched emailId format answer.isSome]) ∧
      ∀ message, answer = some message → Resource.require "id" message = .ok (.text emailId) := by
  let fetched := intake.service (.get emailId format) round.desk.outer.1
  refine ⟨fetched.1.filter fun message => !message.isVoid, _, rfl, ⟨hround.waiting, ?_, ?_⟩, ?_⟩
  · exact h.service hround.done (.get emailId format) trivial
  · change round.desk.outer.2 ++ [.fetched emailId format (isFound fetched.1)] = _
    rw [hround.events, isFound]
    cases fetched.1 with
    | none => rfl
    | some message => cases hvoid : message.isVoid <;> simp [Option.filter, hvoid]
  · intro message hmessage
    obtain ⟨hsome, hfull⟩ := Option.filter_eq_some_iff.mp hmessage
    exact hfaithful emailId format _ message hsome (by simpa using hfull)

/-- The pass whose context waits is run once the body has been fetched, or given up when it cannot
be. -/
theorem Round.load_ends {emailId : String} {context : Context} (hemail : context.email.id = emailId)
    (hround : round.Stands Done [(emailId, context)] done events) :
    EmailEnds Done done events emailId ((do
      match ← Round.fetch intake.recorded emailId "full" with
      | none =>
        Round.atDesk fun desk => (.ok (), desk.clear emailId)
        return none
      | some message =>
        let loaded ← Round.lookInto (Message.email message true)
        match ← Round.atDesk (Desk.processLoaded intake.recorded.world emailId (loaded.body.getD "")
            loaded.htmlBody) with
        | some outcome => return some outcome.report
        | none => throw (.resource .noMembers) : RoundStep _ _).run.run round) := by
  obtain ⟨answer, fetched, hfetch, hstands, -⟩ :=
    Round.fetch_stands h hfaithful hround emailId "full"
  rw [run_bind_eq, hfetch]
  dsimp only
  have hdrop : Keyed.drop emailId [(emailId, context)] = [] := by simp [Keyed.drop]
  cases answer with
  | none =>
    -- without its body the email is given up, so nothing waits any more
    rw [run_bind_eq, Round.run_atDesk]
    refine .unloaded ⟨?_, hstands.done, hstands.events⟩
    change Keyed.drop emailId fetched.desk.waiting = []
    rw [hstands.waiting, hdrop]
  | some message =>
    dsimp only
    rw [run_bind_eq, Round.run_lookInto]
    cases Message.email message true with
    | error fault =>
      exact .broken (.resource fault) (by simp [Event.IsFetch]) hstands.done hstands.events
    | ok loaded =>
      dsimp only [Except.mapError]
      rw [run_bind_eq, Round.run_atDesk, Intake.recorded_world]
      have hfind : fetched.desk.waiting.find? emailId = some context := by
        rw [hstands.waiting]
        simp [Keyed.find?]
      rcases Desk.processLoaded_recorded Event.asked Event.passed (h.world done) fetched.desk
        hstands.done hfind
          (loaded.body.getD "") loaded.htmlBody with
        ⟨fault, after, hprocess, hidle⟩ | ⟨outcome, after, hprocess, hpassed⟩
      · rw [hprocess]
        exact .broken (.pass fault) (by simp [Event.IsFetch]) hidle.keeps
          (hidle.events.trans hstands.events)
      · rw [hprocess]
        obtain ⟨requests, entry, hentry, hevents⟩ := hpassed.events
        refine .passed outcome.report _ (.inr rfl) requests (hentry.trans hemail)
          ⟨?_, hpassed.keeps, ?_⟩
        · rw [hpassed.waiting, hstands.waiting, hdrop]
        · rw [hevents, hstands.events]
          rfl

theorem Round.pass_ends {emailId : String} {email : Email} (hemail : email.id = emailId)
    (hround : round.Stands Done [] done events) :
    EmailEnds Done done events emailId
      ((Round.pass intake.recorded emailId email).run.run round) := by
  unfold Round.pass
  rw [run_bind_eq, Round.run_stored]
  have hscored := h.score hround.done (Sender.ofHeader email.fromHeader).email
  cases hscore :
      (intake.recorded.score (Sender.ofHeader email.fromHeader).email round.desk.outer).1 with
  | error trouble => exact .failed trouble _
  | ok score =>
    let scored : Round (σ × List Event) := { round with desk := { round.desk with
      outer :=
        (intake.recorded.score (Sender.ofHeader email.fromHeader).email round.desk.outer).2 } }
    have hstands : scored.Stands Done [] done events := ⟨hround.waiting, hscored, hround.events⟩
    dsimp only [Except.mapError]
    rw [run_bind_eq, Round.run_atDesk, Intake.recorded_world]
    rcases Desk.processEmail_recorded Event.asked Event.passed (h.world done) scored.desk hscored
      email score none with
      ⟨fault, after, hprocess, hidle⟩ | ⟨outcome, context, after, hprocess, hdeferred,
        hcontext, hidle⟩ |
        ⟨outcome, after, hprocess, hdeferred, hpassed⟩
    · rw [hprocess]
      have hevents : after.outer.2 = events ++ [] := by
        rw [hidle.events, hstands.events, List.append_nil]
      exact .broken (.pass fault) (by simp) hidle.keeps hevents
    · rw [hprocess]
      dsimp only [Except.mapError]
      rw [hdeferred]
      refine Round.load_ends h hfaithful (hcontext ▸ hemail)
        ⟨?_, hidle.keeps, hidle.events.trans hstands.events⟩
      rw [hidle.waiting, hstands.waiting, hemail]
      rfl
    · rw [hprocess]
      dsimp only [Except.mapError]
      rw [hdeferred]
      obtain ⟨requests, entry, hentry, hevents⟩ := hpassed.events
      refine .passed outcome.report [] (.inl rfl) requests (hentry.trans hemail)
        ⟨?_, hpassed.keeps, ?_⟩
      · exact hpassed.waiting.trans hstands.waiting
      · rw [hevents, hstands.events, List.append_nil]

theorem Round.take_ends {emailId : String} (hnew : emailId ∉ done)
    (hround : round.Stands Done [] done events) :
    RoundEnds Done done events ((Round.take intake.recorded emailId).run.run round) := by
  unfold Round.take
  obtain ⟨answer, fetched, hfetch, hstands, hid⟩ :=
    Round.fetch_stands h hfaithful hround emailId "metadata"
  rw [run_bind_eq, hfetch]
  dsimp only
  cases answer with
  | none =>
    exact .ended false (Visited.unfetched hnew).trace
      ⟨hstands.waiting, hstands.done, hstands.events⟩
  | some message =>
    dsimp only
    rw [run_bind_eq, Round.run_lookInto]
    cases hemail : Message.email message false with
    | error fault =>
      exact .broken (.resource fault) (.none done)
        (by simp [Event.IsFetch]) hstands.done hstands.events
    | ok email =>
      have hpass :=
        Round.pass_ends h hfaithful (Message.id_of_email (hid message rfl) hemail) hstands
      dsimp only [Except.mapError]
      rw [run_bind_eq]
      generalize (Round.pass intake.recorded emailId email).run.run fetched = passed at hpass ⊢
      cases hpass with
      | @passed report after loads hloads requests entry hentry hafter =>
        obtain ⟨notices, hreport⟩ := Round.run_report emailId email report after
        dsimp only
        rw [run_bind_eq, hreport]
        dsimp only
        rw [run_bind_eq, Round.run_stored]
        have hfinish := @h.finish done after.desk.outer.1 hafter.done emailId report.rulesFired
        cases hmarked : (intake.recorded.finish emailId report.rulesFired after.desk.outer).1 with
        | error trouble => exact .failed trouble _
        | ok _ =>
          refine .ended true (Visited.passed hnew loads hloads requests hentry).trace
            ⟨hafter.waiting, hfinish hmarked, ?_⟩
          change after.desk.outer.2 ++ [.finished emailId] = _
          rw [hafter.events]
          simp
      | unloaded hafter =>
        refine .ended false (Visited.unloaded hnew).trace ⟨hafter.waiting, hafter.done, ?_⟩
        exact hafter.events.trans (List.append_assoc ..)
      | failed trouble after => exact .failed trouble after
      | broken fault hfetches hdone hevents =>
        refine .broken fault (.none done) ?_ hdone (hevents.trans (List.append_assoc ..))
        simpa [Event.IsFetch] using hfetches

theorem Round.visit_ends (hround : round.Stands Done [] done events) (listed : Value) :
    RoundEnds Done done events ((Round.visit intake.recorded listed).run.run round) := by
  refine (RoundEnds.lookInto hround (Round.idOf listed)).bind
    fun emailId round done events hround => ?_
  rw [run_bind_eq, Round.run_stored]
  have hlooked := h.isProcessed hround.done emailId
  cases hanswer : (intake.recorded.isProcessed emailId round.desk.outer).1 with
  | error trouble => exact .failed trouble _
  | ok answer =>
    have hiff := h.isProcessed_iff hround.done hanswer
    cases answer with
    | true =>
      exact .ended false (Visited.skipped (hiff.mp rfl)).trace
        ⟨hround.waiting, hlooked, by rw [List.append_nil]; exact hround.events⟩
    | false =>
      exact Round.take_ends h hfaithful (hiff.not.mp Bool.false_ne_true)
        ⟨hround.waiting, hlooked, hround.events⟩

theorem Round.visitAll_ends (hround : round.Stands Done [] done events) (listed : List Value) :
    RoundEnds Done done events ((Round.visitAll intake.recorded listed).run.run round) := by
  induction listed generalizing done events round with
  | nil => exact .pure hround 0
  | cons first rest ih =>
    exact (Round.visit_ends h hfaithful hround first).bind fun _ _ _ _ hround =>
      (ih hround).bind fun _ _ _ _ hround => .pure hround _

omit hfaithful in
theorem Intake.Records.listing (done : Set String) (events : List Event) :
    MailService.Mirrors MailRequest.IsListing (fun s t => s = t ∧ Done done s.1 ∧ s.2 = events)
      intake.recorded.service intake.recorded.service where
  answer := by
    rintro s _ ⟨rfl, hs, hevents⟩ request hlisting
    have hkept := h.service hs request (by cases request <;> trivial)
    cases request with
    | profile | list _ _ _ => exact ⟨rfl, rfl, hkept, hevents⟩
    | get _ _ | addLabel _ _ | removeUnread _ | trash _ | labels | createLabel _ =>
      exact hlisting.elim

theorem Round.run_ends (hround : round.Stands Done [] done events) (pages : Nat)
    (maxEmails days : Option Int) :
    RoundEnds Done done events
      ((Round.run intake.recorded pages maxEmails days).run.run round) := by
  obtain ⟨-, -, hdone, hevents⟩ :=
    (h.listing done events).userEmail ⟨rfl, hround.done, hround.events⟩
  refine (RoundEnds.outside hround hdone hevents).bind fun user _ _ _ hround => ?_
  split
  · exact .note hround _
  · refine (RoundEnds.note hround _).bind fun _ _ _ _ hround => ?_
    refine (RoundEnds.note hround _).bind fun _ _ done events hround => ?_
    obtain ⟨-, -, hdone, hevents⟩ := (h.listing done events).listFrom (some (Round.query days))
      maxEmails pages []
      .null ⟨rfl, hround.done, hround.events⟩
    refine (RoundEnds.outside hround hdone hevents).bind fun answer _ _ _ hround => ?_
    refine (RoundEnds.lookInto hround answer).bind fun listed _ _ _ hround => ?_
    refine (RoundEnds.note hround _).bind fun _ _ _ _ hround => ?_
    exact (Round.visitAll_ends h hfaithful hround listed).bind fun _ _ _ _ hround => .note hround _

end

end MailTriage

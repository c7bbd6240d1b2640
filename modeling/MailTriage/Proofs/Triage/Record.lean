import MailTriage.Proofs.Outcome
import MailTriage.Proofs.Triage.Simulation

/-!
# Passes on record

A world can keep a record of the requests that are made to its host and of the passes that are run
in it. Keeping the record changes nothing else. A pass adds its requests and then itself, under the
entry that it would have in a log, whether or not there is one. A desk that is asked for a pass runs
one, which gets onto the record, or fails or puts the pass off, and then there is nothing to record.
-/

namespace MailTriage

variable {α κ σ : Type}

def beside (step : σ → α × σ) (outer : σ × κ) : α × (σ × κ) :=
  ((step outer.1).1, ((step outer.1).2, outer.2))

def recording (item : κ) (step : σ → α × σ) (outer : σ × List κ) : α × (σ × List κ) :=
  beside step (outer.1, outer.2 ++ [item])

def World.recorded (asked : Request → κ) (passed : LogEntry → κ) (world : World σ) :
    World (σ × List κ) where
  perform request := recording (asked request) (world.perform request)
  evaluate run := beside (world.evaluate run)
  enabledRules := beside world.enabledRules
  recordFire ruleId timestamp := beside (world.recordFire ruleId timestamp)
  settings outer := (.ok { debugMode := true }, outer)
  append :=
    some fun entry => recording (passed entry) fun outer => (.ok (), world.publish entry outer)

/-- A state with a record beside the state without it. -/
def OnRecord (recorded : σ × κ) (state : σ) : Prop := recorded.1 = state

namespace World

variable {world : World σ}

variable (asked : Request → κ) (passed : LogEntry → κ)

theorem recorded_mirrors : Mirrors OnRecord (world.recorded asked passed) world where
  surroundings :=
    { perform := by rintro s _ rfl request; exact ⟨rfl, rfl⟩
      evaluate := by rintro s _ rfl run; exact ⟨rfl, rfl⟩ }
  enabledRules := by rintro s _ rfl; exact ⟨rfl, rfl⟩
  recordFire := by rintro s _ rfl ruleId timestamp; rfl
  publish := by rintro s _ rfl entry; rfl

/-- Between passes on record and themselves: the record has grown by requests, and what the world
keeps holds. -/
structure Asking (asked : Request → κ) (I : σ → Prop) (before : List κ) (outer other : σ × List κ) :
    Prop where
  same : outer = other
  keeps : I outer.1
  grown : ∃ requests : List Request, outer.2 = before ++ requests.map asked

theorem Keeps.actsAlike {I : σ → Prop} (h : world.Keeps I) (before : List κ) (timestamp : Int) :
    ActsAlike (Asking asked I before) timestamp (world.recorded asked passed)
      (world.recorded asked passed) where
  surroundings :=
    { perform := by
        rintro s _ ⟨rfl, hs, requests, hgrown⟩ request
        refine ⟨rfl, rfl, h.perform hs request, requests ++ [request], ?_⟩
        change s.2 ++ [asked request] = _
        rw [hgrown, List.append_assoc, List.map_append, List.map_singleton]
      evaluate := by
        rintro s _ ⟨rfl, hs, hgrown⟩ run
        exact ⟨rfl, rfl, h.evaluate hs run, hgrown⟩ }
  recordFire := by
    rintro s _ ⟨rfl, hs, hgrown⟩ ruleId
    exact ⟨rfl, h.recordFire hs ruleId timestamp, hgrown⟩

theorem Keeps.pass_recorded {I : σ → Prop} (h : world.Keeps I) (rules : List Rule)
    (context : Context) (supply : Supply) {outer : σ × List κ} (houter : I outer.1) :
    ∃ (requests : List Request) (entry : LogEntry),
      ((world.recorded asked passed).pass rules context supply outer).1.outcome.entry = some entry ∧
      entry.emailId = context.email.id ∧
      I ((world.recorded asked passed).pass rules context supply outer).2.2.1 ∧
      ((world.recorded asked passed).pass rules context supply outer).2.2.2 =
        outer.2 ++ requests.map asked ++ [passed entry] := by
  have hstart : Asking asked I outer.2 outer outer := ⟨rfl, houter, [], by simp⟩
  have hruns := (h.actsAlike asked passed outer.2 supply.now).runRules rules context
    { bindings := context.bindings } hstart
  obtain ⟨-, hkeeps, requests, hgrown⟩ := hruns.2.2
  exact ⟨requests, _, rfl, rfl, h.publish hkeeps _, congrArg (· ++ [passed _]) hgrown⟩

end World

/-! ## Desks on record -/

theorem Context.email_of_prepare {email : Email} {score : Option Binary64}
    {links : Option (List Link)} {bindings : Fields} {context : Context}
    (h : Context.prepare email score links bindings = .ok context) :
    context.email = email := by
  cases links with
  | some links =>
    cases h
    rfl
  | none =>
    obtain ⟨links, -, hcontext⟩ := exists_of_bind_eq_ok h
    cases hcontext
    rfl

theorem Context.emailId_of_load {context loaded : Context} {body : String}
    {htmlBody : Option String} (h : context.load body htmlBody = .ok loaded) :
    loaded.email.id = context.email.id := by
  unfold load at h
  dsimp only at h
  split at h <;> obtain ⟨links, -, hloaded⟩ := exists_of_bind_eq_ok h <;> cases hloaded <;> rfl

namespace Desk

variable (asked : Request → κ) (passed : LogEntry → κ)

/-- A desk after one pass for an email, with these contexts waiting. -/
structure Passed (I : σ → Prop) (emailId : String) (waiting : Waiting)
    (desk after : Desk (σ × List κ)) :
    Prop where
  waiting : after.waiting = waiting
  keeps : I after.outer.1
  events : ∃ (requests : List Request) (entry : LogEntry), entry.emailId = emailId ∧
    after.outer.2 = desk.outer.2 ++ requests.map asked ++ [passed entry]

/-- A desk after no pass, with these contexts waiting. -/
structure Idle (I : σ → Prop) (waiting : Waiting) (desk after : Desk (σ × List κ)) : Prop where
  waiting : after.waiting = waiting
  keeps : I after.outer.1
  events : after.outer.2 = desk.outer.2

variable {I : σ → Prop} {world : World σ} (h : world.Keeps I) (desk : Desk (σ × List κ))
  (hdesk : I desk.outer.1)

include h hdesk

theorem run_recorded (rules : List Rule) (context : Context) :
    Passed asked passed I context.email.id desk.waiting desk
      (run (world.recorded asked passed) rules context desk).2 := by
  obtain ⟨requests, entry, -, hentry, hkeeps, hevents⟩ :=
    h.pass_recorded asked passed rules context desk.supply hdesk
  exact ⟨rfl, hkeeps, requests, entry, hentry, hevents⟩

/-- A pass that is asked for is run, unless the rules cannot be had. -/
theorem process_recorded (context : Context) :
    (∃ fault after, process (world.recorded asked passed) context desk = (.error fault, after) ∧
      Idle I desk.waiting desk after) ∨
    ∃ passEnd after, process (world.recorded asked passed) context desk = (.ok passEnd, after) ∧
      Passed asked passed I context.email.id desk.waiting desk after := by
  have houter : I ((world.recorded asked passed).enabledRules desk.outer).2.1 :=
    h.enabledRules hdesk
  unfold process
  cases hrules : (world.recorded asked passed).enabledRules desk.outer with
  | mk answer outer =>
    have hevents : outer.2 = desk.outer.2 := (congrArg (fun result => result.2.2) hrules).symm
    rw [hrules] at houter
    cases answer with
    | error trouble => exact .inl ⟨_, _, rfl, rfl, houter, hevents⟩
    | ok rules =>
      obtain ⟨hwaiting, hkeeps, requests, entry, hentry, hgrown⟩ :=
        run_recorded asked passed h { desk with outer := outer } houter rules context
      exact .inr ⟨_, _, rfl, hwaiting, hkeeps, requests, entry, hentry, hevents ▸ hgrown⟩

/-- A pass for an email is run, put off, or not begun. -/
theorem processEmail_recorded (email : Email) (score : Option Binary64)
    (links : Option (List Link)) :
    (∃ fault after,
      processEmail (world.recorded asked passed) email score links desk = (.error fault, after) ∧
      Idle I desk.waiting desk after) ∨
    (∃ outcome context after,
      processEmail (world.recorded asked passed) email score links desk = (.ok outcome, after) ∧
      outcome.report.deferred = true ∧ context.email = email ∧
      Idle I (desk.waiting.put email.id context) desk after) ∨
    ∃ outcome after, processEmail (world.recorded asked passed) email score links desk =
      (.ok outcome, after) ∧
      outcome.report.deferred = false ∧ Passed asked passed I email.id desk.waiting desk after := by
  have houter : I ((world.recorded asked passed).enabledRules desk.outer).2.1 :=
    h.enabledRules hdesk
  unfold processEmail
  cases hcontext : Context.prepare email score links [] with
  | error fault => exact .inl ⟨_, _, rfl, rfl, hdesk, rfl⟩
  | ok context =>
    have hemail := Context.email_of_prepare hcontext
    dsimp only
    cases hrules : (world.recorded asked passed).enabledRules desk.outer with
    | mk answer outer =>
      have hevents : outer.2 = desk.outer.2 := (congrArg (fun result => result.2.2) hrules).symm
      rw [hrules] at houter
      cases answer with
      | error trouble => exact .inl ⟨_, _, rfl, rfl, houter, hevents⟩
      | ok rules =>
        dsimp only
        split
        · exact .inr (.inl ⟨_, context, _, rfl, rfl, hemail, rfl, houter, hevents⟩)
        · obtain ⟨hwaiting, hkeeps, requests, entry, hentry, hgrown⟩ :=
            run_recorded asked passed h { desk with outer := outer } houter rules context
          exact .inr (.inr ⟨_, _, rfl, rfl, hwaiting, hkeeps, requests, entry, hemail ▸ hentry,
            hevents ▸ hgrown⟩)

/-- A pass that waits for the body of an email is run, or fails, and waits no longer. -/
theorem processLoaded_recorded {emailId : String} {context : Context}
    (hwaiting : desk.waiting.find? emailId = some context) (body : String)
    (htmlBody : Option String) :
    (∃ fault after, processLoaded (world.recorded asked passed) emailId body htmlBody desk =
      (.error fault, after) ∧
      Idle I (desk.waiting.drop emailId) desk after) ∨
    ∃ outcome after,
      processLoaded (world.recorded asked passed) emailId body htmlBody desk =
        (.ok (some outcome), after) ∧
      Passed asked passed I context.email.id (desk.waiting.drop emailId) desk after := by
  unfold processLoaded
  rw [hwaiting]
  dsimp only
  cases hloaded : context.load body htmlBody with
  | error fault => exact .inl ⟨_, _, rfl, rfl, hdesk, rfl⟩
  | ok loaded =>
    have hemail := Context.emailId_of_load hloaded
    dsimp only
    rcases process_recorded asked passed h { desk with waiting := desk.waiting.drop emailId }
      hdesk loaded with
      ⟨fault, after, hprocess, hidle⟩ | ⟨passEnd, after, hprocess, hpassed⟩
    · rw [hprocess]
      exact .inl ⟨fault, after, rfl, hidle.waiting, hidle.keeps, hidle.events⟩
    · rw [hprocess]
      exact .inr ⟨passEnd.outcome, after, rfl, hpassed.waiting, hpassed.keeps,
        hemail ▸ hpassed.events⟩

end Desk

end MailTriage

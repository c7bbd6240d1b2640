import MailTriage.Office.World
import MailTriage.Proofs.Store.Firing
import MailTriage.Proofs.Triage.Simulation

/-!
# Stored rules and a copy in memory

A desk may use the rules of the store, read anew for each pass, or a copy of them in memory that
counts the firings itself. With one host and one engine of scripts, whatever these reply, the two
desks serve all calls alike, and list the same rules in the end, exactly when the copy can be stored
after every call. A counter or a time that has no place in its column stalls the session for good,
and only the copy goes on.
-/

namespace MailTriage

variable {σ τ : Type}

/-- A world with the stored rules beside a host and an engine of scripts. There is no log. -/
def World.inStore (surroundings : Surroundings σ) : World (Office σ) where
  perform request := Office.outside (surroundings.perform request)
  evaluate run := Office.outside (surroundings.evaluate run)
  enabledRules := Office.inStore Store.listEnabledRules
  recordFire ruleId timestamp := Office.inStore (Store.recordFire ruleId timestamp)
  settings := Office.inStore Store.settings

/-! ## Calls -/

theorem Desk.Related.serve {R : σ → τ → Prop} {world : World σ} {image : World τ} {desk : Desk σ}
    {other : Desk τ} (hdesk : Desk.Related R desk other)
    (h : World.MirrorsAt R desk.supply.now world image)
    (hrules : Alike R (world.enabledRules desk.outer) (image.enabledRules other.outer))
    (call : Call) :
    Alike (Desk.Related R) (Desk.serve world call desk) (Desk.serve image call other) := by
  cases call with
  | email email score links =>
    obtain ⟨answer, after, after', hx, hy, hafter⟩ :=
      (hdesk.processEmail h hrules email score links).exists_eq
    rw [Desk.serve, Desk.serve, hx, hy]
    exact ⟨rfl, hafter⟩
  | context context =>
    obtain ⟨answer, after, after', hx, hy, hafter⟩ := (hdesk.process h hrules context).exists_eq
    rw [Desk.serve, Desk.serve, hx, hy]
    exact ⟨rfl, hafter⟩
  | loaded emailId body htmlBody => exact hdesk.processLoaded h hrules emailId body htmlBody
  | clear emailId => exact ⟨rfl, hdesk.clear emailId⟩

theorem World.Keeps.serve {I : σ → Prop} {world : World σ} (h : world.Keeps I) {desk : Desk σ}
    (hdesk : I desk.outer) (call : Call) : I (Desk.serve world call desk).2.outer := by
  have hself : Desk.Related (fun outer other => outer = other ∧ I outer) desk desk :=
    ⟨rfl, rfl, rfl, hdesk⟩
  exact (hself.serve (h.mirrors.mirrorsAt _) (h.mirrors.enabledRules ⟨rfl, hdesk⟩) call).2.outer.2

theorem World.Keeps.serveAll {I : σ → Prop} {world : World σ} (h : world.Keeps I) {desk : Desk σ}
    (hdesk : I desk.outer) (calls : List (Int × Call)) :
    I (Desk.serveAll world calls desk).2.outer := by
  induction calls generalizing desk with
  | nil => exact hdesk
  | cons timed rest ih =>
    have hclock : I (desk.setClock timed.1).outer := hdesk
    exact ih (h.serve hclock timed.2)

namespace Office

variable (surroundings : Surroundings σ)

/-- An office and a copy of its rules, with the same host. -/
structure Copied (office : Office σ) (memory : σ × RuleList) : Prop where
  host : office.outer = memory.1
  rules : memory.2.Copies office.session

/-- An office and what was a copy of its rules, in a pass at a time: it is one still, or it has
counted what stalled the session. -/
structure CopiedAt (timestamp : Int) (office : Office σ) (memory : σ × RuleList) : Prop where
  host : office.outer = memory.1
  rules : memory.2.Copies office.session ∨ office.session.stalled = true ∧
    memory.2.OverflownAt timestamp

theorem keeps_stalled :
    World.Keeps (fun office => office.session.stalled = true) (.inStore surroundings) where
  perform h _ := h
  evaluate h _ := h
  enabledRules {office} h := by
    have hlisted : (Store.listEnabledRules office.session).2 = office.session :=
      Session.look_snd _ _
    change (Store.listEnabledRules office.session).2.stalled = true
    rwa [hlisted]
  recordFire {office} h ruleId timestamp := by
    have hrecorded :
        Store.recordFire ruleId timestamp office.session =
        (.error .stalled, office.session) := if_pos h
    change (Store.recordFire ruleId timestamp office.session).2.stalled = true
    rwa [hrecorded]
  publish h _ := h

theorem mirrorsAt_inStore (timestamp : Int) :
    World.MirrorsAt (CopiedAt timestamp) timestamp (.inStore surroundings)
      (.inMemory surroundings none) where
  surroundings :=
    { perform := by
        rintro ⟨session, outer⟩ ⟨_, list⟩ ⟨rfl, hrules⟩ request
        exact ⟨rfl, rfl, hrules⟩
      evaluate := by
        rintro ⟨session, outer⟩ ⟨_, list⟩ ⟨rfl, hrules⟩ run
        exact ⟨rfl, rfl, hrules⟩ }
  recordFire := by
    rintro ⟨session, outer⟩ ⟨_, list⟩ ⟨rfl, hcopies | ⟨hstalled, hover⟩⟩ ruleId
    · exact ⟨rfl, hcopies.recordFire ruleId timestamp⟩
    · exact ⟨rfl,
        .inr ⟨(keeps_stalled surroundings).recordFire (s := ⟨session,
          outer⟩) hstalled ruleId timestamp,
        hover.recordFire ruleId⟩⟩
  publish hs _ := hs

theorem enabledRules_inStore {office : Office σ} {memory : σ × RuleList} (h : office.Copied memory)
    (timestamp : Int) :
    Alike (CopiedAt timestamp) ((World.inStore surroundings).enabledRules office)
      ((World.inMemory surroundings none).enabledRules memory) := by
  obtain ⟨session, outer⟩ := office
  obtain ⟨_, list⟩ := memory
  obtain ⟨rfl, hcopies⟩ := h
  have hworks := hcopies.canSave.1
  have henabled : (Store.listEnabledRules session).1 = .ok list.enabled := by
    rw [Store.listEnabledRules, Session.look_fst, hworks, if_neg Bool.false_ne_true,
      RuleList.enabled, hcopies.rules_eq]
    rfl
  have hsession : (Store.listEnabledRules session).2 = session := Session.look_snd _ session
  refine ⟨henabled, ?_⟩
  change CopiedAt timestamp ⟨(Store.listEnabledRules session).2, outer⟩ (outer, list)
  rw [hsession]
  exact ⟨rfl, .inl hcopies⟩

end Office

/-! ## Runs of calls -/

namespace Desk

variable (surroundings : Surroundings σ)

/-- The copy could be stored, at the beginning and after each call. -/
def StaysFit (calls : List (Int × Call)) (desk : Desk (σ × RuleList)) : Prop :=
  ∀ served,
    ∀ rule ∈ (serveAll (.inMemory surroundings none) (calls.take served) desk).2.outer.2.rules,
    rule.fits = true

theorem staysFit_cons (time : Int) (call : Call) (rest : List (Int × Call))
    (desk : Desk (σ × RuleList)) :
    StaysFit surroundings ((time, call) :: rest) desk ↔
      (∀ rule ∈ desk.outer.2.rules, rule.fits = true) ∧
      StaysFit surroundings rest (serveAt (.inMemory surroundings none) time call desk).2 where
  mp h := ⟨h 0, fun served => h (served + 1)⟩
  mpr h served :=
    match served with
    | 0 => h.1
    | served + 1 => h.2 served

theorem serveAt_inStore {desk : Desk (Office σ)} {other : Desk (σ × RuleList)}
    (h : Desk.Related Office.Copied desk other) (time : Int) (call : Call) :
    Alike (Desk.Related (Office.CopiedAt time)) (serveAt (.inStore surroundings) time call desk)
      (serveAt (.inMemory surroundings none) time call other) := by
  have hclock : Desk.Related (Office.CopiedAt time) (desk.setClock time) (other.setClock time) :=
    ⟨h.waiting, congrArg (fun supply => { supply with now := time }) h.supply, h.outer.host,
      .inl h.outer.rules⟩
  obtain ⟨answer, after, after', hx, hy,
    hafter⟩ := (hclock.serve (Office.mirrorsAt_inStore surroundings time)
    (Office.enabledRules_inStore surroundings h.outer time) call).exists_eq
  rw [serveAt, serveAt, hx, hy]
  exact ⟨rfl, hafter⟩

/-- The copy stays fit and is one still after all calls, or the session ends stalled. -/
theorem serveAll_inStore (calls : List (Int × Call)) {desk : Desk (Office σ)}
    {other : Desk (σ × RuleList)} (h : Desk.Related Office.Copied desk other) :
    StaysFit surroundings calls other ∧ Alike (Desk.Related Office.Copied)
        (serveAll (.inStore surroundings) calls desk)
          (serveAll (.inMemory surroundings none) calls other) ∨
      ¬StaysFit surroundings calls other ∧
        (serveAll (.inStore surroundings) calls desk).2.outer.session.stalled = true := by
  induction calls generalizing desk other with
  | nil => exact .inl ⟨fun served => by rw [List.take_nil]; exact h.outer.rules.fits, rfl, h⟩
  | cons timed rest ih =>
    obtain ⟨time, call⟩ := timed
    obtain ⟨first, after, after', hx, hy, hafter⟩ :=
      (serveAt_inStore surroundings h time call).exists_eq
    rw [staysFit_cons, serveAll, serveAll, hx, hy]
    rcases hafter.outer.rules with hcopies | ⟨hstalled, hover⟩
    · have hcopied : Desk.Related Office.Copied after after' :=
        ⟨hafter.waiting, hafter.supply, hafter.outer.host, hcopies⟩
      rcases ih hcopied with ⟨hfit, hanswers, hrest⟩ | ⟨hunfit, hstalled⟩
      · exact .inl ⟨⟨h.outer.rules.fits, hfit⟩, congrArg (first :: ·) hanswers, hrest⟩
      · exact .inr ⟨fun hfit => hunfit hfit.2, hstalled⟩
    · refine .inr ⟨fun hfit => hover.not_fits (hfit.2 0), ?_⟩
      exact (Office.keeps_stalled surroundings).serveAll hstalled rest

end Desk

/-! ## Interchangeable rules -/

structure Office.SameRules (office : Office σ) (memory : σ × RuleList) : Prop where
  host : office.outer = memory.1
  listed : (Store.listRules office.session).1 = .ok memory.2.rules

/-- Rules in memory can take the place of the stored rules for calls at a desk: the calls have the
same answers, the same contexts wait after them, the host is in the same state, whatever it keeps of
the requests that were made to it, and the same rules are listed. -/
def Desk.Interchangeable (surroundings : Surroundings σ) (calls : List (Int × Call))
    (desk : Desk (Office σ)) (rules : List Rule) : Prop :=
  Alike (Desk.Related Office.SameRules) (serveAll (.inStore surroundings) calls desk)
    (serveAll (.inMemory surroundings none) calls ⟨desk.waiting, desk.supply,
      (desk.outer.outer, { rules := rules })⟩)

/-- Whatever is called, the rules that the store lists can take the place of the stored ones exactly
when they could be stored after every call. -/
theorem Desk.interchangeable_iff (surroundings : Surroundings σ) (calls : List (Int × Call))
    {desk : Desk (Office σ)} (hsound : desk.outer.session.Sound)
    (hsave : desk.outer.session.CanSave) {rules : List Rule}
    (hlisted : (Store.listRules desk.outer.session).1 = .ok rules) :
    Desk.Interchangeable surroundings calls desk rules ↔
      Desk.StaysFit surroundings calls ⟨desk.waiting, desk.supply,
        (desk.outer.outer, { rules := rules })⟩ := by
  have hrules : rules = desk.outer.session.current.listRules :=
    (Store.listRules_eq_ok hlisted).2.symm
  have hstart : Desk.Related Office.Copied desk
      ⟨desk.waiting, desk.supply, (desk.outer.outer, { rules := rules })⟩ :=
    ⟨rfl, rfl, rfl, hsound, hsave, hrules⟩
  rcases Desk.serveAll_inStore surroundings calls hstart with ⟨hfit, hanswers, hdesk⟩ |
    ⟨hunfit, hstalled⟩
  · refine iff_of_true ⟨hanswers, hdesk.waiting, hdesk.supply, hdesk.outer.host, ?_⟩ hfit
    exact hdesk.outer.rules.listRules
  · refine iff_of_false (fun h => ?_) hunfit
    exact Bool.false_ne_true ((Store.listRules_eq_ok h.2.outer.listed).1.symm.trans hstalled)

def Desk.overStored (rules : List Rule) : Desk (Office Unit) :=
  ⟨[], { now := 0 }, ⟨.ofDatabase { rules := rules }, ()⟩⟩

def Call.oneEmail : List (Int × Call) := [(5, .email { id := "m" } none none)]

theorem Desk.interchangeable_iff_skipNameless :
    (Desk.overStored [.skipNameless]).outer.session.Sound ∧
      (Desk.overStored [.skipNameless]).outer.session.CanSave ∧ ∃ rules,
      (Store.listRules (Desk.overStored [.skipNameless]).outer.session).1 = .ok rules ∧
      (Desk.Interchangeable (World.still []).toSurroundings Call.oneEmail
        (.overStored [.skipNameless]) rules ↔
        Desk.StaysFit (World.still []).toSurroundings Call.oneEmail
          ⟨[], { now := 0 }, ((), { rules := rules })⟩) := by
  have hsound : (Desk.overStored [.skipNameless]).outer.session.Sound :=
    Session.sound_ofDatabase ⟨by decide, by decide, by decide, by decide⟩
  have hsave : (Desk.overStored [.skipNameless]).outer.session.CanSave := ⟨rfl, [], rfl⟩
  exact ⟨hsound, hsave, _, rfl,
    Desk.interchangeable_iff (World.still []).toSurroundings Call.oneEmail hsound hsave rfl⟩

/-- A rule whose counter is as high as its column goes. -/
def Rule.worn : Rule := { Rule.skipNameless with executionCount := 9223372036854775807 }

/-- One firing more is counted in memory only. -/
theorem Desk.not_interchangeable_worn :
    Rule.worn.fits = true ∧
      ∃ rules, (Store.listRules (Desk.overStored [.worn]).outer.session).1 = .ok rules ∧
      ¬Desk.Interchangeable (World.still []).toSurroundings Call.oneEmail
        (.overStored [.worn]) rules := by
  refine ⟨by decide, _, rfl, fun h => ?_⟩
  have hstalled : (Desk.serveAll (.inStore (World.still []).toSurroundings) Call.oneEmail
      (.overStored [.worn])).2.outer.session.stalled = true := by decide +kernel
  exact Bool.false_ne_true ((Store.listRules_eq_ok h.2.outer.listed).1.symm.trans hstalled)

end MailTriage

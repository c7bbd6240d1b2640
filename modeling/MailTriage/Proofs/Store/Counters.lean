import MailTriage.Proofs.Store.Steady

/-!
# Counters of stored rules

How often a rule was executed is kept with the time of its last execution. The two agree when there
is such a time exactly for a positive count. A store that starts out empty keeps them in agreement:
a rule is created with fresh counters, a firing moves both, and an update writes back what it has
read. Only updates that name a counter, and replacements by rules whose counters disagree, could
part them.

All that a session has is saved when a call is done, and a rollback takes back what a call that
failed has left.
-/

namespace MailTriage

open Store

/-- There is a time of the last execution exactly when there was an execution. -/
def Rule.CountersAgree (rule : Rule) : Prop :=
  rule.lastExecuted.isSome = true ↔ 0 < rule.executionCount

def Database.CountersAgree (data : Database) : Prop := ∀ rule ∈ data.rules, rule.CountersAgree

namespace Rule

theorem countersAgree_created (rule : Rule) (now : Int) : (rule.created now).CountersAgree := by
  simp [CountersAgree, created]

theorem countersAgree_fire (rule : Rule) (timestamp : Int) :
    (rule.fire timestamp).CountersAgree := by
  simp [CountersAgree, fire]

@[simp] theorem countersAgree_stored (column : NumberColumn) (rule : Rule) :
    (rule.stored column).CountersAgree ↔ rule.CountersAgree := Iff.rfl

theorem CountersAgree.of_eq {rule other : Rule} (h : rule.CountersAgree)
    (heq : other.executionCount = rule.executionCount ∧ other.lastExecuted = rule.lastExecuted) :
    other.CountersAgree := by
  rw [CountersAgree, heq.1, heq.2]
  exact h

end Rule

namespace Database

variable {data : Database}

theorem CountersAgree.putRule (h : data.CountersAgree) {rule : Rule} (hrule : rule.CountersAgree) :
    (data.putRule rule).CountersAgree := by
  intro new hnew
  rcases eq_or_mem_of_mem_putRule hnew with rfl | hold
  · exact hrule
  · exact h new hold

theorem CountersAgree.addRules (h : data.CountersAgree) (hids : (data.rules.map Rule.id).Nodup)
    {rules : List Rule} (hrules : ∀ rule ∈ rules, rule.CountersAgree) {column : NumberColumn}
    {after : Database} (hadd : data.addRules column rules = .ok after) : after.CountersAgree := by
  obtain ⟨-, -, -, rfl⟩ := (addRules_eq_ok_iff column hids).mp hadd
  intro rule hrule
  rcases List.mem_append.mp hrule with hold | hnew
  · exact h rule hold
  · obtain ⟨given, hgiven, rfl⟩ := List.mem_map.mp hnew
    exact (given.countersAgree_stored column).mpr (hrules given hgiven)

end Database

/-! ## One operation -/

/-- An effect that leaves nothing to be saved later, and saves rules with counters that agree. -/
def Effect.Settles {α : Type} (data : Database) : Effect α → Prop
  | .refuse _ | .abort _ => True
  | .keep _ after => after = data
  | .save _ after => after.CountersAgree

/-- A session that has saved all it has, with rules whose counters agree. -/
structure Session.Settled (session : Session) : Prop where
  sound : session.Sound
  current_eq : session.current = session.saved
  unsaved_eq : session.unsaved = []
  agree : session.current.CountersAgree

namespace Session

variable {session : Session} {α : Type} {effect : Database → Effect α}

theorem Settled.rollback_eq (h : session.Settled) :
    session.rollback = ofDatabase session.current := by
  rw [rollback, h.current_eq]

theorem Settled.rollback (h : session.Settled) : session.rollback.Settled :=
  ⟨h.sound.rollback, rfl, rfl, h.rollback_eq ▸ h.agree⟩

theorem Settled.abort (h : session.Settled) : session.abort.Settled :=
  ⟨h.sound.abort, rfl, rfl, h.rollback.agree⟩

/-- An operation that settles keeps a session settled; soundness is known of every operation. -/
theorem Settled.apply (h : session.Settled)
    (heffect : (effect session.current).Settles session.current)
    (hsound : (Session.apply effect session).2.Sound) :
    (Session.apply effect session).2.Settled := by
  unfold Session.apply at hsound ⊢
  split
  · exact h
  · next hstalled =>
    rw [if_neg hstalled] at hsound
    split
    · exact h
    · exact h.abort
    · next result data hkeep =>
      rw [hkeep] at heffect
      obtain rfl : data = session.current := heffect
      exact h
    · next result data hsave =>
      rw [hsave] at heffect hsound
      unfold Session.save at hsound ⊢
      dsimp only at hsound
      split
      · next log hlog =>
        rw [hlog] at hsound
        exact ⟨hsound, rfl, rfl, heffect⟩
      · exact h.abort

theorem Settled.rollback_apply (h : session.Settled)
    (hfailed : (Session.apply effect session).1.toBool = false) :
    (Session.apply effect session).2.rollback = ofDatabase session.current := by
  unfold Session.apply at hfailed ⊢
  split
  · exact h.rollback_eq
  · next hstalled =>
    rw [if_neg hstalled] at hfailed
    cases heffect : effect session.current with
    | refuse trouble => exact h.rollback_eq
    | abort trouble => exact h.rollback_eq
    | keep result data => rw [heffect] at hfailed; exact nomatch hfailed
    | save result data =>
      rw [heffect] at hfailed
      unfold Session.save at hfailed ⊢
      dsimp only at hfailed ⊢
      split
      · next hlog => rw [hlog] at hfailed; exact nomatch hfailed
      · exact h.rollback_eq

end Session

/-! ## Operations of the store -/

namespace Store

variable {session : Session}

/-- A firing that is recorded is counted by the rule with the identifier, and by no other. -/
theorem recordFire_rules (h : session.Sound) {ruleId : String} {timestamp : Int}
    (hfired : (recordFire ruleId timestamp session).1 = .ok ()) :
    (recordFire ruleId timestamp session).2.current.rules =
      session.current.rules.map fun rule => if rule.id = ruleId then rule.fire timestamp
        else rule := by
  obtain ⟨-, ⟨data, heffect, hafter⟩ | ⟨data, log, heffect, -, hafter⟩⟩ :=
    Session.apply_ok_cases hfired
  · split at heffect
    · next hnone =>
      cases heffect
      rw [recordFire, hafter]
      refine ((List.map_congr_left fun rule hrule => if_neg ?_).trans (List.map_id' _)).symm
      simpa using List.find?_eq_none.mp hnone rule hrule
    · dsimp only at heffect
      split at heffect <;> cases heffect
  · split at heffect
    · cases heffect
    · next rule hrule =>
      dsimp only at heffect
      split at heffect
      · cases heffect
        rw [recordFire, hafter]
        apply List.map_congr_left
        intro other hother
        have hfound := (Database.of_rule?_eq_some hrule).2
        by_cases hid : other.id = ruleId
        · obtain rfl := Database.eq_of_rule?_eq_some h.current_tidy.distinct hrule hother hid
          simp [hid, Rule.fire]
        · rw [if_neg hid, if_neg (show other.id ≠ (rule.fire timestamp).id from hfound ▸ hid)]
      · cases heffect

theorem settled_updateRule (h : session.Settled) (column : NumberColumn) (ruleId : String)
    {updates : Fields} (hkeys : (updates.map Prod.fst).Nodup) (hupdates : updates.NamesNoCounter)
    (supply : Supply) :
    (updateRule column ruleId updates supply session).2.2.Settled := by
  have hsound := h.sound.updateRule column ruleId updates supply
  rcases updateRule_cases column ruleId updates supply session with
    ⟨fault, -, hsession⟩ | ⟨rule, updated, hrule, hread, -, hsession⟩
  · rwa [hsession]
  · rw [hsession] at hsound ⊢
    refine h.apply ?_ hsound
    rcases writeRule_cases column updated session.current with ⟨-, -, hwrite⟩ | ⟨-, trouble, hwrite⟩
    · rw [hwrite]
      apply h.agree.putRule
      rw [Rule.countersAgree_stored]
      apply Rule.CountersAgree.of_eq (h.agree rule (Database.of_rule?_eq_some hrule).1)
      exact Rule.counters_of_update hkeys hupdates hread
    · rw [hwrite]
      trivial

theorem rollback_updateRule (h : session.Settled) {column : NumberColumn} {ruleId : String}
    {updates : Fields} {supply : Supply}
    (hfailed : (updateRule column ruleId updates supply session).1.toBool = false) :
    (updateRule column ruleId updates supply session).2.2.rollback =
      .ofDatabase session.current := by
  rcases updateRule_cases column ruleId updates supply session with
    ⟨-, -, hsession⟩ | ⟨rule, updated, -, -, hresult, hsession⟩
  · rw [hsession, h.rollback_eq]
  · rw [hresult, toBool_mapError] at hfailed
    rw [hsession]
    exact h.rollback_apply hfailed

end Store

/-! ## Calls -/

/-- What a store is asked: something about one rule or a listing, to delete a rule, or to replace
all rules. -/
inductive StoreCall
  | single (call : RuleCall)
  | delete (ruleId : String)
  | replace (rules : List Rule)

namespace StoreCall

def perform (column : NumberColumn) (supply : Supply) (session : Session) :
    StoreCall → Except UpdateFault Unit × Supply × Session
  | single call =>
    let (result, after) := call.perform column supply session
    (result.map fun _ => (), after)
  | delete ruleId =>
    let (result, session) := deleteRule ruleId session
    ((result.map fun _ => ()).mapError .store, supply, session)
  | replace rules =>
    let (result, session) := replaceRules column rules session
    ((result.map fun _ => ()).mapError .store, supply, session)

/-- The counters that come with a call: an update has none, and those of given rules agree. -/
def CountersAgree : StoreCall → Prop
  | single (.update _ updates _) => updates.NamesNoCounter
  | replace rules => ∀ rule ∈ rules, rule.CountersAgree
  | _ => True

variable {session : Session}

theorem settled_perform (h : session.Settled) (column : NumberColumn) (supply : Supply)
    {call : StoreCall} (hcall : call.CountersAgree) :
    (call.perform column supply session).2.2.Settled := by
  cases call with
  | single call =>
    cases call with
    | create rule =>
      refine h.apply ?_ (h.sound.step (.create column supply.now rule session))
      split
      · trivial
      · split
        · next data hadd =>
          apply h.agree.addRules h.sound.current_tidy.distinct _ hadd
          intro new hnew
          obtain rfl := List.mem_singleton.mp hnew
          exact rule.countersAgree_created supply.now
        · trivial
    | update ruleId updates distinct =>
      exact settled_updateRule h column ruleId distinct hcall supply
    | toggle ruleId =>
      dsimp only [perform, RuleCall.perform]
      rcases toggleRule_cases column ruleId supply session with ⟨fault, htoggle⟩ |
        ⟨enabled, htoggle⟩
      · rw [htoggle]
        exact h
      · rw [htoggle]
        exact settled_updateRule h column ruleId (by simp) (by simp [Fields.NamesNoCounter]) supply
    | fire ruleId timestamp =>
      refine h.apply ?_ (h.sound.step (.fire ruleId timestamp session))
      split
      · rfl
      · next rule hrule =>
        dsimp only
        split
        · exact h.agree.putRule (rule.countersAgree_fire timestamp)
        · trivial
    | get ruleId =>
      dsimp only [perform, RuleCall.perform]
      rwa [Session.getRule_session]
    | list | listEnabled =>
      refine h.apply ?_ (h.sound.step (.look _ session))
      rfl
    | rollback => exact h.rollback
  | delete ruleId =>
    refine h.apply ?_ (h.sound.step (.delete ruleId session))
    split
    · rfl
    · intro rule hrule
      exact h.agree rule (List.mem_of_mem_filter hrule)
  | replace rules =>
    refine h.apply ?_ (h.sound.step (.replace column rules session))
    split
    · next data hadd =>
      refine Database.CountersAgree.addRules ?_ ?_ hcall hadd
      · simp [Database.CountersAgree]
      · simp
    · trivial

/-- Whatever the call was, a rollback takes back that it failed. -/
theorem rollback_perform (h : session.Settled) {column : NumberColumn} {supply : Supply}
    {call : StoreCall} {fault : UpdateFault}
    (hfault : (call.perform column supply session).1 = .error fault) :
    (call.perform column supply session).2.2.rollback = .ofDatabase session.current := by
  have hfailed : (call.perform column supply session).1.toBool = false :=
    congrArg Except.toBool hfault
  cases call with
  | single call =>
    dsimp only [perform] at hfailed ⊢
    rw [toBool_map] at hfailed
    cases call with
    | update ruleId updates =>
      dsimp only [RuleCall.perform] at hfailed ⊢
      rw [toBool_map] at hfailed
      exact rollback_updateRule h hfailed
    | toggle ruleId =>
      dsimp only [RuleCall.perform] at hfailed ⊢
      rw [toBool_map] at hfailed
      rcases toggleRule_cases column ruleId supply session with ⟨fault, htoggle⟩ |
        ⟨enabled, htoggle⟩
      · rw [htoggle, h.rollback_eq]
      · rw [htoggle] at hfailed ⊢
        exact rollback_updateRule h hfailed
    | create | fire | get =>
      dsimp only [RuleCall.perform] at hfailed ⊢
      rw [toBool_mapError, toBool_map] at hfailed
      exact h.rollback_apply hfailed
    | list | listEnabled =>
      dsimp only [RuleCall.perform] at hfailed ⊢
      rw [toBool_mapError] at hfailed
      exact h.rollback_apply hfailed
    | rollback => exact nomatch hfailed
  | delete | replace =>
    dsimp only [perform] at hfailed ⊢
    rw [toBool_mapError, toBool_map] at hfailed
    exact h.rollback_apply hfailed

def serve (column : NumberColumn) (state : Supply × Session) (timed : Int × StoreCall) :
    Supply × Session :=
  (timed.2.perform column { state.1 with now := timed.1 } state.2).2

def serveAll (column : NumberColumn) (calls : List (Int × StoreCall)) (state : Supply × Session) :
    Supply × Session :=
  calls.foldl (serve column) state

theorem settled_serveAll (column : NumberColumn) {calls : List (Int × StoreCall)}
    (hcalls : ∀ timed ∈ calls, timed.2.CountersAgree) {state : Supply × Session}
    (h : state.2.Settled) : (serveAll column calls state).2.Settled := by
  induction calls generalizing state with
  | nil => exact h
  | cons timed rest ih =>
    rw [List.forall_mem_cons] at hcalls
    apply ih hcalls.2
    exact settled_perform h column _ hcalls.1

end StoreCall

/-- What is to be expected of the counters in a session: they are all saved and agree, a firing that
is recorded adds one to those of its rule and changes nothing else, and a call that fails changes
nothing once it has been rolled back. -/
structure Session.Tallied (session : Session) : Prop where
  saved : session.current = session.saved
  agree : ∀ rule ∈ session.current.rules,
    0 ≤ rule.executionCount ∧ (rule.lastExecuted.isSome = true ↔ 0 < rule.executionCount)
  fired : ∀ ruleId timestamp, (recordFire ruleId timestamp session).1 = .ok () →
    (recordFire ruleId timestamp session).2.current.rules = session.current.rules.map fun rule =>
      if rule.id = ruleId then
        { rule with executionCount := rule.executionCount + 1, lastExecuted := some timestamp }
      else rule
  failed : ∀ (call : StoreCall) column supply fault,
    (call.perform column supply session).1 = .error fault →
    (call.perform column supply session).2.2.rollback = .ofDatabase session.current

/-- The counters are as they should be after any calls of a store that was empty, at any readings of
the clock, as long as the counters that come with the calls agree. -/
theorem StoreCall.tallied_serveAll (column : NumberColumn) (supply : Supply)
    {calls : List (Int × StoreCall)} (hcalls : ∀ timed ∈ calls, timed.2.CountersAgree) :
    (serveAll column calls (supply, .ofDatabase {})).2.Tallied := by
  have hsettled : (serveAll column calls (supply, .ofDatabase {})).2.Settled := by
    apply settled_serveAll column hcalls
    refine ⟨Session.sound_ofDatabase ⟨List.nodup_nil, by simp, by simp, by simp⟩, rfl, rfl, ?_⟩
    simp [Session.ofDatabase, Database.CountersAgree]
  constructor
  · exact hsettled.current_eq
  · intro rule hrule
    exact ⟨Nat.zero_le _, hsettled.agree rule hrule⟩
  · intro ruleId timestamp hfired
    exact recordFire_rules hsettled.sound hfired
  · intro call column supply fault hfault
    exact rollback_perform hsettled hfault

namespace StoreCall

/-- A rule comes with a count when it is created; it fires and is renamed, and one that is not there
fires. Then it gives way to two others. -/
def replacing : List (Int × StoreCall) :=
  [(1, .single (.create { id := "r1", name := "First", createdAt := 0, lastModified := 0,
                          executionCount := 5 })),
   (2, .single (.fire "r1" 20)),
   (3, .single (.fire "r2" 30)),
   (4, .single (.update "r1" [("name", .text "Renamed")] (by decide))),
   (5, .replace
     [{ id := "r2", name := "Second", createdAt := 0, lastModified := 0, executionCount := 3,
        lastExecuted := some 7 },
      { id := "r3", name := "Third", createdAt := 0, lastModified := 0 }]),
   (6, .single (.fire "r2" 60))]

theorem tallied_serveAll_replacing :
    (∀ timed ∈ replacing, timed.2.CountersAgree) ∧
      (serveAll .scaling replacing ({ now := 0 }, .ofDatabase {})).2.Tallied := by
  have hcalls : ∀ timed ∈ replacing, timed.2.CountersAgree := by
    simp [replacing, CountersAgree, Fields.NamesNoCounter, Rule.CountersAgree]
  exact ⟨hcalls, tallied_serveAll .scaling { now := 0 } hcalls⟩

example :
    (serveAll .scaling replacing ({ now := 0 }, .ofDatabase {})).2.current.rules.map
        (fun rule => (rule.id, rule.executionCount, rule.lastExecuted)) =
      [("r2", 4, some 60), ("r3", 0, none)] ∧
    (serveAll .scaling (replacing.take 4) ({ now := 0 }, .ofDatabase {})).2.current.rules.map
        (fun rule => (rule.name, rule.executionCount, rule.lastExecuted)) =
          [("Renamed", 1, some 20)] := by
  decide +kernel

end StoreCall

end MailTriage

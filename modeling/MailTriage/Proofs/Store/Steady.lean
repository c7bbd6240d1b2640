import MailTriage.Proofs.Outcome
import MailTriage.Proofs.Store.Dates
import Mathlib.Data.Prod.Lex
import Mathlib.Data.String.Basic

/-!
# Dates over many calls

Beside a store that is called again and again, a book can be kept of its rules: when each of them
was created, and when it was last changed. The book stays right exactly as long as no update comes
with times of its own. With it the order stays in which the rules are listed, since this depends on
nothing but identifiers and times of creation.
-/

namespace MailTriage

open Store

/-! ## Calls -/

/-- What a store is asked about its rules, or a rollback. Updates have no key twice. -/
inductive RuleCall
  | create (rule : Rule)
  | update (ruleId : String) (updates : Fields) (distinct : (updates.map Prod.fst).Nodup)
  | toggle (ruleId : String)
  | fire (ruleId : String) (timestamp : Int)
  | get (ruleId : String)
  | list
  | listEnabled
  | rollback

namespace RuleCall

/-- Carries out a call, and gives the rules that are answered. -/
def perform (column : NumberColumn) (supply : Supply) (session : Session) :
    RuleCall → Except UpdateFault (List Rule) × Supply × Session
  | create rule =>
    let (result, session) := createRule column supply.now rule session
    ((result.map fun rule => [rule]).mapError .store, supply, session)
  | update ruleId updates _ =>
    let (result, after) := updateRule column ruleId updates supply session
    (result.map fun rule => [rule], after)
  | toggle ruleId =>
    let (result, after) := toggleRule column ruleId supply session
    (result.map fun rule => [rule], after)
  | fire ruleId timestamp =>
    let (result, session) := recordFire ruleId timestamp session
    ((result.map fun _ => []).mapError .store, supply, session)
  | get ruleId =>
    let (result, session) := getRule ruleId session
    ((result.map fun rule => [rule]).mapError .store, supply, session)
  | list =>
    let (result, session) := listRules session
    (result.mapError .store, supply, session)
  | listEnabled =>
    let (result, session) := listEnabledRules session
    (result.mapError .store, supply, session)
  | rollback => (.ok [], supply, session.rollback)

/-- What is entered in a book for a call that was done: a new rule, or the time at which a rule was
changed. -/
def enter (now : Int) (book : List Dates) : RuleCall → List Dates
  | create rule => book ++ [⟨rule.id, now, now⟩]
  | update ruleId _ _ | toggle ruleId =>
    book.map fun entry => if entry.id = ruleId then { entry with lastModified := now } else entry
  | _ => book

/-- An update changes times otherwise: it has another time of creation than a rule, or a time of the
change. -/
def Redates (now : Int) (rules : List Rule) : RuleCall → Prop
  | update ruleId updates _ => ∃ rule ∈ rules, rule.id = ruleId ∧
      ((updates.integer? "createdAt").getD rule.createdAt ≠ rule.createdAt ∨
        (updates.integer? "lastModified").getD now ≠ now)
  | _ => False

variable {session : Session}

theorem sound_perform (h : session.Sound) (column : NumberColumn) (supply : Supply)
    (call : RuleCall) :
    (call.perform column supply session).2.2.Sound := by
  cases call with
  | create rule => exact h.step (.create column supply.now rule session)
  | update ruleId updates distinct => exact h.step (.update column ruleId updates supply session)
  | toggle ruleId => exact h.step (.toggle column ruleId supply session)
  | fire ruleId timestamp => exact h.step (.fire ruleId timestamp session)
  | get ruleId => exact h.step (.get ruleId session)
  | list | listEnabled => exact h.step (.look _ session)
  | rollback => exact h.rollback

/-- What a call makes of all dates: nothing when it fails, and else what is entered for it, unless
it changes times otherwise. -/
structure Dated (call : RuleCall) (now : Int) (done : Bool) (data after : Database) : Prop where
  failed : done = false → after.dates = data.dates
  done_iff : done = true → (after.dates = call.enter now data.dates ↔ ¬call.Redates now data.rules)

variable {call : RuleCall} {now : Int} {done : Bool} {data after : Database}

theorem Dated.of_kept (hkept : after.dates = data.dates)
    (henter : call.enter now data.dates = data.dates) (hnot : ¬call.Redates now data.rules) :
    Dated call now done data after :=
  ⟨fun _ => hkept, fun _ => iff_of_true (hkept.trans henter.symm) hnot⟩

/-- An update enters the time of the change exactly when it has no other times. -/
theorem Dated.of_update {ruleId : String} {updates : Fields}
    (distinct : (updates.map Prod.fst).Nodup)
    (h : after.dates = if done then
      data.dates.map fun dates => if dates.id = ruleId then dates.updated now updates else dates
      else data.dates) : Dated (.update ruleId updates distinct) now done data after where
  failed hfailed := by simpa [hfailed] using h
  done_iff hdone := by
    rw [hdone, if_pos rfl] at h
    rw [h, enter, List.map_inj_left, Redates, Database.dates, List.forall_mem_map]
    simp only [not_exists, not_and, not_or, not_not]
    refine forall₂_congr fun rule _ => ?_
    by_cases hid : rule.id = ruleId
    · simp [Rule.dates, Dates.updated, hid]
    · simp [Rule.dates, hid]

theorem dated_perform (h : session.Sound) (column : NumberColumn) (supply : Supply)
    (call : RuleCall) :
    Dated call supply.now (call.perform column supply session).1.toBool session.current
      (call.perform column supply session).2.2.current := by
  cases call with
  | create rule =>
    have hdates := createRule_dates h column supply.now rule
    dsimp only [perform]
    rw [toBool_mapError, toBool_map]
    generalize createRule column supply.now rule session = created at hdates ⊢
    refine ⟨fun hfailed => by simpa [hfailed] using hdates, fun hdone => iff_of_true ?_ not_false⟩
    simpa [hdone, enter] using hdates
  | update ruleId updates distinct =>
    have hdates := updateRule_dates h column ruleId distinct supply
    dsimp only [perform]
    rw [toBool_map]
    exact .of_update distinct hdates
  | toggle ruleId =>
    dsimp only [perform]
    rw [toBool_map]
    rcases toggleRule_cases column ruleId supply session with ⟨fault, htoggle⟩ | ⟨enabled, htoggle⟩
    · rw [htoggle]
      exact ⟨fun _ => rfl, (nomatch ·)⟩
    · have hkeys : (([("enabled", .bool enabled)] : Fields).map Prod.fst).Nodup := by simp
      have hdated := Dated.of_update hkeys (updateRule_dates h column ruleId hkeys supply)
      rw [htoggle]
      refine ⟨hdated.failed, fun hdone => iff_of_true ((hdated.done_iff hdone).mpr ?_) not_false⟩
      rintro ⟨rule, -, -, hother | hother⟩ <;> exact hother rfl
  | fire ruleId timestamp => exact .of_kept (recordFire_dates h ruleId timestamp) rfl not_false
  | get ruleId =>
    exact .of_kept
      (congrArg (·.current.dates) (Session.getRule_session ruleId session)) rfl not_false
  | list | listEnabled =>
    exact .of_kept (congrArg (·.current.dates) (Session.look_snd _ session)) rfl not_false
  | rollback =>
    have hkept : session.rollback.current.dates = session.current.dates :=
      (congrArg (List.map Rule.dates) h.rules_eq).symm
    exact .of_kept hkept rfl not_false

end RuleCall

/-! ## The order of a listing -/

def Dates.place (dates : Dates) : ℤ ×ₗ String := toLex (dates.createdAt, dates.id)

theorem Rule.listedBefore_eq_decide (a b : Rule) :
    a.listedBefore b = decide (a.dates.place ≤ b.dates.place) := by
  rw [Bool.eq_iff_iff, listedBefore_iff, decide_eq_true_eq, Dates.place, Dates.place,
    Prod.Lex.toLex_le_toLex]
  rfl

theorem Database.places_listRules (data : Database) :
    (data.listRules.map Rule.dates).map Dates.place =
      (data.dates.map Dates.place).mergeSort fun a b => a ≤ b := by
  rw [listRules, dates, List.map_map, List.map_map]
  exact List.map_mergeSort fun a _ b _ => Rule.listedBefore_eq_decide a b

/-- Rules that come to others leave the order of these. -/
theorem Database.ids_listRules_sublist {data later : Database}
    (h : (data.dates.map Dates.place).Sublist (later.dates.map Dates.place)) :
    (data.listRules.map Rule.id).Sublist (later.listRules.map Rule.id) := by
  have hplaces : ((data.listRules.map Rule.dates).map Dates.place).Sublist
      ((later.listRules.map Rule.dates).map Dates.place) := by
    rw [places_listRules, places_listRules]
    have hsubperm := h.subperm
    rw [← (List.mergeSort_perm _ fun a b => decide (a ≤ b)).subperm_left,
      ← (List.mergeSort_perm _ fun a b => decide (a ≤ b)).subperm_right] at hsubperm
    exact List.sublist_of_subperm_of_sortedLE hsubperm List.sortedLE_mergeSort
      List.sortedLE_mergeSort
  have hids (data : Database) : data.listRules.map Rule.id =
      ((data.listRules.map Rule.dates).map Dates.place).map fun place => (ofLex place).2 := by
    rw [List.map_map, List.map_map]
    rfl
  rw [hids data, hids later]
  exact hplaces.map _

/-! ## Runs of calls -/

/-- A store, and beside it a book of its rules. -/
structure Ledger where
  column : NumberColumn
  supply : Supply
  session : Session
  book : List Dates

namespace Ledger

def opened (column : NumberColumn) (supply : Supply) (session : Session) : Ledger :=
  ⟨column, supply, session, session.current.dates⟩

/-- Serves a call at a reading of the clock, and enters it in the book when it was done. -/
def serve (ledger : Ledger) (timed : Int × RuleCall) : Ledger :=
  let (result, supply, session) :=
    timed.2.perform ledger.column { ledger.supply with now := timed.1 } ledger.session
  ⟨ledger.column, supply, session, if result.toBool then timed.2.enter timed.1 ledger.book
    else ledger.book⟩

def run (calls : List (Int × RuleCall)) (ledger : Ledger) : Ledger := calls.foldl serve ledger

/-- All rules have the dates that are in the book. -/
def IsRight (ledger : Ledger) : Prop := ledger.session.current.dates = ledger.book

/-- A call is done, and changes times otherwise than the book. -/
def Redates (ledger : Ledger) (timed : Int × RuleCall) : Prop :=
  (timed.2.perform ledger.column { ledger.supply with now := timed.1 }
      ledger.session).1.toBool = true ∧
    timed.2.Redates timed.1 ledger.session.current.rules

/-- After any number of calls the book is right, and any two rules are listed in the order in which
they were listed before. -/
structure Steady (calls : List (Int × RuleCall)) (ledger : Ledger) : Prop where
  right : ∀ served, (ledger.run (calls.take served)).IsRight
  ordered : ∀ earlier later, earlier ≤ later → ∀ listed listed',
    (listRules (ledger.run (calls.take earlier)).session).1 = .ok listed →
    (listRules (ledger.run (calls.take later)).session).1 = .ok listed' →
      (listed.map Rule.id).Sublist (listed'.map Rule.id)

theorem run_append (first rest : List (Int × RuleCall)) (ledger : Ledger) :
    ledger.run (first ++ rest) = (ledger.run first).run rest := List.foldl_append

theorem sound_run {ledger : Ledger} (h : ledger.session.Sound) (calls : List (Int × RuleCall)) :
    (ledger.run calls).session.Sound := by
  induction calls generalizing ledger with
  | nil => exact h
  | cons timed rest ih =>
    have hserved : (ledger.serve timed).session.Sound := RuleCall.sound_perform h _ _ timed.2
    exact ih hserved

/-- The book stays right over a call unless this changes times otherwise. -/
theorem serve_isRight_iff {ledger : Ledger} (h : ledger.session.Sound) (hright : ledger.IsRight)
    (timed : Int × RuleCall) : (ledger.serve timed).IsRight ↔ ¬ledger.Redates timed := by
  have hdated :=
    RuleCall.dated_perform h ledger.column { ledger.supply with now := timed.1 } timed.2
  have hbook : ledger.book = ledger.session.current.dates := hright.symm
  rw [IsRight, Redates, serve]
  dsimp only
  cases hdone :
      (timed.2.perform ledger.column { ledger.supply with now := timed.1 }
        ledger.session).1.toBool with
  | false => simpa [hbook] using hdated.failed hdone
  | true => simpa [hbook] using hdated.done_iff hdone

theorem places_serve (timed : Int × RuleCall) (ledger : Ledger) :
    (ledger.book.map Dates.place).Sublist ((ledger.serve timed).book.map Dates.place) := by
  rw [serve]
  dsimp only
  split
  · cases timed.2 with
    | create rule =>
      rw [RuleCall.enter, List.map_append]
      exact List.sublist_append_left _ _
    | update ruleId | toggle ruleId =>
      have hsame : (RuleCall.enter timed.1 ledger.book (.toggle ruleId)).map Dates.place =
          ledger.book.map Dates.place := by
        rw [RuleCall.enter, List.map_map]
        refine List.map_congr_left fun entry _ => ?_
        by_cases hid : entry.id = ruleId <;> simp [hid, Dates.place]
      exact hsame ▸ List.Sublist.refl _
    | fire | get | list | listEnabled | rollback => exact List.Sublist.refl _
  · exact List.Sublist.refl _

theorem places_run (calls : List (Int × RuleCall)) (ledger : Ledger) :
    (ledger.book.map Dates.place).Sublist ((ledger.run calls).book.map Dates.place) := by
  induction calls generalizing ledger with
  | nil => exact List.Sublist.refl _
  | cons timed rest ih => exact (places_serve timed ledger).trans (ih (ledger.serve timed))

/-- As long as no call changes times otherwise, the book is right. -/
theorem isRight_of_forall {ledger : Ledger} (h : ledger.session.Sound) (hright : ledger.IsRight)
    {calls : List (Int × RuleCall)}
    (hcalls : ∀ before timed rest,
      calls = before ++ timed :: rest → ¬(ledger.run before).Redates timed)
    (served : Nat) : (ledger.run (calls.take served)).IsRight := by
  induction served with
  | zero => exact hright
  | succ served ih =>
    by_cases hserved : served < calls.length
    · rw [List.take_succ_eq_append_getElem hserved, run_append]
      refine (serve_isRight_iff (sound_run h _) ih _).mpr (hcalls _ _ (calls.drop (served + 1)) ?_)
      rw [← List.drop_eq_getElem_cons hserved, List.take_append_drop]
    · rwa [List.take_of_length_le (by omega), ← List.take_of_length_le (Nat.le_of_not_lt hserved)]

theorem ordered_of_isRight {ledger : Ledger} (hright : ledger.IsRight)
    {calls : List (Int × RuleCall)}
    (hafter : (ledger.run calls).IsRight) {listed listed' : List Rule}
    (hlisted : (listRules ledger.session).1 = .ok listed)
    (hlisted' : (listRules (ledger.run calls).session).1 = .ok listed') :
    (listed.map Rule.id).Sublist (listed'.map Rule.id) := by
  obtain ⟨-, rfl⟩ := listRules_eq_ok hlisted
  obtain ⟨-, rfl⟩ := listRules_eq_ok hlisted'
  refine Database.ids_listRules_sublist ?_
  rw [hright, hafter]
  exact places_run calls ledger

/-- After any calls of a store, whatever the clock shows, all rules have the identifiers and the
times of creation that they were given, and for their last change the time of the last update, and
their order in a listing is what it was, exactly when no update that was done came with times of its
own. -/
theorem steady_iff {session : Session} (h : session.Sound) (column : NumberColumn) (supply : Supply)
    (calls : List (Int × RuleCall)) :
    (opened column supply session).Steady calls ↔
      ∀ before timed rest, calls = before ++ timed :: rest →
        ¬((opened column supply session).run before).Redates timed := by
  have hopened : (opened column supply session).IsRight := rfl
  refine ⟨fun hsteady before timed rest hcalls => ?_,
    fun hcalls => ⟨isRight_of_forall h hopened hcalls, ?_⟩⟩
  · have hbefore : ((opened column supply session).run before).IsRight := by
      have hright := hsteady.right before.length
      rwa [hcalls, List.take_left] at hright
    have hserved : ((opened column supply session).run (before ++ [timed])).IsRight := by
      have hright := hsteady.right (before ++ [timed]).length
      rwa [hcalls, List.append_cons before timed rest, List.take_left] at hright
    rw [run_append] at hserved
    exact (serve_isRight_iff (sound_run h before) hbefore timed).mp hserved
  · intro earlier later hle listed listed' hlisted hlisted'
    have hright := isRight_of_forall h hopened hcalls
    obtain ⟨more, rfl⟩ := Nat.exists_eq_add_of_le hle
    have hlater := hright (earlier + more)
    rw [List.take_add, run_append] at hlater hlisted'
    exact ordered_of_isRight (hright earlier) hlater hlisted hlisted'

/-- Two rules are created, and then the later one is said to be the earlier. -/
def antedating : List (Int × RuleCall) :=
  [(7, .create { id := "r1", name := "First", createdAt := 0, lastModified := 0 }),
   (8, .create { id := "r2", name := "Second", createdAt := 0, lastModified := 0 }),
   (9, .update "r2" [("createdAt", .int 5), ("lastModified", .int 6)] (by decide))]

theorem steady_iff_antedating :
    (Session.ofDatabase {}).Sound ∧
      ((opened .scaling { now := 0 } (.ofDatabase {})).Steady antedating ↔
      ∀ before timed rest, antedating = before ++ timed :: rest →
        ¬((opened .scaling { now := 0 } (.ofDatabase {})).run before).Redates timed) := by
  have hsound : (Session.ofDatabase {}).Sound :=
    Session.sound_ofDatabase ⟨by decide, by decide, by decide, by decide⟩
  exact ⟨hsound, steady_iff hsound .scaling { now := 0 } antedating⟩

example :
    (((opened .scaling { now := 0 } (.ofDatabase {})).run antedating).session.current.dates,
      ((opened .scaling { now := 0 } (.ofDatabase {})).run antedating).book) =
    ([⟨"r1", 7, 7⟩, ⟨"r2", 5, 6⟩], [⟨"r1", 7, 7⟩, ⟨"r2", 8, 9⟩]) := by
  decide +kernel

end Ledger

end MailTriage

import MailTriage.Proofs.Form.Update
import MailTriage.Proofs.Store.Replacement

/-!
# Dates of stored rules

A stored rule is created at a time and was last changed at a time. What each operation on a rule
makes of the dates of all rules is said once here: an operation that fails leaves them, a rule that
is created gets its own at the end, and an update changes those of one rule. A firing changes none.
-/

namespace MailTriage

open Store

/-- The identifier of a rule, and the times that are kept with it. -/
structure Dates where
  id : String
  createdAt : Int
  lastModified : Int
  deriving DecidableEq

def Rule.dates (rule : Rule) : Dates := ⟨rule.id, rule.createdAt, rule.lastModified⟩

def Database.dates (data : Database) : List Dates := data.rules.map Rule.dates

/-- The dates of a rule that is changed at a time, with times among the updates. -/
def Dates.updated (now : Int) (updates : Fields) (dates : Dates) : Dates :=
  { dates with
    createdAt := (updates.integer? "createdAt").getD dates.createdAt
    lastModified := (updates.integer? "lastModified").getD now }

theorem Database.dates_putRule {data : Database} (h : (data.rules.map Rule.id).Nodup)
    {ruleId : String} {rule new : Rule} (hrule : data.rule? ruleId = some rule)
    {change : Dates → Dates} (hnew : new.dates = change rule.dates) (hid : new.id = rule.id) :
    (data.putRule new).dates = data.dates.map fun dates => if dates.id = ruleId then change dates
      else dates := by
  have hfound := (of_rule?_eq_some hrule).2
  rw [dates, dates, putRule, List.map_map, List.map_map]
  refine List.map_congr_left fun other hother => ?_
  by_cases hsame : other.id = ruleId
  · obtain rfl := eq_of_rule?_eq_some h hrule hother hsame
    rw [Function.comp_apply, Function.comp_apply, if_pos hid.symm, hnew]
    exact (if_pos hsame).symm
  · have hother' : other.id ≠ new.id := fun he => hsame (he.trans (hid.trans hfound))
    rw [Function.comp_apply, Function.comp_apply, if_neg hother']
    exact (if_neg hsame).symm

/-! ## Operations on one rule -/

variable {session : Session}

namespace Store

/-- What an update comes to: it fails before anything is written, or it writes what it has read. -/
theorem updateRule_cases (column : NumberColumn) (ruleId : String) (updates : Fields)
    (supply : Supply) (session : Session) :
    (∃ fault, (updateRule column ruleId updates supply session).1 = .error fault ∧
      (updateRule column ruleId updates supply session).2.2 = session) ∨
    ∃ rule updated, session.current.rule? ruleId = some rule ∧
      (Rule.read (.object (rule.formWith (updates.stamped supply.now))) supply).1 = .ok updated ∧
      let written := Session.apply (writeRule column updated) session
      (updateRule column ruleId updates supply session).1 = written.1.mapError .store ∧
        (updateRule column ruleId updates supply session).2.2 = written.2 := by
  have hsession := Session.getRule_session ruleId session
  unfold updateRule
  split
  · next trouble after hget =>
    rw [hget] at hsession
    exact .inl ⟨.store trouble, rfl, hsession⟩
  · next rule after hget =>
    have hrule := Session.getRule_ok (congrArg Prod.fst hget)
    rw [hget] at hsession
    obtain rfl : after = session := hsession
    dsimp only
    split
    · next problems supply' hread => exact .inl ⟨.form problems, rfl, rfl⟩
    · next updated supply' hread =>
      refine .inr ⟨rule, updated, hrule, congrArg Prod.fst hread, ?_⟩
      split <;> next hwritten => rw [hwritten]; exact ⟨rfl, rfl⟩

theorem writeRule_cases (column : NumberColumn) (rule : Rule) (data : Database) :
    (rule.fits = true ∧ rule.isWritable = true ∧
      writeRule column rule data = .save rule (data.putRule (rule.stored column))) ∨
    (¬(rule.fits = true ∧ rule.isWritable = true) ∧ ∃ trouble,
      writeRule column rule data = .abort trouble) := by
  unfold writeRule
  cases hfits : rule.fits with
  | false => exact .inr ⟨by simp, _, rfl⟩
  | true =>
    cases hwritable : rule.isWritable with
    | false => exact .inr ⟨by simp, _, rfl⟩
    | true => exact .inl ⟨rfl, rfl, rfl⟩

theorem writeRule_ok {column : NumberColumn} {rule written : Rule}
    (h : (Session.apply (writeRule column rule) session).1 = .ok written) :
    session.CanSave ∧ rule.fits = true ∧ rule.isWritable = true ∧ ∃ log,
      session.current.log.addAll session.unsaved = .ok log ∧
        (Session.apply (writeRule column rule) session).2 =
        .ofDatabase { session.current.putRule (rule.stored column) with log := log } := by
  obtain ⟨hworks, hcases⟩ := Session.apply_ok_cases h
  rcases writeRule_cases column rule session.current with ⟨hfits, hwritable, hwrite⟩ |
    ⟨-, trouble, hwrite⟩
  · rcases hcases with ⟨data, heffect, -⟩ | ⟨data, log, heffect, hlog, hafter⟩
    · exact nomatch hwrite.symm.trans heffect
    · cases hwrite.symm.trans heffect
      exact ⟨⟨hworks, log, hlog⟩, hfits, hwritable, log, hlog, hafter⟩
  · rcases hcases with ⟨data, heffect, -⟩ | ⟨data, log, heffect, -, -⟩ <;>
      exact nomatch hwrite.symm.trans heffect

theorem updateRule_dates (h : session.Sound) (column : NumberColumn) (ruleId : String)
    {updates : Fields} (hkeys : (updates.map Prod.fst).Nodup) (supply : Supply) :
    (updateRule column ruleId updates supply session).2.2.current.dates =
      if (updateRule column ruleId updates supply session).1.toBool then
        session.current.dates.map fun dates =>
          if dates.id = ruleId then dates.updated supply.now updates else dates
      else session.current.dates := by
  rcases updateRule_cases column ruleId updates supply session with
    ⟨fault, hresult, hsession⟩ | ⟨rule, updated, hrule, hread, hresult, hsession⟩
  · rw [hresult, hsession]
    rfl
  · rw [hresult, hsession]
    generalize hwritten : Session.apply _ session = written
    obtain ⟨result, after⟩ := written
    cases result with
    | error trouble =>
      have hrules := h.rules_of_error (congrArg Prod.fst hwritten)
      rw [hwritten] at hrules
      exact congrArg (List.map Rule.dates) hrules
    | ok written =>
      obtain ⟨hid, hcreated, hmodified⟩ := Rule.times_of_update hkeys hread
      have hdates : (updated.stored column).dates = rule.dates.updated supply.now updates := by
        simp only [Rule.dates, Rule.stored, Dates.updated, hid, hcreated, hmodified]
      have hput := Database.dates_putRule h.current_tidy.distinct hrule hdates hid
      obtain ⟨-, -, -, log, -, hafter⟩ := writeRule_ok (congrArg Prod.fst hwritten)
      rw [hwritten] at hafter
      exact (congrArg (fun session => session.current.dates) hafter).trans hput

theorem toggleRule_cases (column : NumberColumn) (ruleId : String) (supply : Supply)
    (session : Session) :
    (∃ fault, toggleRule column ruleId supply session = (.error fault, supply, session)) ∨
      ∃ enabled, toggleRule column ruleId supply session =
        updateRule column ruleId [("enabled", .bool enabled)] supply session := by
  have hsession := Session.getRule_session ruleId session
  unfold toggleRule
  split
  · next trouble after hget =>
    rw [hget] at hsession
    exact .inl ⟨.store trouble, by rw [← hsession]⟩
  · next rule after hget =>
    rw [hget] at hsession
    exact .inr ⟨!rule.enabled, by rw [← hsession]⟩

theorem createRule_dates (h : session.Sound) (column : NumberColumn) (now : Int) (rule : Rule) :
    (createRule column now rule session).2.current.dates =
      if (createRule column now rule session).1.toBool then session.current.dates ++
        [⟨rule.id, now, now⟩]
      else session.current.dates := by
  cases hcreated : (createRule column now rule session).1 with
  | error trouble => exact congrArg (List.map Rule.dates) (h.rules_of_error hcreated)
  | ok created =>
    obtain ⟨-, ⟨data, heffect, -⟩ | ⟨data, log, heffect, -, hafter⟩⟩ :=
      Session.apply_ok_cases hcreated
    · split at heffect
      · exact nomatch heffect
      · split at heffect <;> exact nomatch heffect
    · split at heffect
      · exact nomatch heffect
      · split at heffect
        · next hadd =>
          cases heffect
          obtain ⟨-, -, -, rfl⟩ :=
            (Database.addRules_eq_ok_iff column h.current_tidy.distinct).mp hadd
          rw [createRule, hafter, Database.dates]
          exact List.map_append
        · exact nomatch heffect

theorem recordFire_dates (h : session.Sound) (ruleId : String) (timestamp : Int) :
    (recordFire ruleId timestamp session).2.current.dates = session.current.dates := by
  cases hfired : (recordFire ruleId timestamp session).1 with
  | error trouble => exact congrArg (List.map Rule.dates) (h.rules_of_error hfired)
  | ok fired =>
    obtain ⟨-, ⟨data, heffect, hafter⟩ | ⟨data, log, heffect, -, hafter⟩⟩ :=
      Session.apply_ok_cases hfired
    · split at heffect
      · cases heffect
        rw [recordFire, hafter]
      · dsimp only at heffect
        split at heffect <;> exact nomatch heffect
    · split at heffect
      · exact nomatch heffect
      · next rule hrule =>
        dsimp only at heffect
        split at heffect
        · cases heffect
          have hput : (session.current.putRule (rule.fire timestamp)).dates =
              session.current.dates.map fun dates =>
                if dates.id = ruleId then id dates else dates :=
            Database.dates_putRule h.current_tidy.distinct hrule rfl rfl
          rw [recordFire, hafter]
          exact hput.trans
            ((List.map_congr_left fun dates _ => ite_self dates).trans (List.map_id _))
        · exact nomatch heffect

end Store

end MailTriage

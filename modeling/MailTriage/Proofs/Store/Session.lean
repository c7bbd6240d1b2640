import MailTriage.Proofs.Store.Column
import MailTriage.Store.Ledger
import MailTriage.Store.Log
import Mathlib.Logic.Relation

/-!
# States of the store

A session starts on an empty database and is changed by calls of the store, one after another, and
by being rolled back. What holds of the stored rules in every state that can be reached so is shown
once for every kind of call: no identifier is there twice, every rule fits its columns and has been
through them, and the session sees the rules as they were last saved.
-/

namespace MailTriage

open Store

variable {session : Session}

/-- What a call of the store, or a rollback, makes of a session. -/
inductive Session.Step : Session → Session → Prop
  | create (column : NumberColumn) (now : Int) (rule : Rule) (session : Session) :
      Step session (createRule column now rule session).2
  | update (column : NumberColumn) (ruleId : String) (updates : Fields) (supply : Supply)
    (session : Session) :
      Step session (updateRule column ruleId updates supply session).2.2
  | toggle (column : NumberColumn) (ruleId : String) (supply : Supply) (session : Session) :
      Step session (toggleRule column ruleId supply session).2.2
  | delete (ruleId : String) (session : Session) : Step session (deleteRule ruleId session).2
  | replace (column : NumberColumn) (rules : List Rule) (session : Session) :
      Step session (replaceRules column rules session).2
  | fire (ruleId : String) (timestamp : Int) (session : Session) :
      Step session (recordFire ruleId timestamp session).2
  | configure (settings : RuleSettings) (session : Session) :
      Step session (setSettings settings session).2
  | append (now retentionDays : Int) (entry : LogEntry) (session : Session) :
      Step session (appendLog now retentionDays entry session).2
  | purge (now retentionDays : Int) (session : Session) :
      Step session (purgeLog now retentionDays session).2
  | save (session : Session) : Step session (saveAll session).2
  | clear (session : Session) : Step session (clearLog session).2
  | list (limit : Option Int) (session : Session) : Step session (listLog limit session).2
  | score (address : String) (points : Binary64) (session : Session) :
      Step session (adjustScore address points session).2
  | mark (emailId marker : String) (session : Session) :
      Step session (addMarker emailId marker session).2
  | summarize (emailId : String) (summary : Summary) (session : Session) :
      Step session (saveSummary emailId summary session).2
  | finish (emailId : String) (rulesFired : Int) (session : Session) :
      Step session (markProcessed emailId rulesFired session).2
  | get (ruleId : String) (session : Session) : Step session (getRule ruleId session).2
  | look {α : Type} (find : Database → α) (session : Session) : Step session (session.look find).2
  | rollback (session : Session) : Step session session.rollback

/-- The states that a session on an empty database can come to. -/
def Session.Reachable (session : Session) : Prop :=
  Relation.ReflTransGen Session.Step (Session.ofDatabase {}) session

/-- Stored rules as columns and keys keep them. -/
structure Database.Tidy (data : Database) : Prop where
  distinct : (data.rules.map Rule.id).Nodup
  normal : ∀ rule ∈ data.rules, rule.isNormal = true
  writable : ∀ rule ∈ data.rules, rule.isWritable = true
  fits : ∀ rule ∈ data.rules, rule.fits = true

/-- The rules that a session sees are those that were last saved, and these are tidy. -/
structure Session.Sound (session : Session) : Prop where
  rules_eq : session.current.rules = session.saved.rules
  tidy : session.saved.Tidy

namespace Database

theorem Tidy.of_rules_eq {data data' : Database} (h : data.Tidy)
    (hrules : data'.rules = data.rules) :
    data'.Tidy where
  distinct := hrules ▸ h.distinct
  normal := hrules ▸ h.normal
  writable := hrules ▸ h.writable
  fits := hrules ▸ h.fits

theorem Tidy.filter {data : Database} (h : data.Tidy) (keep : Rule → Bool) :
    { data with rules := data.rules.filter keep }.Tidy where
  distinct := h.distinct.sublist (List.filter_sublist.map Rule.id)
  normal rule hrule := h.normal rule (List.mem_of_mem_filter hrule)
  writable rule hrule := h.writable rule (List.mem_of_mem_filter hrule)
  fits rule hrule := h.fits rule (List.mem_of_mem_filter hrule)

theorem id_putRule (rule new : Rule) : (if rule.id = new.id then new else rule).id = rule.id := by
  split
  · next hsame => exact hsame.symm
  · rfl

theorem ids_putRule (data : Database) (new : Rule) :
    (data.putRule new).rules.map Rule.id = data.rules.map Rule.id := by
  rw [putRule, List.map_map]
  exact List.map_congr_left fun rule _ => id_putRule rule new

theorem eq_or_mem_of_mem_putRule {data : Database} {rule new : Rule}
    (h : new ∈ (data.putRule rule).rules) :
    new = rule ∨ new ∈ data.rules := by
  obtain ⟨old, hold, hput⟩ := List.mem_map.mp h
  by_cases hid : old.id = rule.id
  · exact .inl (hput.symm.trans (if_pos hid))
  · rw [if_neg hid] at hput
    exact .inr (hput ▸ hold)

theorem Tidy.putRule {data : Database} (h : data.Tidy) {rule : Rule}
    (hnormal : rule.isNormal = true) (hwritable : rule.isWritable = true)
    (hfits : rule.fits = true) : (data.putRule rule).Tidy := by
  refine ⟨?_, fun new hnew => ?_, fun new hnew => ?_, fun new hnew => ?_⟩
  · exact (ids_putRule data rule).symm ▸ h.distinct
  · exact (eq_or_mem_of_mem_putRule hnew).elim (fun he => he ▸ hnormal) (h.normal new)
  · exact (eq_or_mem_of_mem_putRule hnew).elim (fun he => he ▸ hwritable) (h.writable new)
  · exact (eq_or_mem_of_mem_putRule hnew).elim (fun he => he ▸ hfits) (h.fits new)

theorem rule?_isSome_iff {ruleId : String} {data : Database} :
    (data.rule? ruleId).isSome = true ↔ ruleId ∈ data.rules.map Rule.id := by
  simp [rule?, List.find?_isSome]

theorem of_rule?_eq_some {ruleId : String} {data : Database} {rule : Rule}
    (h : data.rule? ruleId = some rule) :
    rule ∈ data.rules ∧ rule.id = ruleId :=
  ⟨List.mem_of_find?_eq_some h, by simpa using List.find?_some h⟩

theorem rule?_putRule (data : Database) (new : Rule) (ruleId : String) :
    (data.putRule new).rule? ruleId =
      (data.rule? ruleId).map fun rule => if rule.id = new.id then new else rule := by
  rw [rule?, putRule, List.find?_map, rule?]
  congr 2
  funext rule
  exact congrArg (fun id => decide (id = ruleId)) (id_putRule rule new)

theorem rule?_putRule_self {data : Database} {ruleId : String} {old new : Rule}
    (h : data.rule? ruleId = some old) (hid : new.id = ruleId) :
    (data.putRule new).rule? ruleId = some new := by
  rw [rule?_putRule, h, Option.map_some, if_pos ((of_rule?_eq_some h).2.trans hid.symm)]

theorem rule?_putRule_of_ne (data : Database) {ruleId : String} {new : Rule} (h : ruleId ≠ new.id) :
    (data.putRule new).rule? ruleId = data.rule? ruleId := by
  rw [rule?_putRule]
  cases hrule : data.rule? ruleId with
  | none => rfl
  | some rule => rw [Option.map_some, if_neg ((of_rule?_eq_some hrule).2.trans_ne h)]

/-- Among rules with distinct identifiers no other has the identifier of the one that is found. -/
theorem eq_of_rule?_eq_some {ruleId : String} {data : Database} {rule other : Rule}
    (hids : (data.rules.map Rule.id).Nodup) (h : data.rule? ruleId = some rule)
    (hother : other ∈ data.rules) (hid : other.id = ruleId) : other = rule :=
  List.inj_on_of_nodup_map hids hother (of_rule?_eq_some h).1
    (hid.trans (of_rule?_eq_some h).2.symm)

/-- Rules get a place exactly when they all fit and no identifier comes twice. -/
theorem placeRules_eq_ok_iff (column : NumberColumn) {rules : List Rule} {data data' : Database}
    (h : (data.rules.map Rule.id).Nodup) :
    data.placeRules column rules = .ok data' ↔
      (∀ rule ∈ rules, rule.fits = true) ∧ ((data.rules ++ rules).map Rule.id).Nodup ∧
        data' = { data with rules := data.rules ++ rules.map (Rule.stored column) } := by
  induction rules generalizing data with
  | nil =>
    rw [placeRules, List.map_nil, List.append_nil, Except.ok.injEq]
    exact ⟨fun he => ⟨by simp, h, he.symm⟩, fun he => he.2.2.symm⟩
  | cons rule rest ih =>
    rw [placeRules, List.forall_mem_cons]
    by_cases hfits : rule.fits = true
    · by_cases hmem : rule.id ∈ data.rules.map Rule.id
      · have hdup : ¬((data.rules ++ rule :: rest).map Rule.id).Nodup := by
          rw [List.map_append, List.map_cons, List.nodup_append]
          exact fun hnodup => hnodup.2.2 _ hmem _ List.mem_cons_self rfl
        rw [if_neg (by simpa using hfits), if_pos (rule?_isSome_iff.mpr hmem)]
        exact ⟨(nomatch ·), fun he => absurd he.2.1 hdup⟩
      · have hnext :
            (({ data with rules := data.rules ++ [rule.stored column] } : Database).rules.map
            Rule.id).Nodup := by
          rw [List.map_append, List.nodup_append]
          refine ⟨h, by simp, fun ruleId hid other hother he => hmem ?_⟩
          rw [List.map_singleton, List.mem_singleton, Rule.stored_id] at hother
          exact hother ▸ he ▸ hid
        have hids : ((data.rules ++ [rule.stored column] ++ rest).map Rule.id) =
            (data.rules ++ rule :: rest).map Rule.id := by simp
        rw [if_neg (by simpa using hfits), if_neg (rule?_isSome_iff.not.mpr hmem), ih hnext, hids]
        simp [hfits]
    · simp [hfits]

/-- Rules are added exactly when they all fit, can be written, and no identifier comes twice. -/
theorem addRules_eq_ok_iff (column : NumberColumn) {rules : List Rule} {data data' : Database}
    (h : (data.rules.map Rule.id).Nodup) :
    data.addRules column rules = .ok data' ↔
      (∀ rule ∈ rules, rule.fits = true) ∧ (∀ rule ∈ rules, rule.isWritable = true) ∧
        ((data.rules ++ rules).map Rule.id).Nodup ∧
        data' = { data with rules := data.rules ++ rules.map (Rule.stored column) } := by
  have hplace := fun after => @placeRules_eq_ok_iff column rules data after h
  unfold addRules
  split
  · next trouble hfailed =>
    refine iff_of_false (by simp) ?_
    rintro ⟨hfits, -, hnodup, -⟩
    exact nomatch hfailed.symm.trans ((hplace _).mpr ⟨hfits, hnodup, rfl⟩)
  · next placed hplaced =>
    obtain ⟨hfits, hnodup, rfl⟩ := (hplace _).mp hplaced
    by_cases hwritable : rules.all Rule.isWritable = true
    · rw [if_pos hwritable, Except.ok.injEq, eq_comm]
      exact ⟨fun he => ⟨hfits, List.all_eq_true.mp hwritable, hnodup, he⟩, fun he => he.2.2.2⟩
    · rw [if_neg hwritable]
      exact iff_of_false (by simp) fun he => hwritable (List.all_eq_true.mpr he.2.1)

theorem Tidy.addRules {data data' : Database} (h : data.Tidy) {column : NumberColumn}
    {rules : List Rule} (hadd : data.addRules column rules = .ok data') : data'.Tidy := by
  obtain ⟨hfits, hwritable, hnodup, rfl⟩ := (addRules_eq_ok_iff column h.distinct).mp hadd
  have hnew {P : Rule → Prop} (hold : ∀ rule ∈ data.rules, P rule)
      (hgiven : ∀ rule ∈ rules, P (rule.stored column)) :
      ∀ rule ∈ data.rules ++ rules.map (Rule.stored column), P rule := by
    intro rule hrule
    rcases List.mem_append.mp hrule with hrule | hrule
    · exact hold rule hrule
    · obtain ⟨given, hmem, rfl⟩ := List.mem_map.mp hrule
      exact hgiven given hmem
  refine ⟨?_, hnew h.normal ?_, hnew h.writable ?_, hnew h.fits hfits⟩
  · rwa [List.map_append, Rule.stored_ids, ← List.map_append]
  · exact fun rule _ => rule.isNormal_stored column
  · exact fun rule hrule => Rule.isWritable_stored column (hwritable rule hrule)

end Database

namespace Session

theorem sound_ofDatabase {data : Database} (h : data.Tidy) : (ofDatabase data).Sound := ⟨rfl, h⟩

theorem Sound.rollback (h : session.Sound) : session.rollback.Sound := sound_ofDatabase h.tidy

theorem Sound.current_tidy (h : session.Sound) : session.current.Tidy :=
  h.tidy.of_rules_eq h.rules_eq

theorem Sound.abort (h : session.Sound) : session.abort.Sound := ⟨rfl, h.tidy⟩

theorem Sound.save (h : session.Sound) {α : Type} (result : α) {data : Database}
    (hdata : data.Tidy) :
    (session.save result data).2.Sound := by
  unfold Session.save
  split
  · exact sound_ofDatabase (hdata.of_rules_eq rfl)
  · exact h.abort

end Session

/-- An effect on data with given rules is harmless when it saves tidy rules only, and leaves the
rules alone as long as they are not saved. -/
def Effect.Harmless {α : Type} (rules : List Rule) : Effect α → Prop
  | .refuse _ => True
  | .abort _ => True
  | .keep _ data => data.rules = rules
  | .save _ data => data.Tidy

namespace Session

theorem Sound.apply (h : session.Sound) {α : Type} {effect : Database → Effect α}
    (heffect : (effect session.current).Harmless session.current.rules) :
    (Session.apply effect session).2.Sound := by
  unfold Session.apply
  split
  · exact h
  · split
    · exact h
    · exact h.abort
    · next result data hkeep =>
      rw [hkeep] at heffect
      exact ⟨heffect.trans h.rules_eq, h.tidy⟩
    · next result data hsave =>
      rw [hsave] at heffect
      exact h.save result heffect

/-- An operation that succeeds keeps its change for later, or saves it together with what waits. -/
theorem apply_ok_cases {α : Type} {effect : Database → Effect α} {result : α}
    (h : (Session.apply effect session).1 = .ok result) :
    session.stalled = false ∧
      ((∃ data, effect session.current = .keep result data ∧
          (Session.apply effect session).2 = { session with current := data }) ∨
        ∃ (data : Database) (log : Journal), effect session.current = .save result data ∧
          data.log.addAll session.unsaved = .ok log ∧
          (Session.apply effect session).2 = ofDatabase { data with log := log }) := by
  unfold Session.apply at h ⊢
  split at h
  · exact nomatch h
  · next hstalled =>
    refine ⟨Bool.not_eq_true _ ▸ hstalled, ?_⟩
    rw [if_neg hstalled]
    split at h
    · exact nomatch h
    · exact nomatch h
    · next data hkeep =>
      obtain rfl := Except.ok.inj h
      exact .inl ⟨data, hkeep, rfl⟩
    · next data hsave =>
      unfold Session.save at h ⊢
      split at h
      · next log hlog =>
        obtain rfl := Except.ok.inj h
        exact .inr ⟨data, log, hsave, hlog, rfl⟩
      · exact nomatch h

theorem Sound.rules_of_error (h : session.Sound) {α : Type} {effect : Database → Effect α}
    {trouble : Trouble} (herror : (Session.apply effect session).1 = .error trouble) :
    (Session.apply effect session).2.current.rules = session.current.rules := by
  unfold Session.apply at herror ⊢
  split
  · rfl
  · next hstalled =>
    rw [if_neg hstalled] at herror
    cases heffect : effect session.current with
    | refuse trouble => rfl
    | abort trouble => exact h.rules_eq.symm
    | keep result data => rw [heffect] at herror; exact nomatch herror
    | save result data =>
      rw [heffect] at herror
      unfold Session.save at herror ⊢
      dsimp only at herror ⊢
      split
      · next hlog => rw [hlog] at herror; exact nomatch herror
      · exact h.rules_eq.symm

theorem saved_of_error {α : Type} {effect : Database → Effect α} {trouble : Trouble}
    (h : (Session.apply effect session).1 = .error trouble) :
    (Session.apply effect session).2.saved = session.saved := by
  unfold Session.apply at h ⊢
  split
  · rfl
  · next hstalled =>
    rw [if_neg hstalled] at h
    cases heffect : effect session.current with
    | refuse trouble => rfl
    | abort trouble => rfl
    | keep result data => rfl
    | save result data =>
      rw [heffect] at h
      unfold Session.save at h ⊢
      dsimp only at h ⊢
      split
      · next hlog => rw [hlog] at h; exact nomatch h
      · rfl

theorem look_snd {α : Type} (find : Database → α) (session : Session) :
    (session.look find).2 = session := by
  unfold Session.look Session.apply
  split <;> rfl

theorem getRule_session (ruleId : String) (session : Session) :
    (getRule ruleId session).2 = session := by
  unfold getRule Session.apply
  split
  · rfl
  · cases hfind : session.current.rule? ruleId <;> simp only [hfind]

theorem getRule_ok {ruleId : String} {rule : Rule} (h : (getRule ruleId session).1 = .ok rule) :
    session.current.rule? ruleId = some rule := by
  obtain ⟨-, ⟨data, heffect, -⟩ | ⟨data, log, heffect, -⟩⟩ := apply_ok_cases h <;>
    cases hrule : session.current.rule? ruleId <;> rw [hrule] at heffect <;> cases heffect
  rfl

theorem harmless_writeRule (h : session.Sound) (column : NumberColumn) (rule : Rule) :
    (writeRule column rule session.current).Harmless session.current.rules := by
  unfold writeRule
  split
  · trivial
  · next hfits =>
    split
    · trivial
    · next hwritable =>
      rw [Bool.not_eq_true', Bool.not_eq_false] at hfits hwritable
      exact h.current_tidy.putRule (rule.isNormal_stored column)
        (Rule.isWritable_stored column hwritable) hfits

theorem Sound.createRule (h : session.Sound) (column : NumberColumn) (now : Int) (rule : Rule) :
    (Store.createRule column now rule session).2.Sound := by
  refine h.apply ?_
  split
  · trivial
  · split
    · next data hadd => exact h.current_tidy.addRules hadd
    · trivial

theorem Sound.replaceRules (h : session.Sound) (column : NumberColumn) (rules : List Rule) :
    (Store.replaceRules column rules session).2.Sound := by
  refine h.apply ?_
  split
  · next data hadd => exact Database.Tidy.addRules ⟨by simp, by simp, by simp, by simp⟩ hadd
  · trivial

/-- A rule that fires has been stored, so only its counters can fail to fit. -/
theorem Sound.recordFire (h : session.Sound) (ruleId : String) (timestamp : Int) :
    (Store.recordFire ruleId timestamp session).2.Sound := by
  have htidy := h.current_tidy
  refine h.apply ?_
  split
  · exact rfl
  · next rule hfind =>
    dsimp only
    split
    · next hfits =>
      have hmem := List.mem_of_find?_eq_some hfind
      exact htidy.putRule (htidy.normal rule hmem) (htidy.writable rule hmem) hfits
    · trivial

theorem Sound.updateRule (h : session.Sound) (column : NumberColumn) (ruleId : String)
    (updates : Fields) (supply : Supply) :
    (Store.updateRule column ruleId updates supply session).2.2.Sound := by
  have hsession := getRule_session ruleId session
  unfold Store.updateRule
  split
  · next trouble after hget =>
    rw [hget] at hsession
    exact hsession ▸ h
  · next rule after hget =>
    rw [hget] at hsession
    obtain rfl : after = session := hsession
    dsimp only
    split
    · exact h
    · next rule supply hread =>
      have hwritten := h.apply (harmless_writeRule h column rule)
      split <;> next houtcome => rwa [houtcome] at hwritten

theorem Sound.toggleRule (h : session.Sound) (column : NumberColumn) (ruleId : String)
    (supply : Supply) :
    (Store.toggleRule column ruleId supply session).2.2.Sound := by
  have hsession := getRule_session ruleId session
  unfold Store.toggleRule
  split <;> next hget =>
    rw [hget] at hsession
    obtain rfl := hsession
    first
    | exact h
    | exact h.updateRule ..

theorem Sound.purgeLog (h : session.Sound) (now retentionDays : Int) :
    (Store.purgeLog now retentionDays session).2.Sound := by
  refine h.apply ?_
  dsimp only
  split
  · exact rfl
  · trivial

theorem Sound.saveAll (h : session.Sound) : (Store.saveAll session).2.Sound :=
  h.apply h.current_tidy

theorem Sound.appendLog (h : session.Sound) (now retentionDays : Int) (entry : LogEntry) :
    (Store.appendLog now retentionDays entry session).2.Sound := by
  have hwaiting : { session with unsaved := session.unsaved ++ [entry] }.Sound :=
    ⟨h.rules_eq, h.tidy⟩
  have hpurged := hwaiting.purgeLog now retentionDays
  unfold Store.appendLog
  dsimp only
  split <;> next hpurge =>
    rw [hpurge] at hpurged
    first
    | exact hpurged
    | exact hpurged.saveAll

theorem Sound.step {next : Session} (h : session.Sound) (hstep : session.Step next) :
    next.Sound := by
  have htidy := h.current_tidy
  cases hstep with
  | create column now rule => exact h.createRule column now rule
  | update column ruleId updates supply => exact h.updateRule column ruleId updates supply
  | toggle column ruleId supply => exact h.toggleRule column ruleId supply
  | delete ruleId =>
    refine h.apply ?_
    split
    · exact rfl
    · exact htidy.filter _
  | replace column rules => exact h.replaceRules column rules
  | fire ruleId timestamp => exact h.recordFire ruleId timestamp
  | append now retentionDays entry => exact h.appendLog now retentionDays entry
  | purge now retentionDays => exact h.purgeLog now retentionDays
  | save => exact h.saveAll
  | list limit =>
    refine h.apply ?_
    split
    · exact rfl
    · split
      · trivial
      · exact rfl
  | score address points =>
    unfold adjustScore
    split
    · exact h
    · refine h.apply ?_
      dsimp only
      split
      · trivial
      · exact htidy.of_rules_eq rfl
  | mark emailId marker =>
    refine h.apply ?_
    split
    · exact rfl
    · exact htidy.of_rules_eq rfl
  | finish emailId rulesFired =>
    refine h.apply ?_
    split
    · exact htidy.of_rules_eq rfl
    · trivial
  | get ruleId => rwa [getRule_session]
  | look find => exact h.apply rfl
  | rollback => exact h.rollback
  | configure _ | clear | summarize _ _ => exact h.apply (htidy.of_rules_eq rfl)

theorem Reachable.sound (h : session.Reachable) : session.Sound := by
  induction h with
  | refl => exact sound_ofDatabase ⟨List.nodup_nil, by simp, by simp, by simp⟩
  | tail _ hstep ih => exact ih.step hstep

end Session

end MailTriage

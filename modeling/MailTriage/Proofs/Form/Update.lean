import MailTriage.Proofs.Form.Rule
import MailTriage.Store.Rules
import Mathlib.Tactic

/-!
# Rules read from updated forms

The form of a rule with updates has the values of the updates, and those of the rule under all other
keys. What is read from it has the identifier of the rule as long as the updates leave that alone.
The two times have two keys each, and the form of a rule has the second of these: an update under
the first is read in its place. So it is with the counters, which stay as they are when the updates
name neither.
-/

namespace MailTriage

open Form

/-! ## Fields of updated forms -/

namespace Fields

theorem get?_eq_none {key : String} {fields : Fields} (h : key ∉ fields.map Prod.fst) :
    fields.get? key = none := by
  induction fields with
  | nil => rfl
  | cons entry rest ih =>
    rw [List.map_cons, List.mem_cons, not_or] at h
    exact (if_neg (Ne.symm h.1)).trans (ih h.2)

theorem get?_erase_self (key : String) (fields : Fields) : (fields.erase key).get? key = none :=
  get?_eq_none (by simp [erase])

theorem get?_erase_of_ne {key other : String} (h : other ≠ key) (fields : Fields) :
    (fields.erase key).get? other = fields.get? other := by
  induction fields with
  | nil => rfl
  | cons entry rest ih =>
    obtain ⟨k, v⟩ := entry
    by_cases hk : k = key
    · subst hk
      simpa [erase, get?, Ne.symm h] using ih
    · by_cases ho : k = other
      · subst ho
        simp [erase, get?, h]
      · simpa [erase, get?, hk, ho] using ih

theorem keys_set (key : String) (value : Value) (fields : Fields) :
    (fields.set key value).map Prod.fst =
      if key ∈ fields.map Prod.fst then fields.map Prod.fst else fields.map Prod.fst ++ [key] := by
  induction fields with
  | nil => rfl
  | cons entry rest ih =>
    obtain ⟨k, v⟩ := entry
    by_cases hk : k = key
    · simp [set, hk]
    · rw [set, if_neg hk, List.map_cons, ih]
      by_cases hmem : key ∈ rest.map Prod.fst <;> simp [hmem, Ne.symm hk]

theorem nodup_set {fields : Fields} (h : (fields.map Prod.fst).Nodup) (key : String)
    (value : Value) :
    ((fields.set key value).map Prod.fst).Nodup := by
  rw [keys_set]
  split
  · exact h
  · next hmem => exact List.nodup_append.mpr ⟨h, by simp, fun a ha b hb hab => by simp_all⟩

theorem nodup_erase {fields : Fields} (h : (fields.map Prod.fst).Nodup) (key : String) :
    ((fields.erase key).map Prod.fst).Nodup :=
  h.sublist (List.filter_sublist.map Prod.fst)

theorem get?_merge {updates : Fields} (h : (updates.map Prod.fst).Nodup) (fields : Fields)
    (key : String) :
    (fields.merge updates).get? key = (updates.get? key).or (fields.get? key) := by
  induction updates generalizing fields with
  | nil => rfl
  | cons entry rest ih =>
    obtain ⟨k, v⟩ := entry
    rw [List.map_cons, List.nodup_cons] at h
    rw [show fields.merge ((k, v) :: rest) = (fields.set k v).merge rest from rfl, ih h.2]
    by_cases hk : k = key
    · subst hk
      rw [get?_set_self, get?_eq_none h.1]
      simp [get?]
    · rw [get?_set_of_ne (Ne.symm hk)]
      simp [get?, hk]

end Fields

/-! ## Times in forms -/

namespace Form

def integer? (value : Value) : Option Int := (integer value { now := 0 }).1.toOption

/-- Reading an integer issues no identifier and does not look at the time. -/
theorem integer_fst (value : Value) (supply supply' : Supply) :
    (integer value supply).1 = (integer value supply').1 := by
  cases value with
  | float x =>
    unfold integer
    dsimp only
    cases integerOfFloat x <;> rfl
  | text s =>
    unfold integer
    dsimp only
    cases Number.formInteger s.toList with
    | ok n => rfl
    | error fault => cases fault <;> rfl
  | null | bool | int | list | object => rfl

theorem integer?_eq_some {value : Value} {supply : Supply} {n : Int}
    (h : (integer value supply).1 = .ok n) :
    integer? value = some n := by
  rw [integer?, integer_fst value _ supply, h]
  rfl

/-- An integer with two keys, of which the second is there, is the one under the first key if there
is one. -/
theorem integer_field {first second : String} {form : Fields} {n m : Int} {absent : Gather Int}
    {supply : Supply} (hsecond : form.get? second = some (.int n))
    (h : (field [first, second] integer absent form supply).1 = .ok m) :
    m = ((form.get? first).bind integer?).getD n := by
  unfold field firstPresent? at h
  rw [List.findSome?_cons] at h
  cases hfirst : form.get? first with
  | none =>
    rw [hfirst, List.findSome?_cons, hsecond] at h
    exact (Except.ok.inj h).symm
  | some value =>
    rw [hfirst] at h
    have hread : (integer value supply).1 = .ok m := by
      change ((integer value).under first supply).1 = .ok m at h
      unfold Gather.under at h
      split at h
      · next hvalue => rw [hvalue]; exact h
      · exact nomatch h
    rw [Option.bind_some, integer?_eq_some hread]
    rfl

theorem eq_of_field {α : Type} {read : Reader α} {absent : Gather α} {key : String}
    {keys : List String} {form : Fields} {value : Value} {a b : α}
    (hvalue : form.get? key = some value) (hread : read value = pure a)
    (h : ∃ supply, (field (key :: keys) read absent form supply).1 = .ok b) : b = a := by
  obtain ⟨_, h⟩ := h
  rw [field_eq_pure hvalue hread] at h
  exact Gather.eq_of_pure_eq_ok h

theorem eq_of_second_field {α : Type} {read : Reader α} {absent : Gather α} {first key : String}
    {keys : List String} {form : Fields} {value : Value} {a b : α} (hfirst : form.get? first = none)
    (hvalue : form.get? key = some value) (hread : read value = pure a)
    (h : ∃ supply, (field (first :: key :: keys) read absent form supply).1 = .ok b) :
    b = a :=
  eq_of_field hvalue hread (field_of_absent hfirst (key :: keys) absent ▸ h)

end Form

def Fields.integer? (key : String) (updates : Fields) : Option Int :=
  (updates.get? key).bind Form.integer?

/-! ## Parts of rules -/

/-- Each field of a rule is what is read for it from a form. -/
structure Rule.PartsOf (form : Fields) (rule : Rule) : Prop where
  id : ∃ supply, (field ["id"] text (.issue "rule") form supply).1 = .ok rule.id
  name : ∃ supply, (required ["name"] text form supply).1 = .ok rule.name
  description : ∃ supply,
    (defaulting ["description"] (optional text) none form supply).1 = .ok rule.description
  enabled : ∃ supply, (defaulting ["enabled"] boolean true form supply).1 = .ok rule.enabled
  conditions : ∃ supply,
    (defaulting ["conditions"] (listOf Condition.read) [] form supply).1 = .ok rule.conditions
  logic : ∃ supply,
    (defaulting ["logicOperator", "logic_operator"] (among Logic.options) .and form supply).1 =
    .ok rule.logic
  actions : ∃ supply,
    (defaulting ["actions"] (listOf Action.read) [] form supply).1 = .ok rule.actions
  createdAt : ∃ supply,
    (field ["createdAt", "created_at"] integer .now form supply).1 = .ok rule.createdAt
  lastModified : ∃ supply,
    (field ["lastModified", "last_modified"] integer .now form supply).1 = .ok rule.lastModified
  executionCount :
    ∃ supply, (defaulting ["executionCount", "execution_count"] natural 0 form supply).1 =
    .ok rule.executionCount
  lastExecuted : ∃ supply,
    (defaulting ["lastExecuted", "last_executed"] (optional integer) none form supply).1 =
    .ok rule.lastExecuted

theorem Rule.partsOf_of_read {form : Fields} {supply : Supply} {rule : Rule}
    (h : (Rule.read (.object form) supply).1 = .ok rule) : PartsOf form rule := by
  unfold Rule.read record at h
  dsimp only at h
  obtain ⟨_, _, h, hlastExecuted, _⟩ := Gather.parts_of_seq_eq_ok h
  obtain ⟨_, _, h, hexecutionCount, _⟩ := Gather.parts_of_seq_eq_ok h
  obtain ⟨_, _, h, hlastModified, _⟩ := Gather.parts_of_seq_eq_ok h
  obtain ⟨_, _, h, hcreatedAt, _⟩ := Gather.parts_of_seq_eq_ok h
  obtain ⟨_, _, h, hactions, _⟩ := Gather.parts_of_seq_eq_ok h
  obtain ⟨_, _, h, hlogic, _⟩ := Gather.parts_of_seq_eq_ok h
  obtain ⟨_, _, h, hconditions, _⟩ := Gather.parts_of_seq_eq_ok h
  obtain ⟨_, _, h, henabled, _⟩ := Gather.parts_of_seq_eq_ok h
  obtain ⟨_, _, h, hdescription, _⟩ := Gather.parts_of_seq_eq_ok h
  obtain ⟨_, _, h, hname, _⟩ := Gather.parts_of_seq_eq_ok h
  obtain ⟨_, hid, _⟩ := Gather.part_of_map_eq_ok h
  subst_vars
  exact ⟨⟨_, hid⟩, ⟨_, hname⟩, ⟨_, hdescription⟩, ⟨_, henabled⟩, ⟨_, hconditions⟩, ⟨_, hlogic⟩,
    ⟨_, hactions⟩,
    ⟨_, hcreatedAt⟩, ⟨_, hlastModified⟩, ⟨_, hexecutionCount⟩, ⟨_, hlastExecuted⟩⟩

theorem Rule.times_of_read {form : Fields} {supply : Supply} {rule : Rule} {ruleId : String}
    {created modified : Int} (hid : form.get? "id" = some (.text ruleId))
    (hcreated : form.get? "created_at" = some (.int created))
    (hmodified : form.get? "last_modified" = some (.int modified))
    (h : (Rule.read (.object form) supply).1 = .ok rule) :
    rule.id = ruleId ∧ rule.createdAt = (form.integer? "createdAt").getD created ∧
      rule.lastModified = (form.integer? "lastModified").getD modified := by
  have hparts := partsOf_of_read h
  obtain ⟨_, hreadCreated⟩ := hparts.createdAt
  obtain ⟨_, hreadModified⟩ := hparts.lastModified
  exact ⟨eq_of_field hid rfl hparts.id, integer_field hcreated hreadCreated,
    integer_field hmodified hreadModified⟩

/-- Updates as the store takes them: without identifier and time of creation, and with the time of
the change. -/
def Fields.stamped (now : Int) (updates : Fields) : Fields :=
  ((updates.erase "id").erase "created_at").set "last_modified" (.int now)

/-- Updates as the store takes them have every other value that they had. -/
theorem Fields.get?_stamped {key : String} (hid : key ≠ "id") (hcreated : key ≠ "created_at")
    (hmodified : key ≠ "last_modified") (now : Int) (updates : Fields) :
    (updates.stamped now).get? key = updates.get? key := by
  rw [stamped, get?_set_of_ne hmodified, get?_erase_of_ne hcreated, get?_erase_of_ne hid]

/-- The form of a rule has the values of the updates, and under all other keys those of the rule. -/
theorem Rule.get?_formWith {updates : Fields} (h : (updates.map Prod.fst).Nodup) (rule : Rule)
    (now : Int) (key : String) : (rule.formWith (updates.stamped now)).get? key =
      ((updates.stamped now).get? key).or ((rule.formWith []).get? key) := by
  have hstamped : ((updates.stamped now).map Prod.fst).Nodup :=
    Fields.nodup_set (Fields.nodup_erase (Fields.nodup_erase h _) _) _ _
  exact Fields.get?_merge hstamped _ key

/-- A rule that is read with updates has the identifier that it had. Both times are as they should
be unless there are others among the updates, under the first of their keys. -/
theorem Rule.times_of_update {rule updated : Rule} {updates : Fields}
    (hkeys : (updates.map Prod.fst).Nodup) {now : Int} {supply : Supply}
    (h : (Rule.read (.object (rule.formWith (updates.stamped now))) supply).1 = .ok updated) :
    updated.id = rule.id ∧ updated.createdAt = (updates.integer? "createdAt").getD rule.createdAt ∧
      updated.lastModified = (updates.integer? "lastModified").getD now := by
  have hform := Rule.get?_formWith hkeys rule now
  have hid : (rule.formWith (updates.stamped now)).get? "id" = some (.text rule.id) := by
    rw [hform, Fields.stamped, Fields.get?_set_of_ne (by decide),
      Fields.get?_erase_of_ne (by decide), Fields.get?_erase_self]
    rfl
  have hcreated :
      (rule.formWith (updates.stamped now)).get? "created_at" = some (.int rule.createdAt) := by
    rw [hform, Fields.stamped, Fields.get?_set_of_ne (by decide), Fields.get?_erase_self]
    rfl
  have hmodified :
      (rule.formWith (updates.stamped now)).get? "last_modified" = some (.int now) := by
    rw [hform, Fields.stamped, Fields.get?_set_self]
    rfl
  have hother (key : String) (hid : key ≠ "id") (hcreated : key ≠ "created_at")
      (hmodified : key ≠ "last_modified")
      (hnone : (rule.formWith []).get? key = none) :
      (rule.formWith (updates.stamped now)).integer? key = updates.integer? key := by
    rw [Fields.integer?, hform, hnone, Option.or_none, Fields.get?_stamped hid hcreated hmodified,
      Fields.integer?]
  have htimes := Rule.times_of_read hid hcreated hmodified h
  rwa [hother "createdAt" (by decide) (by decide) (by decide) rfl,
    hother "lastModified" (by decide) (by decide) (by decide) rfl] at htimes

/-! ## Counters in updated forms -/

/-- Updates that name none of the counters of a rule, under neither of its keys. -/
def Fields.NamesNoCounter (updates : Fields) : Prop :=
  ∀ key ∈ ["executionCount", "execution_count", "lastExecuted", "last_executed"],
    key ∉ updates.map Prod.fst

theorem Rule.counters_of_read {form : Fields} {supply : Supply} {rule : Rule} {count : Nat}
    {last : Option Int} (hcount : form.get? "executionCount" = none)
    (hcount' : form.get? "execution_count" = some (.nat count))
    (hlast : form.get? "lastExecuted" = none)
    (hlast' : form.get? "last_executed" = some (.ofInt? last))
    (h : (Rule.read (.object form) supply).1 = .ok rule) :
    rule.executionCount = count ∧ rule.lastExecuted = last := by
  have hparts := partsOf_of_read h
  exact ⟨eq_of_second_field hcount hcount' (natural_nat count) hparts.executionCount,
    eq_of_second_field hlast hlast' (optional_ofInt? last) hparts.lastExecuted⟩

theorem Rule.counters_of_update {rule updated : Rule} {updates : Fields}
    (hkeys : (updates.map Prod.fst).Nodup) (hupdates : updates.NamesNoCounter) {now : Int}
    {supply : Supply}
    (h : (Rule.read (.object (rule.formWith (updates.stamped now))) supply).1 = .ok updated) :
    updated.executionCount = rule.executionCount ∧ updated.lastExecuted = rule.lastExecuted := by
  have hform (key : String) (hid : key ≠ "id") (hcreated : key ≠ "created_at")
      (hmodified : key ≠ "last_modified")
      (hkey : key ∈ ["executionCount", "execution_count", "lastExecuted", "last_executed"]) :
      (rule.formWith (updates.stamped now)).get? key = (rule.formWith []).get? key := by
    rw [Rule.get?_formWith hkeys, Fields.get?_stamped hid hcreated hmodified,
      Fields.get?_eq_none (hupdates key hkey)]
    rfl
  apply Rule.counters_of_read _ _ _ _ h
  · rw [hform "executionCount" (by decide) (by decide) (by decide) (by simp)]
    rfl
  · rw [hform "execution_count" (by decide) (by decide) (by decide) (by simp)]
    rfl
  · rw [hform "lastExecuted" (by decide) (by decide) (by decide) (by simp)]
    rfl
  · rw [hform "last_executed" (by decide) (by decide) (by decide) (by simp)]
    rfl

/-! ## What updates leave alone -/

/-- Updates that have none of the keys of a field. -/
def Fields.LeavesOut (keys : List String) (updates : Fields) : Prop :=
  ∀ key ∈ keys, key ∉ updates.map Prod.fst

/-- A rule that has every field of another that updates do not name, under any key, the time of the
last change apart. An update cannot name the identifier, nor the time of creation under its long
name. -/
structure Rule.KeepsUnnamed (updates : Fields) (old new : Rule) : Prop where
  id : new.id = old.id
  name : updates.LeavesOut ["name"] → new.name = old.name
  description : updates.LeavesOut ["description"] → new.description = old.description
  enabled : updates.LeavesOut ["enabled"] → new.enabled = old.enabled
  conditions : updates.LeavesOut ["conditions"] → new.conditions = old.conditions
  logic : updates.LeavesOut ["logicOperator", "logic_operator"] → new.logic = old.logic
  actions : updates.LeavesOut ["actions"] → new.actions = old.actions
  createdAt : updates.LeavesOut ["createdAt"] → new.createdAt = old.createdAt
  executionCount : updates.LeavesOut ["executionCount", "execution_count"] → new.executionCount =
    old.executionCount
  lastExecuted :
    updates.LeavesOut ["lastExecuted", "last_executed"] → new.lastExecuted = old.lastExecuted

theorem Condition.read_long (condition : Condition) :
    Condition.read (.object
      [("id", .text condition.id), ("type", .text condition.kind),
        ("operator", .text condition.operator),
       ("value", condition.expected), ("case_sensitive", .bool condition.caseSensitive)]) =
         pure condition := by
  unfold Condition.read record required defaulting
  dsimp only
  rw [field_eq_pure rfl condition.read_expected]
  rfl

theorem Rule.keepsUnnamed_of_update {rule updated : Rule} {updates : Fields}
    (hkeys : (updates.map Prod.fst).Nodup) {now : Int} {supply : Supply}
    (h : (Rule.read (.object (rule.formWith (updates.stamped now))) supply).1 = .ok updated) :
    rule.KeepsUnnamed updates updated := by
  have hparts := partsOf_of_read h
  obtain ⟨hid, hcreated, -⟩ := times_of_update hkeys h
  have hform {keys : List String} (hleft : updates.LeavesOut keys) (key : String)
      (hkey : key ∈ keys)
      (hown : key ∉ ["id", "created_at", "last_modified"]) :
      (rule.formWith (updates.stamped now)).get? key = (rule.formWith []).get? key := by
    simp only [List.mem_cons, List.not_mem_nil, or_false, not_or] at hown
    rw [get?_formWith hkeys, Fields.get?_stamped hown.1 hown.2.1 hown.2.2,
      Fields.get?_eq_none (hleft key hkey)]
    rfl
  constructor
  case id => exact hid
  case createdAt =>
    intro hleft
    rw [hcreated, Fields.integer?, Fields.get?_eq_none (hleft _ List.mem_cons_self)]
    rfl
  case name =>
    exact fun hleft => eq_of_field (hform hleft "name" (by simp) (by decide)) rfl hparts.name
  case description =>
    exact fun hleft => eq_of_field (hform hleft "description" (by simp) (by decide))
      (optional_ofText? _) hparts.description
  case enabled =>
    exact fun hleft => eq_of_field (hform hleft "enabled" (by simp) (by decide)) rfl hparts.enabled
  case conditions =>
    exact fun hleft => eq_of_field (hform hleft "conditions" (by simp) (by decide))
      (listOf_map Condition.read_long _) hparts.conditions
  case logic =>
    exact fun hleft => eq_of_second_field (hform hleft "logicOperator" (by simp) (by decide))
      (hform hleft "logic_operator" (by simp) (by decide)) (among_name _) hparts.logic
  case actions =>
    exact fun hleft => eq_of_field (hform hleft "actions" (by simp) (by decide))
      (listOf_map Action.read_toValue _) hparts.actions
  case executionCount =>
    exact fun hleft => eq_of_second_field (hform hleft "executionCount" (by simp) (by decide))
      (hform hleft "execution_count" (by simp) (by decide)) (natural_nat _) hparts.executionCount
  case lastExecuted =>
    exact fun hleft => eq_of_second_field (hform hleft "lastExecuted" (by simp) (by decide))
      (hform hleft "last_executed" (by simp) (by decide)) (optional_ofInt? _) hparts.lastExecuted

theorem Rule.read_formWith_nil (rule : Rule) :
    Rule.read (.object (rule.formWith [])) = pure rule := by
  unfold Rule.read record required defaulting
  dsimp only
  rw [field_eq_pure rfl (optional_ofText? rule.description),
    field_eq_pure rfl (listOf_map Condition.read_long rule.conditions),
    field_of_absent (show (rule.formWith []).get? "logicOperator" = none from rfl),
    field_eq_pure rfl (among_name rule.logic),
    field_eq_pure rfl (listOf_map Action.read_toValue rule.actions),
    field_of_absent (show (rule.formWith []).get? "executionCount" = none from rfl),
    field_eq_pure rfl (natural_nat rule.executionCount),
    field_of_absent (show (rule.formWith []).get? "lastExecuted" = none from rfl),
    field_eq_pure rfl (optional_ofInt? rule.lastExecuted)]
  rfl

theorem Rule.read_switched (rule : Rule) (enabled : Bool) (now : Int) :
    Rule.read (.object (rule.formWith (Fields.stamped now [("enabled", .bool enabled)]))) =
      pure { rule with enabled := enabled, lastModified := now } := by
  have hform : rule.formWith (Fields.stamped now [("enabled", .bool enabled)]) =
      { rule with enabled := enabled, lastModified := now }.formWith [] := rfl
  rw [hform, read_formWith_nil]

end MailTriage

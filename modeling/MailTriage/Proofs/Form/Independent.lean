import MailTriage.Form.Record
import MailTriage.Proofs.Form.Gather

/-!
# Readings that do not depend on the supply

Whether a form can be read has nothing to do with the time of reading, or with the identifiers
issued before. This is kept by each way of combining readings, though what is read may well be a new
identifier. So a value can be said to be a rule, without a word about when.
-/

namespace MailTriage.Form

variable {α β : Type} {supply : Supply}

/-- A reading that succeeds with every supply if it does with one. -/
def Gather.Independent (x : Gather α) : Prop :=
  ∀ ⦃supply⦄, (∃ a, (x supply).1 = .ok a) → ∀ other, ∃ a, (x other).1 = .ok a

namespace Gather.Independent

theorem pure (a : α) : Independent (Pure.pure a : Gather α) := fun _ _ _ => ⟨a, rfl⟩

theorem refuse (fault : Fault) : (Gather.refuse fault : Gather α).Independent :=
  fun _ ⟨_, h⟩ => nomatch h

theorem ofExcept (result : Except Fault α) : (Gather.ofExcept result).Independent := by
  cases result with
  | ok a => exact .pure a
  | error fault => exact .refuse fault

theorem issue (kind : String) : (Gather.issue kind).Independent :=
  fun _ _ other => ⟨(other.issue kind).1, rfl⟩

theorem now : Gather.now.Independent := fun _ _ other => ⟨other.now, rfl⟩

theorem seq {f : Gather (α → β)} {x : Gather α} (hf : f.Independent) (hx : x.Independent) :
    (f <*> x).Independent := by
  intro supply h other
  rw [exists_seq_eq_ok_iff] at h ⊢
  exact ⟨hf h.1 other, hx h.2 _⟩

theorem map (f : α → β) {x : Gather α} (h : x.Independent) : (f <$> x).Independent :=
  (Independent.pure f).seq h

theorem under (key : String) {x : Gather α} (h : x.Independent) : (x.under key).Independent := by
  intro supply hunder other
  rw [exists_under_eq_ok_iff] at hunder ⊢
  exact h hunder other

end Gather.Independent

/-! ## Readers -/

/-- A way of reading that accepts the same values with every supply. -/
def Reader.Independent (read : Reader α) : Prop := ∀ value, (read value).Independent

/-- A value that can be read, with whichever supply. -/
def Reader.Accepts (read : Reader α) (value : Value) : Prop :=
  ∃ supply a, (read value supply).1 = .ok a

theorem Reader.Independent.exists_ok_iff {read : Reader α} (h : Reader.Independent read)
    (value : Value) (supply : Supply) :
    (∃ a, (read value supply).1 = .ok a) ↔ Reader.Accepts read value :=
  ⟨fun hread => ⟨supply, hread⟩, fun ⟨_, hread⟩ => h value hread supply⟩

theorem independent_text : Reader.Independent text := by
  intro value
  cases value with
  | text s => exact .pure s
  | null | bool | int | float | list | object => exact .refuse _

theorem independent_boolean : Reader.Independent boolean := by
  intro value
  unfold boolean
  split
  · exact .pure _
  · exact .ofExcept _
  · split
    · exact .ofExcept _
    · exact .refuse _
  · dsimp only
    split
    · exact .pure _
    · split
      · exact .pure _
      · exact .refuse _
  · exact .refuse _

/-- An integer is read without the supply, so that a further condition on it does not depend on the
supply either. -/
theorem exists_integer_eq (value : Value) : ∃ result, integer value = .ofExcept result := by
  unfold integer
  split
  · exact ⟨.ok _, rfl⟩
  · exact ⟨.ok _, rfl⟩
  · exact ⟨integerOfFloat _, rfl⟩
  · split
    · exact ⟨.ok _, rfl⟩
    · exact ⟨.error .unreadableInteger, rfl⟩
    · exact ⟨.error .oversizedInteger, rfl⟩
  · exact ⟨.error .notInteger, rfl⟩

theorem independent_integer : Reader.Independent integer := by
  intro value
  obtain ⟨result, hresult⟩ := exists_integer_eq value
  exact hresult ▸ .ofExcept result

theorem independent_natural : Reader.Independent natural := by
  intro value
  obtain ⟨result, hresult⟩ := exists_integer_eq value
  rw [natural, hresult]
  cases result with
  | ok n => exact .ofExcept _
  | error fault => exact .refuse fault

theorem independent_among (options : List (String × α)) : Reader.Independent (among options) := by
  intro value
  unfold among
  split
  · exact .pure _
  · exact .refuse _

theorem independent_mapping : Reader.Independent mapping := by
  intro value
  cases value with
  | object fields => exact .pure fields
  | null | bool | int | float | text | list => exact .refuse _

theorem independent_optional {read : Reader α} (h : Reader.Independent read) :
    Reader.Independent (optional read) := by
  intro value
  cases value with
  | null => exact .pure none
  | bool | int | float | text | list | object => exact (h _).map some

theorem independent_listOf {read : Reader α} (h : Reader.Independent read) :
    Reader.Independent (listOf read) := by
  intro value
  cases value with
  | list items =>
    intro supply hread other
    have hitems :=
      exists_readItems_eq_ok_iff (fun item supply => h.exists_ok_iff item supply) 0 items
    exact (hitems other).mpr ((hitems supply).mp hread)
  | null | bool | int | float | text | object => exact .refuse _

/-! ## Fields -/

theorem independent_field {read : Reader α} (h : Reader.Independent read) {absent : Gather α}
    (habsent : absent.Independent) (keys : List String) (fields : Fields) :
    (field keys read absent fields).Independent := by
  unfold field
  split
  · exact (h _).under _
  · exact habsent

theorem independent_required {read : Reader α} (h : Reader.Independent read) (keys : List String)
    (fields : Fields) :
    (required keys read fields).Independent :=
  independent_field h (.under _ (.refuse _)) keys fields

theorem independent_defaulting {read : Reader α} (h : Reader.Independent read) (keys : List String)
    (value : α) (fields : Fields) : (defaulting keys read value fields).Independent :=
  independent_field h (.pure value) keys fields

theorem independent_record (name : String) {read : Fields → Gather α}
    (h : ∀ fields, (read fields).Independent) :
    Reader.Independent (record name read) := by
  intro value
  cases value with
  | object fields => exact h fields
  | null | bool | int | float | text | list => exact .refuse _

end MailTriage.Form

namespace MailTriage

open Form

/-! ## Rules -/

theorem independent_scalar : Reader.Independent Scalar.read := by
  intro value
  cases value with
  | bool | int | float | text => exact .pure _
  | null | list | object => exact fun _ ⟨_, h⟩ => nomatch h

theorem independent_condition : Reader.Independent Condition.read := by
  refine independent_record _ fun form => .seq (.seq (.seq (.seq (.map _ ?_) ?_) ?_) ?_) ?_
  · exact independent_field independent_text (.issue _) _ _
  · exact independent_required independent_text _ _
  · exact independent_defaulting independent_text _ _ _
  · exact independent_defaulting (independent_optional independent_scalar) _ _ _
  · exact independent_defaulting independent_boolean _ _ _

theorem independent_action : Reader.Independent Action.read := by
  refine independent_record _ fun form => .seq (.seq (.seq (.map _ ?_) ?_) ?_) ?_
  · exact independent_field independent_text (.issue _) _ _
  · exact independent_required independent_text _ _
  · exact independent_defaulting independent_mapping _ _ _
  · exact independent_defaulting (independent_optional independent_text) _ _ _

theorem independent_rule : Reader.Independent Rule.read := by
  refine independent_record _ fun form =>
    .seq (.seq (.seq
      (.seq (.seq (.seq (.seq (.seq (.seq (.seq (.map _ ?_) ?_) ?_) ?_) ?_) ?_) ?_) ?_) ?_) ?_) ?_
  · exact independent_field independent_text (.issue _) _ _
  · exact independent_required independent_text _ _
  · exact independent_defaulting (independent_optional independent_text) _ _ _
  · exact independent_defaulting independent_boolean _ _ _
  · exact independent_defaulting (independent_listOf independent_condition) _ _ _
  · exact independent_defaulting (independent_among _) _ _ _
  · exact independent_defaulting (independent_listOf independent_action) _ _ _
  · exact independent_field independent_integer .now _ _
  · exact independent_field independent_integer .now _ _
  · exact independent_defaulting independent_natural _ _ _
  · exact independent_defaulting (independent_optional independent_integer) _ _ _

theorem independent_settings : Reader.Independent RuleSettings.read := by
  refine independent_record _ fun form => .seq (.map _ ?_) ?_
  · exact independent_defaulting independent_boolean _ _ _
  · exact independent_defaulting independent_natural _ _ _

end MailTriage

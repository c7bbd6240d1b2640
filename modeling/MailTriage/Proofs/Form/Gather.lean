import MailTriage.Form.Gather

/-!
# Readings that succeed

A record that could be read was put together from parts that could all be read. Each way of
combining readings is taken apart once here, so that no later proof has to look into a reading.
-/

namespace MailTriage.Form

namespace Gather

variable {α β : Type} {supply : Supply}

theorem eq_of_pure_eq_ok {a b : α} (h : ((pure a : Gather α) supply).1 = .ok b) : b = a :=
  (Except.ok.inj h).symm

theorem parts_of_seq_eq_ok {f : Gather (α → β)} {x : Gather α} {b : β}
    (h : ((f <*> x) supply).1 = .ok b) :
    ∃ g a, (f supply).1 = .ok g ∧ (x (f supply).2).1 = .ok a ∧ b = g a := by
  change both (f supply).1 (x (f supply).2).1 = .ok b at h
  cases hf : (f supply).1 with
  | error problems =>
    rw [hf] at h
    cases hx : (x (f supply).2).1 <;> simp [hx, both] at h
  | ok g =>
    rw [hf] at h
    cases hx : (x (f supply).2).1 with
    | error problems => simp [hx, both] at h
    | ok a =>
      rw [hx] at h
      exact ⟨g, a, rfl, rfl, (Except.ok.inj h).symm⟩

theorem part_of_map_eq_ok {g : α → β} {x : Gather α} {b : β}
    (h : ((g <$> x) supply).1 = .ok b) : ∃ a, (x supply).1 = .ok a ∧ b = g a := by
  obtain ⟨g', a, hg, ha, hb⟩ := parts_of_seq_eq_ok (f := (pure g : Gather (α → β))) h
  have hg' : g' = g := eq_of_pure_eq_ok hg
  subst hg'
  exact ⟨a, ha, hb⟩

theorem exists_seq_eq_ok_iff {f : Gather (α → β)} {x : Gather α} :
    (∃ b, ((f <*> x) supply).1 = .ok b) ↔
      (∃ g, (f supply).1 = .ok g) ∧ ∃ a, (x (f supply).2).1 = .ok a := by
  constructor
  · rintro ⟨b, h⟩
    obtain ⟨g, a, hg, ha, -⟩ := parts_of_seq_eq_ok h
    exact ⟨⟨g, hg⟩, a, ha⟩
  · rintro ⟨⟨g, hg⟩, a, ha⟩
    refine ⟨g a, ?_⟩
    change both (f supply).1 (x (f supply).2).1 = _
    rw [hg, ha]
    rfl

theorem exists_map_eq_ok_iff {g : α → β} {x : Gather α} :
    (∃ b, ((g <$> x) supply).1 = .ok b) ↔ ∃ a, (x supply).1 = .ok a := by
  constructor
  · rintro ⟨b, h⟩
    obtain ⟨a, ha, -⟩ := part_of_map_eq_ok h
    exact ⟨a, ha⟩
  · rintro ⟨a, ha⟩
    exact exists_seq_eq_ok_iff.mpr ⟨⟨g, rfl⟩, a, ha⟩

theorem exists_under_eq_ok_iff {x : Gather α} {key : String} :
    (∃ a, (x.under key supply).1 = .ok a) ↔ ∃ a, (x supply).1 = .ok a := by
  unfold under
  cases h : x supply with
  | mk result after =>
    cases result with
    | ok a => simp
    | error problems => simp

end Gather

/-! ## Readings of one value -/

variable {α : Type} {read : Reader α}

theorem field_eq_pure {key : String} {value : Value} {a : α} {fields : Fields}
    (hvalue : fields.get? key = some value) (hread : read value = pure a) (keys : List String)
    (absent : Gather α) : field (key :: keys) read absent fields = pure a := by
  unfold field firstPresent?
  rw [List.findSome?_cons, hvalue]
  change (read value).under key = pure a
  rw [hread]
  rfl

theorem field_of_absent {key : String} {fields : Fields} (h : fields.get? key = none)
    (keys : List String) (absent : Gather α) :
    field (key :: keys) read absent fields = field keys read absent fields := by
  unfold field firstPresent?
  rw [List.findSome?_cons, h]
  rfl

theorem exists_readItems_eq_ok_iff {P : Value → Prop}
    (hread : ∀ value supply, (∃ a, (read value supply).1 = .ok a) ↔ P value) (position : Nat)
    (items : List Value) (supply : Supply) :
    (∃ found, (readItems read position items supply).1 = .ok found) ↔ ∀ item ∈ items, P item := by
  induction items generalizing position supply with
  | nil => simp [readItems, pure, Gather.of]
  | cons item rest ih =>
    rw [readItems, Gather.exists_seq_eq_ok_iff, Gather.exists_map_eq_ok_iff,
      Gather.exists_under_eq_ok_iff, hread, ih, List.forall_mem_cons]

theorem readItems_map {write : α → Value} (h : ∀ a, read (write a) = pure a) (position : Nat)
    (items : List α) :
    readItems read position (items.map write) = pure items := by
  induction items generalizing position with
  | nil => rfl
  | cons item rest ih =>
    rw [List.map_cons, readItems, h, ih]
    rfl

theorem listOf_map {write : α → Value} (h : ∀ a, read (write a) = pure a) (items : List α) :
    listOf read (.list (items.map write)) = pure items :=
  readItems_map h 0 items

end MailTriage.Form

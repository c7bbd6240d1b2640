/-!
# Keyed lists

A list of entries with a text as key, in the order in which the keys were first used. The entries of
a key are found, replaced and removed; all other keys keep their entries.
-/

namespace MailTriage

abbrev Keyed (α : Type) := List (String × α)

namespace Keyed

variable {α : Type}

def find? (key : String) : Keyed α → Option α
  | [] => none
  | (k, a) :: rest => if k = key then some a else find? key rest

/-- Replaces the first entry of a key, or adds one at the end. -/
def put (key : String) (a : α) : Keyed α → Keyed α
  | [] => [(key, a)]
  | (k, b) :: rest => if k = key then (k, a) :: rest else (k, b) :: put key a rest

def drop (key : String) (entries : Keyed α) : Keyed α :=
  entries.filter fun entry => entry.1 ≠ key

@[simp] theorem find?_nil (key : String) : find? key ([] : Keyed α) = none := rfl

@[simp] theorem find?_put_self (key : String) (a : α) (entries : Keyed α) :
    (entries.put key a).find? key = some a := by
  induction entries with
  | nil => simp [put, find?]
  | cons entry rest ih =>
    obtain ⟨k, b⟩ := entry
    by_cases h : k = key <;> simp [put, find?, h, ih]

theorem find?_put_of_ne {key other : String} (h : other ≠ key) (a : α) (entries : Keyed α) :
    (entries.put key a).find? other = entries.find? other := by
  induction entries with
  | nil => simp [put, find?, Ne.symm h]
  | cons entry rest ih =>
    obtain ⟨k, b⟩ := entry
    by_cases hk : k = key
    · subst hk
      simp [put, find?, Ne.symm h]
    · by_cases ho : k = other
      · subst ho
        simp [put, find?, h]
      · simp [put, find?, hk, ho, ih]

theorem put_eq_self_iff {key : String} {a : α} {entries : Keyed α} :
    entries.put key a = entries ↔ entries.find? key = some a := by
  induction entries with
  | nil => simp [put, find?]
  | cons entry rest ih =>
    obtain ⟨k, b⟩ := entry
    by_cases h : k = key
    · simp [put, find?, h, eq_comm]
    · simp [put, find?, h, ih]

@[simp] theorem find?_drop_self (key : String) (entries : Keyed α) :
    (entries.drop key).find? key = none := by
  induction entries with
  | nil => rfl
  | cons entry rest ih =>
    obtain ⟨k, a⟩ := entry
    by_cases h : k = key
    · simpa [drop, h] using ih
    · simpa [drop, find?, h] using ih

theorem find?_drop_of_ne {key other : String} (h : other ≠ key) (entries : Keyed α) :
    (entries.drop key).find? other = entries.find? other := by
  induction entries with
  | nil => rfl
  | cons entry rest ih =>
    obtain ⟨k, a⟩ := entry
    by_cases hk : k = key
    · have ho : k ≠ other := fun e => h (e.symm.trans hk)
      simpa [drop, find?, hk, h.symm, ho] using ih
    · by_cases ho : k = other
      · simp [drop, find?, ho, h]
      · simpa [drop, find?, hk, ho] using ih

@[simp] theorem drop_put_self (key : String) (a : α) (entries : Keyed α) :
    (entries.put key a).drop key = entries.drop key := by
  induction entries with
  | nil => simp [put, drop]
  | cons entry rest ih =>
    obtain ⟨k, b⟩ := entry
    by_cases h : k = key
    · simp [put, drop, h]
    · simpa [put, drop, h] using ih

theorem find?_isSome_iff {key : String} {entries : Keyed α} :
    (entries.find? key).isSome = true ↔ key ∈ entries.map Prod.fst := by
  induction entries with
  | nil => simp
  | cons entry rest ih =>
    obtain ⟨k, a⟩ := entry
    by_cases h : k = key
    · simp [find?, h]
    · simp [find?, h, Ne.symm h, ih]

theorem keys_put (key : String) (a : α) (entries : Keyed α) :
    (entries.put key a).map Prod.fst =
      if key ∈ entries.map Prod.fst then entries.map Prod.fst
        else entries.map Prod.fst ++ [key] := by
  induction entries with
  | nil => rfl
  | cons entry rest ih =>
    obtain ⟨k, b⟩ := entry
    by_cases h : k = key
    · simp [put, h]
    · rw [put, if_neg h, List.map_cons, ih]
      by_cases hmem : key ∈ rest.map Prod.fst <;> simp [hmem, Ne.symm h]

theorem nodup_put {entries : Keyed α} (h : (entries.map Prod.fst).Nodup) (key : String) (a : α) :
    ((entries.put key a).map Prod.fst).Nodup := by
  rw [keys_put]
  split
  · exact h
  · next hmem =>
    refine List.nodup_append.mpr ⟨h, by simp, ?_⟩
    rintro k hk _ hkey rfl
    exact hmem (List.mem_singleton.mp hkey ▸ hk)

theorem nodup_drop {entries : Keyed α} (h : (entries.map Prod.fst).Nodup) (key : String) :
    ((entries.drop key).map Prod.fst).Nodup :=
  h.sublist (List.filter_sublist.map Prod.fst)

theorem drop_of_find?_eq_none {key : String} {entries : Keyed α} (h : entries.find? key = none) :
    entries.drop key = entries := by
  have hkey : key ∉ entries.map Prod.fst := by simp [← find?_isSome_iff, h]
  refine List.filter_eq_self.mpr ?_
  intro entry hentry
  have hne : entry.1 ≠ key := fun he => hkey (he ▸ List.mem_map_of_mem hentry)
  simp [hne]

end Keyed

end MailTriage

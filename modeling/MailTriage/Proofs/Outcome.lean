/-!
# Computations that may fail

What a chain of computations comes to is taken apart at its first link, also when they change a
state on their way. A list of computations succeeds exactly when each of them does.
-/

namespace MailTriage

variable {α β ε σ : Type}

theorem run_bind_eq (step : ExceptT ε (StateM σ) α) (next : α → ExceptT ε (StateM σ) β) (s : σ) :
    (step >>= next).run.run s =
      match step.run.run s with
      | (.ok a, after) => (next a).run.run after
      | (.error fault, after) => (.error fault, after) := by
  change (match step.run.run s with
    | (result, after) => (ExceptT.bindCont next result).run after) = _
  cases hstep : step.run.run s with
  | mk result after => cases result <;> rfl

theorem run_tryCatch_eq (step : ExceptT ε (StateM σ) α) (handle : ε → ExceptT ε (StateM σ) α)
    (s : σ) :
    (tryCatch step handle).run.run s =
      match step.run.run s with
      | (.ok a, after) => (.ok a, after)
      | (.error fault, after) => (handle fault).run.run after := by
  cases hstep : step.run.run s with
  | mk result after =>
    have hrun : StateT.run step s = (result, after) := hstep
    simp only [tryCatch, tryCatchThe, MonadExceptOf.tryCatch, ExceptT.tryCatch, ExceptT.run_mk,
      StateT.run_bind, hrun]
    cases result <;> rfl

theorem exists_of_bind_eq_ok {result : Except ε α} {f : α → Except ε β} {b : β}
    (h : result >>= f = .ok b) :
    ∃ a, result = .ok a ∧ f a = .ok b := by
  cases result with
  | error fault => exact nomatch h
  | ok a => exact ⟨a, rfl, h⟩

theorem exists_bind_eq_ok_iff {result : Except ε α} {f : α → Except ε β} :
    (∃ b, result >>= f = .ok b) ↔ ∃ a, result = .ok a ∧ ∃ b, f a = .ok b := by
  constructor
  · rintro ⟨b, h⟩
    obtain ⟨a, hresult, hb⟩ := exists_of_bind_eq_ok h
    exact ⟨a, hresult, b, hb⟩
  · rintro ⟨a, rfl, hb⟩
    exact hb

/-- A result that is missing, if it is, for a fault of some sort. -/
def FailsOnly (P : ε → Prop) (result : Except ε α) : Prop :=
  ∀ fault, result = .error fault → P fault

section FailsOnly

variable {P : ε → Prop} {result : Except ε α}

@[simp] theorem failsOnly_ok (a : α) : FailsOnly P (.ok a : Except ε α) := by
  intro fault h
  exact nomatch h

@[simp] theorem failsOnly_error {fault : ε} :
    FailsOnly P (.error fault : Except ε α) ↔ P fault := by
  simp [FailsOnly]

/-- A fault that is passed on is of that sort, whatever there would have been without it. -/
theorem FailsOnly.error (h : FailsOnly P result) {fault : ε} (hfault : result = .error fault) :
    FailsOnly P (.error fault : Except ε β) :=
  failsOnly_error.mpr (h fault hfault)

theorem FailsOnly.bind {next : α → Except ε β} (h : FailsOnly P result)
    (hnext : ∀ a, FailsOnly P (next a)) :
    FailsOnly P (result >>= next) := by
  intro fault hfault
  cases result with
  | error earlier =>
    cases hfault
    exact h fault rfl
  | ok a => exact hnext a fault hfault

theorem FailsOnly.map (h : FailsOnly P result) (f : α → β) : FailsOnly P (result.map f) := by
  intro fault hfault
  cases result with
  | error earlier =>
    cases hfault
    exact h fault rfl
  | ok a => exact nomatch hfault

end FailsOnly

theorem exists_map_eq_ok_iff {f : α → β} {result : Except ε α} :
    (∃ b, result.map f = .ok b) ↔ ∃ a, result = .ok a := by
  cases result <;> simp [Except.map]

theorem map_eq_ok_iff {f : α → β} {result : Except ε α} {b : β} :
    result.map f = .ok b ↔ ∃ a, result = .ok a ∧ f a = b := by
  cases result <;> simp [Except.map]

theorem map_eq_error_iff {f : α → β} {result : Except ε α} {fault : ε} :
    result.map f = .error fault ↔ result = .error fault := by
  cases result <;> simp [Except.map]

theorem exists_mapM_eq_ok_iff {f : α → Except ε β} {items : List α} :
    (∃ results, items.mapM f = .ok results) ↔ ∀ a ∈ items, ∃ b, f a = .ok b := by
  induction items with
  | nil => simp [pure, Except.pure]
  | cons a rest ih =>
    rw [List.forall_mem_cons, ← ih, List.mapM_cons]
    cases f a <;> cases rest.mapM f <;> simp [bind, Except.bind, pure, Except.pure]

theorem mapM_cons_eq_ok_iff {f : α → Except ε β} {a : α} {rest : List α} {results : List β} :
    (a :: rest).mapM f = .ok results ↔
      ∃ first others, f a = .ok first ∧ rest.mapM f = .ok others ∧ results = first :: others := by
  rw [List.mapM_cons]
  constructor
  · intro h
    obtain ⟨first, hfirst, h⟩ := exists_of_bind_eq_ok h
    obtain ⟨others, hothers, h⟩ := exists_of_bind_eq_ok h
    cases h
    exact ⟨first, others, hfirst, hothers, rfl⟩
  · rintro ⟨first, others, hfirst, hothers, rfl⟩
    rw [hfirst, hothers]
    rfl

theorem length_of_mapM_eq_ok {f : α → Except ε β} {items : List α} {results : List β}
    (h : items.mapM f = .ok results) : results.length = items.length := by
  induction items generalizing results with
  | nil =>
    cases h
    rfl
  | cons a rest ih =>
    obtain ⟨first, others, -, hothers, rfl⟩ := mapM_cons_eq_ok_iff.mp h
    rw [List.length_cons, List.length_cons, ih hothers]

theorem mem_of_mapM_eq_ok {f : α → Except ε β} {items : List α} {results : List β}
    (h : items.mapM f = .ok results) :
    (∀ a ∈ items, ∃ b ∈ results, f a = .ok b) ∧ ∀ b ∈ results, ∃ a ∈ items, f a = .ok b := by
  induction items generalizing results with
  | nil =>
    cases h
    simp
  | cons a rest ih =>
    obtain ⟨first, others, hfirst, hothers, rfl⟩ := mapM_cons_eq_ok_iff.mp h
    obtain ⟨hitems, hresults⟩ := ih hothers
    constructor
    · intro a' ha
      rcases List.mem_cons.mp ha with rfl | ha
      · exact ⟨first, List.mem_cons_self, hfirst⟩
      · obtain ⟨b, hb, hab⟩ := hitems a' ha
        exact ⟨b, List.mem_cons_of_mem _ hb, hab⟩
    · intro b hb
      rcases List.mem_cons.mp hb with rfl | hb
      · exact ⟨a, List.mem_cons_self, hfirst⟩
      · obtain ⟨a', ha, hab⟩ := hresults b hb
        exact ⟨a', List.mem_cons_of_mem _ ha, hab⟩

theorem forall_mem_of_mapM_eq_ok {f : α → Except ε β} {P : β → Prop} (hf : ∀ a b, f a = .ok b → P b)
    {items : List α} {results : List β} (h : items.mapM f = .ok results) : ∀ b ∈ results, P b := by
  intro b hb
  obtain ⟨a, _, hab⟩ := (mem_of_mapM_eq_ok h).2 b hb
  exact hf a b hab

/-- The results of the same items in another order are the same in another order. -/
theorem exists_mapM_perm {f : α → Except ε β} {items others : List α} (hperm : items.Perm others)
    {results : List β} (h : items.mapM f = .ok results) :
    ∃ found, others.mapM f = .ok found ∧ results.Perm found := by
  induction hperm generalizing results with
  | nil => exact ⟨results, h, .refl _⟩
  | cons a _ ih =>
    obtain ⟨first, rest, hfirst, hrest, rfl⟩ := mapM_cons_eq_ok_iff.mp h
    obtain ⟨found, hfound, hsame⟩ := ih hrest
    exact ⟨first :: found, mapM_cons_eq_ok_iff.mpr ⟨first, found, hfirst, hfound, rfl⟩,
      hsame.cons first⟩
  | swap a b rest =>
    obtain ⟨first, later, hfirst, hlater, rfl⟩ := mapM_cons_eq_ok_iff.mp h
    obtain ⟨second, others, hsecond, hothers, rfl⟩ := mapM_cons_eq_ok_iff.mp hlater
    have hswapped := mapM_cons_eq_ok_iff.mpr ⟨first, others, hfirst, hothers, rfl⟩
    exact ⟨_, mapM_cons_eq_ok_iff.mpr ⟨second, _, hsecond, hswapped, rfl⟩,
      .swap second first others⟩
  | trans _ _ ih ih' =>
    obtain ⟨found, hfound, hsame⟩ := ih h
    obtain ⟨found', hfound', hsame'⟩ := ih' hfound
    exact ⟨found', hfound', hsame.trans hsame'⟩

theorem toBool_map (f : α → β) (result : Except ε α) : (result.map f).toBool = result.toBool := by
  cases result <;> rfl

theorem toBool_mapError (f : ε → β) (result : Except ε α) :
    (result.mapError f).toBool = result.toBool := by
  cases result <;> rfl

end MailTriage

import MailTriage.Complaint
import MailTriage.Proofs.Form.Independent
import MailTriage.Proofs.Json.Overlong

/-!
# Documents that are no backups

A text is read as a backup when it is a document of a list of rules, or of an object with such a
list and perhaps settings. Any other text is refused, and the refusal is told as a fault of the
import. There is one exception: a number of too many digits ends the reading of the document with an
error of its own, which is told as an error of a value.
-/

namespace MailTriage.Backup

open Form

variable {document settings : Value} {items : List Value} {supply : Supply} {text : String}

/-! ## Parts of a backup -/

/-- The items of a document that should be rules, and what should be settings; null stands for
none. -/
inductive HasParts : Value → List Value → Value → Prop
  | list (items : List Value) : HasParts (.list items) items .null
  | object {fields : Fields} {items : List Value} : fields.get? "rules" = some (.list items) →
      HasParts (.object fields) items ((fields.get? "config").getD .null)

theorem parts?_eq_some_iff :
    parts? document = some (items, settings) ↔ HasParts document items settings := by
  constructor
  · intro h
    unfold parts? at h
    split at h
    · obtain ⟨rfl, rfl⟩ := Prod.mk.inj (Option.some.inj h)
      exact .list _
    · split at h
      · next hrules =>
        obtain ⟨rfl, rfl⟩ := Prod.mk.inj (Option.some.inj h)
        exact .object hrules
      · exact nomatch h
    · exact nomatch h
  · rintro (_ | hrules)
    · rfl
    · simp [parts?, hrules]

/-- A document of rules, and of settings unless they are null. -/
def IsBackup (document : Value) : Prop :=
  ∃ items settings,
    HasParts document items settings ∧ (∀ item ∈ items, Reader.Accepts Rule.read item) ∧
    (settings ≠ .null → Reader.Accepts RuleSettings.read settings)

theorem exists_readRules_iff :
    (∃ rules, (readRules items supply).1 = .ok rules) ↔
      ∀ item ∈ items, Reader.Accepts Rule.read item := by
  induction items generalizing supply with
  | nil => simp [readRules, pure, Gather.of]
  | cons item rest ih =>
    rw [List.forall_mem_cons, ← independent_rule.exists_ok_iff item supply]
    unfold readRules
    split
    · next problems after hitem => simp [hitem]
    · next rule after hitem =>
      rw [Gather.exists_map_eq_ok_iff, ih]
      simp [hitem]

theorem exists_optional_iff :
    (∃ found, (Form.optional RuleSettings.read settings supply).1 = .ok found) ↔
      (settings ≠ .null → Reader.Accepts RuleSettings.read settings) := by
  rw [← independent_settings.exists_ok_iff settings supply]
  cases settings with
  | null => exact ⟨fun _ hnull => absurd rfl hnull, fun _ => ⟨none, rfl⟩⟩
  | bool | int | float | text | list | object =>
    simp only [ne_eq, reduceCtorEq, not_false_eq_true, true_imp_iff]
    exact Gather.exists_map_eq_ok_iff

theorem exists_readParts_iff :
    (∃ backup, (readParts items settings supply).1 = .ok backup) ↔
      (∀ item ∈ items, Reader.Accepts Rule.read item) ∧
        (settings ≠ .null → Reader.Accepts RuleSettings.read settings) := by
  have hitems : (∃ rules, (readRules items supply).1 = .ok rules) ↔ _ := exists_readRules_iff
  rw [← hitems]
  unfold readParts
  split
  · next problems after hrules => simp [hrules]
  · next rules after hrules =>
    rw [Gather.exists_map_eq_ok_iff, exists_optional_iff]
    simp [hrules]

/-! ## Texts -/

theorem exists_read_iff :
    (∃ backup, (read text supply).1 = .ok backup) ↔
      ∃ document, Json.IsDocument text.toList document ∧ IsBackup document := by
  simp only [← Json.parse_eq_ok_iff]
  unfold read
  split
  · next failure hparse => simp [hparse]
  · next document hparse =>
    simp only [hparse, Except.ok.injEq, exists_eq_left']
    split
    · next hparts =>
      refine ⟨fun ⟨_, h⟩ => (nomatch h), fun ⟨items, settings, hhas, _⟩ => ?_⟩
      exact nomatch hparts.symm.trans (parts?_eq_some_iff.mpr hhas)
    · next items settings hparts =>
      have hbackup :
          IsBackup document ↔ ∃ backup, (readParts items settings supply).1 = .ok backup := by
        rw [exists_readParts_iff]
        constructor
        · rintro ⟨items', settings', hhas, haccepts⟩
          obtain ⟨rfl, rfl⟩ :=
            Prod.mk.inj (Option.some.inj (hparts.symm.trans (parts?_eq_some_iff.mpr hhas)))
          exact haccepts
        · exact fun haccepts => ⟨items, settings, parts?_eq_some_iff.mp hparts, haccepts⟩
      rw [hbackup]
      split
      · next problems after hread => simp [hread]
      · next backup after hread => simp [hread]

theorem read_of_overlong {count : Nat} (h : Json.Overlong count text.toList) :
    (read text supply).1 = .error (.document text (.tooManyDigits count)) := by
  rw [read, Json.parse_eq_tooManyDigits_iff.mpr h]

theorem isOverlong_of_read {fault : BackupFault} (h : (read text supply).1 = .error fault)
    (hlong : fault.isOverlong = true) : ∃ count, Json.Overlong count text.toList := by
  unfold read at h
  split at h
  · next failure hparse =>
    obtain rfl := Except.error.inj h
    cases failure with
    | malformed => exact nomatch hlong
    | tooManyDigits count => exact ⟨count, Json.parse_eq_tooManyDigits_iff.mp hparse⟩
  · split at h
    · obtain rfl := Except.error.inj h
      exact nomatch hlong
    · split at h
      · obtain rfl := Except.error.inj h
        exact nomatch hlong
      · exact nomatch h

/-- What becomes of a text. It is read as a backup when it is a document of a list of rules, or of
an object with one under its key and with settings or null, and with no other text. Where a number
of too many digits stands where a value is due, reading fails with the error of a value and tells
the number of digits; every other failure is one of the import. -/
theorem read_answers (text : String) (supply : Supply) :
    ((∃ backup, (read text supply).1 = .ok backup) ↔
        ∃ document, Json.IsDocument text.toList document ∧ IsBackup document) ∧
      (∀ count, Json.Overlong count text.toList → ∃ fault, (read text supply).1 = .error fault ∧
        fault.complaint = .of "ValueError" (Json.Failure.message text (.tooManyDigits count))) ∧
      ∀ fault, (read text supply).1 = .error fault → (∀ count, ¬Json.Overlong count text.toList) →
        fault.complaint = .of "RulesImportError" fault.message := by
  refine ⟨exists_read_iff, fun count hlong => ⟨_, read_of_overlong hlong, rfl⟩,
    fun fault hfault hnone => ?_⟩
  have hshort : fault.isOverlong = false := by
    refine Bool.eq_false_of_not_eq_true fun hlong => ?_
    obtain ⟨count, hcount⟩ := isOverlong_of_read hfault hlong
    exact hnone count hcount
  rw [BackupFault.complaint, hshort]
  rfl

def ones (count : Nat) : String := String.ofList ('[' :: (List.replicate count '1' ++ [']']))

theorem overlong_ones {count : Nat} (h : Number.digitLimit < count) :
    Json.Overlong count (ones count).toList := by
  have hrun : Json.Run (List.replicate count '1') [']'] := by
    refine ⟨fun c hc => ?_, fun hnil => ?_, fun c hc => ?_⟩
    · rw [List.eq_of_mem_replicate hc]
      rfl
    · simp only [List.replicate_eq_nil_iff] at hnil
      omega
    · obtain rfl := Option.some.inj hc
      rfl
  have hnumeral := Json.BeginsUnsigned.mk false (.run hrun (by simp [List.head?_replicate]))
    (.none fun _ _ heq => nomatch heq) (.none fun mark _ _ _ _ hmark _ heq => by
      obtain ⟨rfl, -⟩ := List.cons.inj heq
      exact absurd hmark (by decide))
  have hdue : Json.Due (ones count).toList .items (List.replicate count '1' ++ [']']) := by
    rw [ones, String.toList_ofList]
    exact .items (.start ⟨[], nofun, rfl⟩) ⟨[], nofun, rfl⟩
  refine ⟨_, _, _, hdue.item, .plain rfl hnumeral, ⟨⟨rfl, rfl⟩, ?_⟩, List.length_replicate⟩
  rwa [List.length_replicate]

theorem read_answers_ones :
    ∃ fault, (read (ones 4301) ⟨0, 0⟩).1 = .error fault ∧
      fault.complaint = .of "ValueError" (Json.Failure.message (ones 4301) (.tooManyDigits 4301)) :=
  (read_answers (ones 4301) ⟨0, 0⟩).2.1 4301 (overlong_ones (by decide))

end MailTriage.Backup

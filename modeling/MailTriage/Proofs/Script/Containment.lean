import MailTriage.Proofs.Form.Gather
import MailTriage.Proofs.Outcome
import MailTriage.Script.Runner

/-!
# What a script can break out of

The engine may fail, or collect any text. A text that is no document counts as a failure, and so
nothing but the reason remains of it. A document is used only after the failures have been dealt
with: its logged lines are taken apart, its variables replace those of the pass, and its addresses
are read into the outcome. So the runner returns an outcome exactly when each document that the
engine collects fits, and the variables stay as they were under an outcome that is not good, or
under none, exactly when the document does not leave others.
-/

namespace MailTriage

variable {σ : Type}

/-! ## Pairs and texts -/

def Value.IsText (value : Value) : Prop := ∃ s, value = .text s

namespace Value

theorem pair_eq_ok_iff {value a b : Value} :
    value.pair = .ok (a, b) ↔ value.items? = some [a, b] := by
  unfold Value.pair
  split
  · next hnone => simp [hnone]
  · next first second hitems => simp [hitems]
  · next items hother hitems =>
    have hpair : items ≠ [a, b] := hother a b
    split <;> simp [hitems, hpair]

theorem exists_pair_iff {P : Value → Value → Prop} {value : Value} :
    (∃ line, value.pair = .ok line ∧ P line.1 line.2) ↔
      ∃ level message, value.items? = some [level, message] ∧ P level message := by
  simp only [Prod.exists, pair_eq_ok_iff]

end Value

namespace Form

variable {supply : Supply}

theorem exists_text_eq_ok_iff {value : Value} :
    (∃ s, (text value supply).1 = .ok s) ↔ value.IsText := by
  unfold Value.IsText
  cases value with
  | text s => simp [text, pure, Gather.of]
  | null | bool | int | float | list | object => simp [text, Gather.refuse]

theorem exists_listOf_text_iff {opened : Value} :
    (∃ urls, (listOf text opened supply).1 = .ok urls) ↔
      ∃ items, opened = .list items ∧ ∀ item ∈ items, item.IsText := by
  cases opened with
  | list items =>
    rw [listOf, exists_readItems_eq_ok_iff (P := Value.IsText) fun _ _ => exists_text_eq_ok_iff]
    simp
  | null | bool | int | float | text | object => simp [listOf, Gather.refuse]

end Form

/-! ## Documents that fit -/

namespace Collection

/-- A document whose logged lines have two parts each, of some sort. -/
def HasLines (P : Value → Value → Prop) (fields : Fields) : Prop :=
  ∃ logs items, fields.get? "logs" = some logs ∧ logs.items? = some items ∧
    ∀ item ∈ items, ∃ level message, item.items? = some [level, message] ∧ P level message

/-- A document that can be read into an outcome: an object whose logged lines are pairs of texts,
with a list of texts for the addresses to open. -/
def Fits (document : Value) : Prop :=
  ∃ fields : Fields, document = .object fields ∧
    HasLines (fun level message => level.IsText ∧ message.IsText) fields ∧
    ∃ items, fields.get? "opened" = some (.list items) ∧ ∀ item ∈ items, item.IsText

/-- A document that leaves variables: an object whose logged lines are pairs, with an object for the
variables. -/
def Leaves (document : Value) (after : Fields) : Prop :=
  ∃ fields : Fields, document = .object fields ∧ HasLines (fun _ _ => True) fields ∧
    fields.get? "variables" = some (.object after)

/-! ### Taking a document apart -/

/-- The lines of a document can be taken apart into parts of some sort exactly when it has such
lines. -/
theorem exists_logsOf_iff {P : Value → Value → Prop} {fields : Fields} :
    (∃ lines, logsOf fields = .ok lines ∧ ∀ line ∈ lines, P line.1 line.2) ↔ HasLines P fields := by
  unfold logsOf HasLines
  cases hlogs : Fields.get? "logs" fields with
  | none => simp
  | some logs =>
    cases hitems : logs.items? with
    | none => simp [hitems]
    | some items =>
      simp only [Option.some.injEq, exists_eq_left', hitems,
        exists_and_left, ← Value.exists_pair_iff]
      constructor
      · rintro ⟨lines, hlines, hsort⟩ item hitem
        obtain ⟨line, hline, hpair⟩ := (mem_of_mapM_eq_ok hlines).1 item hitem
        exact ⟨line, hpair, hsort line hline⟩
      · intro hpairs
        obtain ⟨lines, hlines⟩ := exists_mapM_eq_ok_iff.mpr fun item hitem =>
          (hpairs item hitem).imp fun line h => h.1
        refine ⟨lines, hlines, ?_⟩
        intro line hline
        obtain ⟨item, hitem, hpair⟩ := (mem_of_mapM_eq_ok hlines).2 line hline
        obtain ⟨other, hother, hsort⟩ := hpairs item hitem
        rw [hpair] at hother
        cases hother
        exact hsort

theorem exists_of_ofDocument {document : Value} {collection : Collection}
    (h : ofDocument document = .ok collection) :
    ∃ fields : Fields, document = .object fields ∧ logsOf fields = .ok collection.logs ∧
      collection.opened = fields.get? "opened" ∧
        ∀ after, collection.bindings = some after ↔
          fields.get? "variables" = some (.object after) := by
  cases document with
  | object fields =>
    obtain ⟨lines, hlines, h⟩ := exists_of_bind_eq_ok h
    cases h
    refine ⟨fields, rfl, hlines, rfl, ?_⟩
    intro after
    dsimp only
    split
    · next bindings hbindings => simp [hbindings]
    · next hother => simpa using hother after
  | null | bool | int | float | text | list => exact nomatch h

theorem exists_ofDocument {fields : Fields} {lines : List (Value × Value)}
    (h : logsOf fields = .ok lines) :
    ∃ collection, ofDocument (.object fields) = .ok collection ∧ collection.logs = lines := by
  unfold ofDocument
  dsimp only
  rw [h]
  exact ⟨_, rfl, rfl⟩

theorem leaves_iff {document : Value} {after : Fields} :
    Leaves document after ↔
      ∃ collection, ofDocument document = .ok collection ∧ collection.bindings = some after := by
  constructor
  · rintro ⟨fields, rfl, hlines, hafter⟩
    obtain ⟨lines, hlogs, -⟩ := exists_logsOf_iff.mpr hlines
    obtain ⟨collection, hcollection, -⟩ := exists_ofDocument hlogs
    obtain ⟨_, hobject, -, -, hbindings⟩ := exists_of_ofDocument hcollection
    cases hobject
    exact ⟨collection, hcollection, (hbindings after).mpr hafter⟩
  · rintro ⟨collection, hcollection, hafter⟩
    obtain ⟨fields, rfl, hlogs, -, hbindings⟩ := exists_of_ofDocument hcollection
    exact ⟨fields, rfl, exists_logsOf_iff.mp ⟨_, hlogs, fun _ _ => trivial⟩,
      (hbindings after).mp hafter⟩

/-! ### Reading it into an outcome -/

theorem exists_readLogs_eq_ok_iff {lines : List (Value × Value)} (position : Nat)
    (supply : Supply) :
    (∃ logs, (readLogs position lines supply).1 = .ok logs) ↔
      ∀ line ∈ lines, line.1.IsText ∧ line.2.IsText := by
  induction lines generalizing position supply with
  | nil => simp [readLogs, pure, Form.Gather.of]
  | cons line rest ih =>
    rw [readLogs, Form.Gather.exists_seq_eq_ok_iff, Form.Gather.exists_map_eq_ok_iff,
      Form.Gather.exists_under_eq_ok_iff, readLog, Form.Gather.exists_seq_eq_ok_iff,
        Form.Gather.exists_map_eq_ok_iff,
      Form.Gather.exists_under_eq_ok_iff, Form.Gather.exists_under_eq_ok_iff,
        Form.exists_text_eq_ok_iff, Form.exists_text_eq_ok_iff, ih, List.forall_mem_cons]

theorem exists_read_iff {collection : Collection} {bindings : Fields} :
    (∃ outcome, collection.outcome bindings = .ok outcome) ↔
      (∀ line ∈ collection.logs, line.1.IsText ∧ line.2.IsText) ∧
        ∃ items, collection.opened = some (.list items) ∧ ∀ item ∈ items, item.IsText := by
  unfold outcome
  cases collection.opened with
  | none => simp
  | some opened =>
    have hread : (∃ read, ((ScriptOutcome.mk true none collection.result bindings
          <$> (readLogs 0 collection.logs).under "logs"
          <*> (Form.listOf Form.text opened).under "opened_urls") ⟨0, 0⟩).1 = .ok read) ↔
        (∀ line ∈ collection.logs, line.1.IsText ∧ line.2.IsText) ∧
          ∃ items, opened = .list items ∧ ∀ item ∈ items, item.IsText := by
      rw [Form.Gather.exists_seq_eq_ok_iff, Form.Gather.exists_map_eq_ok_iff,
        Form.Gather.exists_under_eq_ok_iff,
        exists_readLogs_eq_ok_iff, Form.Gather.exists_under_eq_ok_iff, Form.exists_listOf_text_iff]
    simp only [Option.some.injEq, ← hread]
    split
    · next read h => simp [h]
    · next problems h => simp [h]

theorem ok_of_read {collection : Collection} {bindings : Fields} {read : ScriptOutcome}
    (h : collection.outcome bindings = .ok read) : read.ok = true := by
  unfold outcome at h
  cases hopened : collection.opened with
  | none =>
    rw [hopened] at h
    exact nomatch h
  | some opened =>
    rw [hopened] at h
    dsimp only at h
    split at h
    · next found hfound =>
      obtain ⟨f, urls, hf, -, rfl⟩ := Form.Gather.parts_of_seq_eq_ok hfound
      obtain ⟨logs, -, rfl⟩ := Form.Gather.part_of_map_eq_ok hf
      cases h
      rfl
    · exact nomatch h

end Collection

/-! ## Scripts that have run to their end -/

namespace Script

open Collection

variable {document : Value} {bindings : Fields}

theorem exists_finished_iff :
    (∃ outcome, (finished document bindings).outcome = .ok outcome) ↔ Fits document := by
  constructor
  · rintro ⟨outcome, h⟩
    unfold finished at h
    split at h
    · exact nomatch h
    · next collection hcollection =>
      obtain ⟨hlines, items, hopened, htexts⟩ := exists_read_iff.mp ⟨outcome, h⟩
      obtain ⟨fields, rfl, hlogs, hurls, -⟩ := exists_of_ofDocument hcollection
      exact ⟨fields, rfl, exists_logsOf_iff.mp ⟨_, hlogs, hlines⟩, items, hurls ▸ hopened, htexts⟩
  · rintro ⟨fields, rfl, hlines, items, hopened, htexts⟩
    obtain ⟨lines, hlogs, hsort⟩ := exists_logsOf_iff.mpr hlines
    obtain ⟨collection, hcollection, rfl⟩ := exists_ofDocument hlogs
    obtain ⟨_, hobject, -, hurls, -⟩ := exists_of_ofDocument hcollection
    cases hobject
    unfold finished
    rw [hcollection]
    exact exists_read_iff.mpr ⟨hsort, items, hurls.trans hopened, htexts⟩

theorem ok_of_finished {outcome : ScriptOutcome}
    (h : (finished document bindings).outcome = .ok outcome) :
    outcome.ok = true := by
  unfold finished at h
  split at h
  · exact nomatch h
  · exact ok_of_read h

theorem finished_bindings_eq_iff :
    (finished document bindings).bindings = bindings ↔
      ∀ after, Leaves document after → after = bindings := by
  simp only [leaves_iff]
  unfold finished
  split
  · next fault hfault => simp [hfault]
  · next collection hcollection =>
    dsimp only
    cases hafter : collection.bindings with
    | none => simp [hcollection, hafter]
    | some after => simp [hcollection, hafter]

/-! ## Runs -/

/-- The engine collects a document when it gets to run a script: the script is not blank, and what
it may see can be written. -/
def Collects (engine : ScriptRun → σ → ScriptReply × σ) (code : String) (context : Context)
    (bindings : Fields) (outer : σ) (document : Value) : Prop :=
  isBlank code = false ∧ Json.isWritable (input context bindings) = true ∧
    ∃ text, (engine ⟨code, Json.line (input context bindings)⟩ outer).1 = .collected text ∧
      Json.parse text = .ok document

variable {engine : ScriptRun → σ → ScriptReply × σ} {code : String} {context : Context} {outer : σ}

theorem run_of_collects (h : Collects engine code context bindings outer document) :
    (run engine code context bindings outer).1 = finished document bindings := by
  obtain ⟨hcode, hinput, text, hreply, hparse⟩ := h
  unfold run
  rw [hcode, hinput]
  change conclude bindings (engine ⟨code, Json.line (input context bindings)⟩ outer).1 = _
  rw [hreply, conclude, hparse]

theorem run_of_not_collects
    (h : ∀ document, ¬ Collects engine code context bindings outer document) :
    ∃ error journal, (run engine code context bindings outer).1 =
      failure error bindings journal := by
  unfold run
  split
  · exact ⟨_, _, rfl⟩
  · next hcode =>
    split
    · next hinput =>
      change ∃ error journal,
        conclude bindings (engine ⟨code, Json.line (input context bindings)⟩ outer).1 = _
      cases hreply : (engine ⟨code, Json.line (input context bindings)⟩ outer).1 with
      | failed kind message => exact ⟨_, _, rfl⟩
      | thrown text => exact ⟨_, _, rfl⟩
      | collected text =>
        cases hparse : Json.parse text with
        | error fault =>
          rw [conclude, hparse]
          exact ⟨_, _, rfl⟩
        | ok document =>
          exact absurd ⟨Bool.eq_false_iff.mpr hcode, hinput, text, hreply, hparse⟩ (h document)
    · exact ⟨_, _, rfl⟩

theorem forall_collects_iff (h : Collects engine code context bindings outer document)
    {P : Value → Prop} :
    (∀ other, Collects engine code context bindings outer other → P other) ↔ P document := by
  constructor
  · intro hall
    exact hall document h
  · rintro hdocument other ⟨-, -, text, hreply, hparse⟩
    obtain ⟨-, -, text', hreply', hparse'⟩ := h
    cases hreply.symm.trans hreply'
    cases hparse.symm.trans hparse'
    exact hdocument

theorem run_bindings_eq_iff :
    (run engine code context bindings outer).1.bindings = bindings ↔
      ∀ document, Collects engine code context bindings outer document →
        ∀ after, Leaves document after → after = bindings := by
  by_cases hcollects : ∃ document, Collects engine code context bindings outer document
  · obtain ⟨document, hdocument⟩ := hcollects
    rw [run_of_collects hdocument, forall_collects_iff hdocument, finished_bindings_eq_iff]
  · obtain ⟨error, journal, hrun⟩ := run_of_not_collects (not_exists.mp hcollects)
    rw [hrun]
    refine iff_of_true rfl ?_
    intro document hdocument
    exact absurd ⟨document, hdocument⟩ hcollects

/-- The runner returns an outcome exactly when the document that the engine collects fits, if it
collects one. It returns a good outcome or leaves the variables as they were exactly when the
document fits or leaves no others. -/
theorem contained_iff (engine : ScriptRun → σ → ScriptReply × σ) (code : String) (context : Context)
    (bindings : Fields) (outer : σ) :
    ((∃ outcome, (run engine code context bindings outer).1.outcome = .ok outcome) ↔
        ∀ document, Collects engine code context bindings outer document → Fits document) ∧
      (((∃ outcome,
        (run engine code context bindings outer).1.outcome = .ok outcome ∧ outcome.ok = true) ∨
          (run engine code context bindings outer).1.bindings = bindings) ↔
        ∀ document, Collects engine code context bindings outer document →
          Fits document ∨ ∀ after, Leaves document after → after = bindings) := by
  by_cases hcollects : ∃ document, Collects engine code context bindings outer document
  · obtain ⟨document, hdocument⟩ := hcollects
    have hgood :
        (∃ outcome, (finished document bindings).outcome = .ok outcome ∧ outcome.ok = true) ↔
        Fits document := by
      rw [← @exists_finished_iff document bindings]
      constructor
      · rintro ⟨outcome, houtcome, -⟩
        exact ⟨outcome, houtcome⟩
      · rintro ⟨outcome, houtcome⟩
        exact ⟨outcome, houtcome, ok_of_finished houtcome⟩
    rw [run_of_collects hdocument, forall_collects_iff hdocument, forall_collects_iff hdocument,
      exists_finished_iff, hgood, finished_bindings_eq_iff]
    simp
  · obtain ⟨error, journal, hrun⟩ := run_of_not_collects (not_exists.mp hcollects)
    rw [hrun]
    constructor
    · refine iff_of_true ⟨_, rfl⟩ ?_
      intro document hdocument
      exact absurd ⟨document, hdocument⟩ hcollects
    · refine iff_of_true (.inr rfl) ?_
      intro document hdocument
      exact absurd ⟨document, hdocument⟩ hcollects

/-- A number among the addresses leaves no outcome, but the variables of the script. -/
example :
    (finished (.object [("logs", .list []), ("variables", .object []), ("opened", .list [.int 5])])
      [("count", .int 1)]).outcome.toBool = false ∧
    (finished (.object [("logs", .list []), ("variables", .object []), ("opened", .list [.int 5])])
      [("count", .int 1)]).bindings.isEmpty = true := by
  decide +kernel

end Script

end MailTriage

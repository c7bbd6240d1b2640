import MailTriage.Proofs.Mailbox.Pagination

/-!
# Labels by name

A label is looked up by its name, and made when it is not found. It is not found although it is
there when the labels could not be listed, or when it is listed without an identifier; then, and
only then, a label is made of a name that a label has already. A message that is said to be labelled
was given the identifier of a label of the name that was asked for, and a label that was got once is
there from then on.
-/

namespace MailTriage

variable {σ : Type}

/-- A label of a mailbox. -/
structure MailLabel where
  id : String
  name : String
  deriving DecidableEq

/-- A value that shows a label, whatever else it shows. -/
structure MailLabel.IsShown (label : MailLabel) (value : Value) : Prop where
  id : Resource.require "id" value = .ok (.text label.id)
  name : Resource.require "name" value = .ok (.text label.name)

def MailLabel.toValue (label : MailLabel) : Value :=
  .object [("id", .text label.id), ("name", .text label.name)]

theorem MailLabel.isShown_toValue (label : MailLabel) : label.IsShown label.toValue := ⟨rfl, rfl⟩

def labelOf? (name : String) (labels : List MailLabel) : Option MailLabel :=
  labels.find? fun label => label.name = name

/-- A listing of some labels that failed, or that shows no identifier for a name. -/
def Misses (name : String) (known : List MailLabel) (answer : Option Value) : Prop :=
  answer = none ∨ ∀ label ∈ labelOf? name known, label.id = ""

/-- An exchange with a mailbox, and the labels that there were when the request was made. -/
structure LabelExchange extends Exchange where
  labels : List MailLabel

namespace LabelExchange

/-- A request for a label of a name that a label has already. -/
def Repeats (exchange : LabelExchange) : Prop :=
  ∃ name ∈ exchange.labels.map MailLabel.name, exchange.request = .createLabel name

/-- A listing that misses a label that is there. -/
def Overlooks (name : String) (exchange : LabelExchange) : Prop :=
  exchange.request = .labels ∧ name ∈ exchange.labels.map MailLabel.name ∧
    Misses name exchange.labels exchange.answer

end LabelExchange

namespace MailService

/-- A service with labels. All of them are listed, in any order, a label that is asked for is added
with the identifier that is answered, and no label is lost. A request for a label that fails may
have added it. -/
structure KeepsLabels (service : MailService σ) (labels : σ → List MailLabel) : Prop where
  listing : ∀ {s next answer}, service .labels s = (answer, next) → (labels next).Perm (labels s) ∧
    ∀ value ∈ answer, ∃ values,
      Mailbox.labelsOf value = .ok values ∧ List.Forall₂ MailLabel.IsShown (labels s) values
  making : ∀ {name s next answer}, service (.createLabel name) s = (answer, next) →
    ∃ made, (labels next).Perm (labels s ++ made) ∧ (∀ label ∈ made, label.name = name) ∧
      ∀ value ∈ answer, ∃ label ∈ made, Resource.require "id" value = .ok (.text label.id)
  giving : ∀ {id label s next answer}, service (.addLabel id label) s = (answer, next) →
    (labels next).Perm (labels s)

/-- The same service, with a journal of what passed and of the labels that there were. -/
def watched (service : MailService σ) (labels : σ → List MailLabel) :
    MailService (σ × List LabelExchange) :=
  fun request (s, past) =>
    let (answer, next) := service request s
    (answer, next, past ++ [⟨⟨request, answer⟩, labels s⟩])

theorem watched_eq {service : MailService σ} {request : MailRequest} {s next : σ}
    {answer : Option Value} (h : service request s = (answer, next)) (labels : σ → List MailLabel)
    (past : List LabelExchange) :
    service.watched labels request (s, past) =
      (answer, next, past ++ [⟨⟨request, answer⟩, labels s⟩]) := by
  rw [watched, h]

end MailService

namespace Mailbox

variable {service : MailService σ} {labels : σ → List MailLabel} {name : String}

/-! ## Looking a label up -/

theorem labelNamed_eq {known : List MailLabel} {values : List Value}
    (h : List.Forall₂ MailLabel.IsShown known values) (name : String) :
    labelNamed name values = .ok (.ofText? ((labelOf? name known).map MailLabel.id)) := by
  induction h with
  | nil => rfl
  | @cons label value known values hshown _ ih =>
    have hstep : labelNamed name (value :: values) =
        if label.name = name then Resource.require "id" value else labelNamed name values := by
      rw [labelNamed, hshown.name]
      simp [bind, Except.bind, isText]
    rw [hstep]
    by_cases hname : label.name = name
    · simpa [labelOf?, hname, Value.ofText?] using hshown.id
    · simpa [labelOf?, hname] using ih

/-- The identifier that a listing of some labels gives for a name, if it was answered. -/
def idListed (name : String) (known : List MailLabel) (listed : Option Value) : Value :=
  .ofText? (listed.bind fun _ => (labelOf? name known).map MailLabel.id)

theorem idListed_cases (name : String) (known : List MailLabel) (listed : Option Value) :
    (Misses name known listed ∧ (idListed name known listed).isVoid = true) ∨
      ∃ answer label, listed = some answer ∧ labelOf? name known = some label ∧ label.id ≠ "" ∧
        idListed name known listed = .text label.id := by
  cases listed with
  | none => exact .inl ⟨.inl rfl, rfl⟩
  | some answer =>
    cases hlabel : labelOf? name known with
    | none =>
      exact .inl ⟨.inr (by simp [hlabel]), by simp [idListed, hlabel, Value.ofText?, Value.isVoid]⟩
    | some label =>
      have hid : idListed name known (some answer) = .text label.id := by
        simp [idListed, hlabel, Value.ofText?]
      by_cases hempty : label.id = ""
      · exact .inl ⟨.inr (by simp [hlabel, hempty]), by simp [hid, hempty, Value.isVoid]⟩
      · exact .inr ⟨answer, label, rfl, rfl, hempty, hid⟩

theorem getLabelId_watched (h : service.KeepsLabels labels) (name : String) (s : σ)
    (past : List LabelExchange) :
    ∃ listed next, (labels next).Perm (labels s) ∧
      getLabelId name (service.watched labels) (s, past) =
      (.ok (idListed name (labels s) listed), next, past ++ [⟨⟨.labels, listed⟩, labels s⟩]) := by
  rcases hlisted : service .labels s with ⟨listed, next⟩
  obtain ⟨hsame, hvalues⟩ := h.listing hlisted
  refine ⟨listed, next, hsame, ?_⟩
  rw [getLabelId, MailService.watched_eq hlisted]
  cases listed with
  | none => rfl
  | some value =>
    obtain ⟨values, hof, hshown⟩ := hvalues value rfl
    simp [hof, bind, Except.bind, labelNamed_eq hshown, idListed]

/-! ## Getting a label -/

/-- How a label is got when there are some labels: what passes, what is answered, and the labels
that there are then. -/
inductive Gets (name : String) (known : List MailLabel) :
    List LabelExchange → Value → List MailLabel → Prop
  | found {answer label after} :
      labelOf? name known = some label → label.id ≠ "" → after.Perm known →
      Gets name known [⟨⟨.labels, some answer⟩, known⟩] (.text label.id) after
  | made {listed answer between made value after} : Misses name known listed → between.Perm known →
      after.Perm (between ++ made) → (∀ label ∈ made, label.name = name) →
      (value.isVoid = false → ∃ label ∈ made, value = .text label.id) →
      Gets name known
        [⟨⟨.labels, listed⟩, known⟩, ⟨⟨.createLabel name, answer⟩, between⟩] value after

theorem createLabel_gets (h : service.KeepsLabels labels) (name : String) (s : σ)
    (past : List LabelExchange) :
    ∃ passed value next, Gets name (labels s) passed value (labels next) ∧
      createLabel name (service.watched labels) (s, past) = (.ok value, next, past ++ passed) := by
  obtain ⟨listed, next, hsame, hget⟩ := getLabelId_watched h name s past
  rw [createLabel, hget]
  rcases idListed_cases name (labels s) listed with
    ⟨hmisses, hvoid⟩ | ⟨answer, label, rfl, hlabel, hid, hlisted⟩
  · -- nothing was found, so a label is asked for
    rcases hasked : service (.createLabel name) next with ⟨answer, after⟩
    obtain ⟨made, hafter, hnamed, hids⟩ := h.making hasked
    have hwatched := MailService.watched_eq hasked labels (past ++ [⟨⟨.labels, listed⟩, labels s⟩])
    rw [List.append_assoc] at hwatched
    simp only [hvoid, hwatched]
    cases answer with
    | none =>
      exact ⟨_, .null, after, .made hmisses hsame hafter hnamed (by simp [Value.isVoid]), rfl⟩
    | some value =>
      obtain ⟨label, hmade, hlabel⟩ := hids value rfl
      exact ⟨_, .text label.id, after,
        .made hmisses hsame hafter hnamed fun _ => ⟨label, hmade, rfl⟩,
        by simp [hlabel]; rfl⟩
  · have hfull : (Value.text label.id).isVoid = false := by simpa [Value.isVoid] using hid
    exact ⟨_, .text label.id, next, .found hlabel hid hsame, by simp [hlisted, hfull]; rfl⟩

namespace Gets

variable {known after : List MailLabel} {passed : List LabelExchange} {value : Value}

theorem repeats_iff (h : Gets name known passed value after) :
    (∃ exchange ∈ passed, exchange.Repeats) ↔ ∃ exchange ∈ passed, exchange.Overlooks name := by
  cases h with
  | found hlabel hid _ => simp [LabelExchange.Repeats, LabelExchange.Overlooks, Misses, hlabel, hid]
  | made hmisses hsame _ _ _ =>
    simp [LabelExchange.Repeats, LabelExchange.Overlooks, hmisses, hsame.mem_iff, eq_comm]

theorem subset (h : Gets name known passed value after) : known ⊆ after := by
  cases h with
  | found _ _ hsame => exact hsame.symm.subset
  | made _ hsame hafter _ _ =>
    have hbetween := List.Subset.trans (List.subset_append_left _ _) hafter.symm.subset
    exact List.Subset.trans hsame.symm.subset hbetween

theorem subset_labels (h : Gets name known passed value after) :
    ∀ exchange ∈ passed, known ⊆ exchange.labels := by
  cases h with
  | found _ _ _ => simp
  | made _ hsame _ _ _ => simpa using hsame.symm.subset

theorem exists_label (h : Gets name known passed value after) (hfull : value.isVoid = false) :
    ∃ label ∈ after, label.name = name ∧ value = .text label.id := by
  cases h with
  | @found _ label _ hlabel _ hsame =>
    have hnamed : label.name = name := by simpa using List.find?_some hlabel
    exact ⟨label, hsame.mem_iff.mpr (List.mem_of_find?_eq_some hlabel), hnamed, rfl⟩
  | made _ _ hafter hnamed hid =>
    obtain ⟨label, hmade, hvalue⟩ := hid hfull
    exact ⟨label, hafter.mem_iff.mpr (List.mem_append_right _ hmade), hnamed label hmade, hvalue⟩

end Gets

end Mailbox

/-! ## Calls -/

/-- What is asked for with labels. -/
inductive LabelCall
  | create (name : String)
  /-- A message is labelled. -/
  | add (id name : String)

namespace LabelCall

def name : LabelCall → String
  | create name => name
  | add _ name => name

def perform : LabelCall → MailOp σ Value
  | create name => Mailbox.createLabel name
  | add id name => fun service outer =>
    match Mailbox.addLabel id name service outer with
    | (.error fault, outer) => (.error fault, outer)
    | (.ok done, outer) => (.ok (.bool done), outer)

end LabelCall

/-- What a call was answered, and what passed. -/
structure LabelRecord where
  call : LabelCall
  reply : Except ResourceFault Value
  passed : List LabelExchange

namespace LabelRecord

/-- A label was got, or given to a message. -/
def IsDone (record : LabelRecord) : Prop := ∃ value, record.reply = .ok value ∧ value.isVoid = false

/-- A label of a name that there is already is asked for exactly when it was overlooked, and a
message that is said to be labelled was given the identifier of a label of the name. -/
structure IsSound (record : LabelRecord) : Prop where
  answered : ∃ value, record.reply = .ok value
  repeats_iff : (∃ exchange ∈ record.passed, exchange.Repeats) ↔
    ∃ exchange ∈ record.passed, exchange.Overlooks record.call.name
  given : ∀ id name, record.call = .add id name → record.reply = .ok (.bool true) →
    ∃ before exchange, record.passed = before ++ [exchange] ∧ exchange.answer.isSome = true ∧
      ∃ label ∈ exchange.labels,
        label.name = name ∧ exchange.request = .addLabel id (.text label.id)

end LabelRecord

namespace Mailbox

variable {service : MailService σ} {labels : σ → List MailLabel}

def serveLabel (service : MailService σ) (labels : σ → List MailLabel) (call : LabelCall) (s : σ) :
    LabelRecord × σ :=
  let (reply, next, passed) := call.perform (service.watched labels) (s, [])
  (⟨call, reply, passed⟩, next)

def serveLabels (service : MailService σ) (labels : σ → List MailLabel) :
    List LabelCall → σ → List LabelRecord
  | [], _ => []
  | call :: rest, s =>
    let (record, next) := serveLabel service labels call s
    record :: serveLabels service labels rest next

/-- What a call does: it is sound, no label is lost, and the one that was got is there. -/
structure Serves (known after : List MailLabel) (record : LabelRecord) : Prop where
  sound : record.IsSound
  kept : known ⊆ after
  seen : ∀ exchange ∈ record.passed, known ⊆ exchange.labels
  there : record.IsDone → record.call.name ∈ after.map MailLabel.name

theorem Gets.serves {call : LabelCall} {known after : List MailLabel} {passed : List LabelExchange}
    {value reply : Value} (h : Gets call.name known passed value after)
    (hdone : reply.isVoid = false → value.isVoid = false)
    (hadd : ∀ id name, call = .add id name → reply ≠ .bool true) :
    Serves known after ⟨call, .ok reply, passed⟩ where
  sound := ⟨⟨reply, rfl⟩, h.repeats_iff,
    fun id name hcall hreply => absurd (Except.ok.inj hreply) (hadd id name hcall)⟩
  kept := h.subset
  seen := h.subset_labels
  there := by
    rintro ⟨_, hreply, hfull⟩
    obtain rfl := Except.ok.inj hreply
    obtain ⟨label, hlabel, hname, -⟩ := h.exists_label (hdone hfull)
    exact hname ▸ List.mem_map_of_mem hlabel

theorem Gets.serves_add {id name : String} {known between after : List MailLabel}
    {passed : List LabelExchange} {value : Value} (h : Gets name known passed value between)
    (hfull : value.isVoid = false) (hsame : after.Perm between) (answer : Option Value) :
    Serves known after
      ⟨.add id name, .ok (.bool answer.isSome),
        passed ++ [⟨⟨.addLabel id value, answer⟩, between⟩]⟩ := by
  obtain ⟨label, hlabel, hname, rfl⟩ := h.exists_label hfull
  refine ⟨⟨⟨_, rfl⟩, ?_, ?_⟩, List.Subset.trans h.subset hsame.symm.subset, ?_, ?_⟩
  · simpa [LabelExchange.Repeats, LabelExchange.Overlooks, LabelCall.name] using h.repeats_iff
  · intro id' name' hcall hreply
    obtain ⟨rfl, rfl⟩ := LabelCall.add.inj hcall
    exact ⟨passed, _, rfl, by simpa using hreply, label, hlabel, hname, rfl⟩
  · intro exchange hmem
    rcases List.mem_append.mp hmem with hpassed | hlast
    · exact h.subset_labels exchange hpassed
    · obtain rfl := List.mem_singleton.mp hlast
      exact h.subset
  · intro _
    exact hname ▸ List.mem_map_of_mem (hsame.mem_iff.mpr hlabel)

theorem exists_serveLabel (h : service.KeepsLabels labels) (call : LabelCall) (s : σ) :
    ∃ reply passed next, serveLabel service labels call s = (⟨call, reply, passed⟩, next) ∧
      Serves (labels s) (labels next) ⟨call, reply, passed⟩ := by
  obtain ⟨passed, value, next, hgets, hcreate⟩ := createLabel_gets h call.name s []
  cases call with
  | create name =>
    change createLabel name _ _ = _ at hcreate
    refine ⟨.ok value, passed, next, ?_, hgets.serves id fun _ _ hcall => nomatch hcall⟩
    simp [serveLabel, LabelCall.perform, hcreate]
  | add id name =>
    change createLabel name _ _ = _ at hcreate
    cases hvoid : value.isVoid with
    | true =>
      refine ⟨.ok (.bool false), passed, next, ?_, hgets.serves (by simp [Value.isVoid]) (by simp)⟩
      simp [serveLabel, LabelCall.perform, addLabel, hcreate, hvoid]
    | false =>
      rcases hgiven : service (.addLabel id value) next with ⟨answer, after⟩
      refine ⟨.ok (.bool answer.isSome), _, after, ?_,
        hgets.serves_add hvoid (h.giving hgiven) answer⟩
      simp [serveLabel, LabelCall.perform, addLabel, hcreate, hvoid, succeeds,
        MailService.watched_eq hgiven]

theorem subset_labels_serveLabels (h : service.KeepsLabels labels) (calls : List LabelCall)
    (s : σ) :
    ∀ record ∈ serveLabels service labels calls s, ∀ exchange ∈ record.passed, labels s ⊆
      exchange.labels := by
  induction calls generalizing s with
  | nil => simp [serveLabels]
  | cons call rest ih =>
    obtain ⟨reply, passed, next, hserve, hserves⟩ := exists_serveLabel h call s
    rw [serveLabels, hserve]
    intro record hmem
    rcases List.mem_cons.mp hmem with rfl | hrest
    · exact hserves.seen
    · exact fun exchange hexchange =>
        List.Subset.trans hserves.kept (ih next record hrest exchange hexchange)

/-- How calls are answered: in order, each of them soundly, and a label that was got is there from
then on. -/
structure Reuses (calls : List LabelCall) (records : List LabelRecord) : Prop where
  inOrder : records.map LabelRecord.call = calls
  sound : ∀ record ∈ records, record.IsSound
  lasting : records.Pairwise fun earlier later =>
    earlier.IsDone → ∀ exchange ∈ later.passed,
      earlier.call.name ∈ exchange.labels.map MailLabel.name

/-- Labels are reused, whatever requests fail, except for those that are overlooked. -/
theorem reuses_serveLabels (h : service.KeepsLabels labels) (calls : List LabelCall) (s : σ) :
    Reuses calls (serveLabels service labels calls s) := by
  induction calls generalizing s with
  | nil => exact ⟨rfl, by simp [serveLabels], .nil⟩
  | cons call rest ih =>
    obtain ⟨reply, passed, next, hserve, hserves⟩ := exists_serveLabel h call s
    have hrest := ih next
    rw [serveLabels, hserve]
    refine ⟨by rw [List.map_cons, hrest.inOrder],
      List.forall_mem_cons.mpr ⟨hserves.sound, hrest.sound⟩,
      List.pairwise_cons.mpr ⟨?_, hrest.lasting⟩⟩
    -- the label that was got is there after the call, and no later one loses it
    intro later hlater hdone exchange hexchange
    have hkept := subset_labels_serveLabels h rest next later hlater exchange hexchange
    exact List.map_subset _ hkept (hserves.there hdone)

/-- A service that lists its labels and numbers those that it adds. It counts the requests, and
fails at those whose number it is told. -/
def labelled (fails : Nat → Bool) : MailService (List MailLabel × Nat) :=
  fun request (known, asked) =>
  if fails asked then (none, known, asked + 1)
  else
    match request with
    | .labels =>
      (some (.object [("labels", .list (known.map MailLabel.toValue))]), known, asked + 1)
    | .createLabel name =>
      let label : MailLabel := ⟨"Label_" ++ toString (known.length + 1), name⟩
      (some label.toValue, known ++ [label], asked + 1)
    | _ => (some (.object []), known, asked + 1)

theorem keepsLabels_labelled (fails : Nat → Bool) : (labelled fails).KeepsLabels Prod.fst where
  listing := by
    rintro ⟨known, asked⟩ next answer hanswer
    dsimp only [labelled] at hanswer
    split at hanswer
    · obtain ⟨rfl, rfl⟩ := Prod.mk.inj hanswer
      exact ⟨.refl _, by simp⟩
    · obtain ⟨rfl, rfl⟩ := Prod.mk.inj hanswer
      refine ⟨.refl _, ?_⟩
      rintro _ ⟨⟩
      refine ⟨_, rfl, ?_⟩
      exact List.forall₂_map_right_iff.mpr
        (List.forall₂_same.mpr fun label _ => label.isShown_toValue)
  making := by
    rintro name ⟨known, asked⟩ next answer hanswer
    dsimp only [labelled] at hanswer
    split at hanswer
    · obtain ⟨rfl, rfl⟩ := Prod.mk.inj hanswer
      exact ⟨[], by simp, by simp, by simp⟩
    · obtain ⟨rfl, rfl⟩ := Prod.mk.inj hanswer
      refine ⟨_, .refl _, by simp, ?_⟩
      rintro _ ⟨⟩
      exact ⟨_, List.mem_singleton_self _, (MailLabel.isShown_toValue _).id⟩
  giving := by
    rintro id label ⟨known, asked⟩ next answer hanswer
    dsimp only [labelled] at hanswer
    split at hanswer <;> obtain ⟨rfl, rfl⟩ := Prod.mk.inj hanswer <;> exact .refl _

/-- The labels cannot be listed at first, and one is made of a name that there is already. -/
theorem reuses_serveLabels_failedListing :
    ∃ records, records =
      serveLabels (labelled (· = 0)) Prod.fst [.create "finance", .add "g1" "finance"]
        ([⟨"Label_1", "finance"⟩], 0) ∧
      Reuses [.create "finance", .add "g1" "finance"] records ∧
      records.map LabelRecord.reply = [.ok (.text "Label_2"), .ok (.bool true)] ∧
      ∃ record ∈ records, ∃ exchange ∈ record.passed, exchange.Repeats := by
  let made : LabelExchange :=
    ⟨⟨.createLabel "finance", some (.object [("id", .text "Label_2"), ("name", .text "finance")])⟩,
      [⟨"Label_1", "finance"⟩]⟩
  have hmade : made.Repeats := ⟨"finance", List.mem_singleton_self _, rfl⟩
  refine ⟨_, rfl, reuses_serveLabels (keepsLabels_labelled _) _ _, by rfl, _, List.mem_cons_self,
    made, ?_, hmade⟩
  exact List.mem_cons_of_mem _ (List.mem_singleton_self made)

end Mailbox

end MailTriage

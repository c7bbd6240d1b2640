import MailTriage.Mailbox.Body
import MailTriage.Proofs.Text.Base64
import MailTriage.Proofs.Text.Utf8

/-!
# The bodies of a message

A body is written as the UTF-8 bytes of its text in Base64, and is read back whether or not the
equals signs at the end are all there. A message is a tree of parts; its plain and its HTML body are
each the first of the kind in pre-order whose data is not empty, and that the visit ends when both
are found makes no difference.
-/

namespace MailTriage

open Text

/-! ## Reading a body -/

def encodeBody (s : String) : List Char := Base64.encode (s.toUTF8.data.toList.map UInt8.toNat)

theorem decodeBody_eq {data : String} {bytes : List Nat}
    (h : Base64.decode (Base64.pad data.toList) = some bytes) :
    decodeBody data = String.ofList (Utf8.decode bytes) := by
  rw [decodeBody, h]

theorem decodeBody_encodeBody (s : String) {k : Nat} (hk : k ≤ (encodeBody s).count '=') :
    decodeBody (String.ofList ((encodeBody s).rdrop k)) = s := by
  have hbytes : ∀ b ∈ Utf8.encode s.toList, b < 0x100 := fun _ => Utf8.lt_of_mem_encode
  rw [encodeBody, ← Utf8.encode_toList] at hk ⊢
  have hdecode : Base64.decode (Base64.pad ((Base64.encode (Utf8.encode s.toList)).rdrop k)) =
      some (Utf8.encode s.toList) := by
    rw [Base64.pad_rdrop hbytes hk, Base64.decode_encode hbytes]
  rw [decodeBody_eq (by rwa [String.toList_ofList]), Utf8.decode_encode, String.ofList_toList]

/-- Data that was written is read back, also with some of its equals signs missing. Of all other
data the bytes are read that it spells, when it is legible once it is made up to whole groups, and
none when it is not. -/
theorem decodeBody_inverts :
    (∀ (s : String) (k : Nat), k ≤ (encodeBody s).count '=' →
      decodeBody (String.ofList ((encodeBody s).rdrop k)) = s) ∧
    ∀ data : String,
      (Base64.IsLegible (Base64.pad data.toList) ∧ ∃ bytes,
        Base64.decode (Base64.pad data.toList) = some bytes ∧
        decodeBody data = String.ofList (Utf8.decode bytes)) ∨
      (¬Base64.IsLegible (Base64.pad data.toList) ∧ decodeBody data = "") := by
  refine ⟨fun s k hk => decodeBody_encodeBody s hk, ?_⟩
  intro data
  rw [← Base64.isSome_decode_iff]
  cases h : Base64.decode (Base64.pad data.toList) with
  | none => exact .inr ⟨by simp, by rw [decodeBody, h]⟩
  | some bytes => exact .inl ⟨rfl, bytes, rfl, decodeBody_eq h⟩

/-- A character of four bytes, without both of its equals signs. -/
theorem decodeBody_inverts_fourBytes :
    2 ≤ (encodeBody "😀").count '=' ∧ decodeBody "8J-YgA" = "😀" := by
  have hpads : 2 ≤ (encodeBody "😀").count '=' := by decide
  have hdata : String.ofList ((encodeBody "😀").rdrop 2) = "8J-YgA" := by decide
  exact ⟨hpads, hdata ▸ decodeBody_inverts.1 "😀" 2 hpads⟩

/-! ## Keeping what is found first -/

namespace Bodies

@[simp] theorem orElse_empty (bodies : Bodies) : bodies.orElse {} = bodies := by simp [orElse]

theorem orElse_assoc (first second third : Bodies) :
    (first.orElse second).orElse third = first.orElse (second.orElse third) := by
  simp [orElse, Option.or_assoc]

/-- Where both bodies are found, nothing that comes later counts. -/
theorem orElse_of_isComplete {found : Bodies} (h : found.isComplete = true) (later : Bodies) :
    found.orElse later = found := by
  obtain ⟨hplain, hhtml⟩ : found.plain.isSome = true ∧ found.html.isSome = true := by
    simpa [isComplete] using h
  simp [orElse, Option.or_of_isSome, hplain, hhtml]

end Bodies

namespace Part

mutual

/-- The bodies of a part when every part is visited, whatever is found. -/
def allBodies : Part → Except ResourceFault Bodies
  | broken fault => .error fault
  | node own parts => allBodiesFrom own parts

def allBodiesFrom (found : Bodies) : List Part → Except ResourceFault Bodies
  | [] => .ok found
  | part :: rest =>
    match part.allBodies with
    | .error fault => .error fault
    | .ok later => allBodiesFrom (found.orElse later) rest

end

end Part

/-! ## Trees of parts -/

/-- What a part says of itself: its type, and its body with the data, if it has them. Its other
members may be any. A list of parts, if there is one, stands between the members `before` and
`after` it. -/
structure PartHead where
  before : Fields
  after : Fields
  mimeType : Option String
  body : Option Fields
  data : Option String
  mimeType_eq : (before ++ after).get? "mimeType" = mimeType.map .text
  body_eq : (before ++ after).get? "body" = body.map .object
  data_eq : body.bind (Fields.get? "data") = data.map .text
  parts_eq : (before ++ after).get? "parts" = none

/-- The payload of a message, without a list of parts or with one. -/
inductive Payload
  | single (head : PartHead)
  | multi (head : PartHead) (parts : List Payload)

namespace Payload

mutual

def toValue : Payload → Value
  | single head => .object (head.before ++ head.after)
  | multi head parts => .object (head.before ++ ("parts", .list (toValues parts)) :: head.after)

def toValues : List Payload → List Value
  | [] => []
  | part :: rest => part.toValue :: toValues rest

end

mutual

/-- The parts in pre-order, each before those that it holds. -/
def heads : Payload → List PartHead
  | single head => [head]
  | multi head parts => head :: headsOf parts

def headsOf : List Payload → List PartHead
  | [] => []
  | part :: rest => part.heads ++ headsOf rest

end

end Payload

def PartHead.dataOf? (mimeType : String) (head : PartHead) : Option String :=
  if head.mimeType = some mimeType then head.data.filter (· ≠ "") else none

def firstText (mimeType : String) (heads : List PartHead) : Option String :=
  (heads.findSome? (PartHead.dataOf? mimeType)).map decodeBody

def firstBodies (heads : List PartHead) : Bodies :=
  ⟨firstText "text/plain" heads, firstText "text/html" heads⟩

theorem firstBodies_append (front back : List PartHead) :
    firstBodies (front ++ back) = (firstBodies front).orElse (firstBodies back) := by
  simp [firstBodies, firstText, Bodies.orElse, List.findSome?_append, Option.map_or]

theorem firstBodies_cons (head : PartHead) (rest : List PartHead) :
    firstBodies (head :: rest) = (firstBodies [head]).orElse (firstBodies rest) :=
  firstBodies_append [head] rest

/-! ## Visiting the parts -/

theorem Fields.get?_append (key : String) (front back : Fields) :
    Fields.get? key (front ++ back) = (Fields.get? key front).or (Fields.get? key back) := by
  induction front with
  | nil => rfl
  | cons entry rest ih =>
    obtain ⟨k, v⟩ := entry
    by_cases h : k = key <;> simp [Fields.get?, h, ih]

theorem Fields.get?_middle {key other : String} (h : key ≠ other) (v : Value)
    (before after : Fields) :
    Fields.get? key (before ++ (other, v) :: after) = Fields.get? key (before ++ after) := by
  simp [Fields.get?_append, Fields.get?, Ne.symm h]

theorem Fields.get?_middle_self {key : String} {before after : Fields}
    (h : Fields.get? key (before ++ after) = none) (v : Value) :
    Fields.get? key (before ++ (key, v) :: after) = some v := by
  obtain ⟨hbefore, -⟩ : Fields.get? key before = none ∧ Fields.get? key after = none := by
    simpa [Fields.get?_append, Option.or_eq_none_iff] using h
  simp [Fields.get?_append, hbefore, Fields.get?]

namespace Part

theorem ofParts_eq (fields : Fields) :
    ofParts fields = ((fields.get? "parts").map ofHeld).getD [] := by
  induction fields with
  | nil => rfl
  | cons entry rest ih =>
    obtain ⟨k, v⟩ := entry
    by_cases h : k = "parts" <;> simp [ofParts, Fields.get?, h, ih]

theorem ownBodies_eq (head : PartHead) :
    ownBodies ((head.mimeType.map .text).getD (.text "")) (.ofText? head.data) =
      .ok (firstBodies [head]) := by
  have hfirst : ∀ mimeType, firstText mimeType [head] = (head.dataOf? mimeType).map decodeBody := by
    intro mimeType
    simp [firstText]
  rw [firstBodies, hfirst, hfirst]
  unfold PartHead.dataOf? ownBodies
  cases hdata : head.data with
  | none => simp [Value.ofText?, Value.isVoid]
  | some data =>
    by_cases hempty : data = ""
    · simp [hempty, Value.ofText?, Value.isVoid]
    · cases hmime : head.mimeType with
      | none => simp [hempty, Value.ofText?, Value.isVoid]
      | some mimeType =>
        by_cases hplain : mimeType = "text/plain"
        · simp [hempty, hplain, Value.ofText?, Value.isVoid]
        · by_cases hhtml : mimeType = "text/html"
          · simp [hempty, hhtml, Value.ofText?, Value.isVoid]
          · simp [hempty, hplain, hhtml, Value.ofText?, Value.isVoid]

theorem dataOf_eq {head : PartHead} {fields : Fields}
    (h : Fields.get? "body" fields = Fields.get? "body" (head.before ++ head.after)) :
    dataOf fields = .ok (.ofText? head.data) := by
  have hdata := head.data_eq
  rw [dataOf, h, head.body_eq]
  cases hbody : head.body with
  | none =>
    rw [hbody, Option.bind_none, eq_comm, Option.map_eq_none_iff] at hdata
    rw [hdata]
    rfl
  | some body =>
    rw [hbody, Option.bind_some] at hdata
    simp only [Option.map_some, hdata]
    cases head.data <;> rfl

theorem ownOf_eq {head : PartHead} {fields : Fields}
    (h : ∀ key ≠ "parts", Fields.get? key fields = Fields.get? key (head.before ++ head.after)) :
    ownOf fields = .ok (firstBodies [head]) := by
  rw [ownOf, dataOf_eq (h "body" (by decide)), h "mimeType" (by decide), head.mimeType_eq]
  exact ownBodies_eq head

theorem ofValue_single (head : PartHead) :
    ofValue (.object (head.before ++ head.after)) = node (firstBodies [head]) [] := by
  have hown : ownOf (head.before ++ head.after) = .ok (firstBodies [head]) :=
    ownOf_eq fun _ _ => rfl
  rw [ofValue, hown, ofParts_eq, head.parts_eq]
  rfl

theorem ofValue_multi (head : PartHead) (items : List Value) :
    ofValue (.object (head.before ++ ("parts", .list items) :: head.after)) =
      node (firstBodies [head]) (ofItems items) := by
  have hown := ownOf_eq fun key hkey => Fields.get?_middle hkey (.list items) head.before head.after
  rw [ofValue, hown, ofParts_eq, Fields.get?_middle_self head.parts_eq]
  simp [ofHeld]

theorem bodiesFrom_cons {part : Part} {later : Bodies} (found : Bodies) (rest : List Part)
    (h : part.bodies = .ok later) :
    bodiesFrom found (part :: rest) =
      if (found.orElse later).isComplete then .ok (found.orElse later)
      else bodiesFrom (found.orElse later) rest := by
  rw [bodiesFrom, h]

end Part

namespace Payload

mutual

theorem bodies_toValue : ∀ payload : Payload,
    (Part.ofValue payload.toValue).bodies = .ok (firstBodies payload.heads) ∧
      (Part.ofValue payload.toValue).allBodies = .ok (firstBodies payload.heads)
  | single head => by
    rw [toValue, Part.ofValue_single, heads]
    exact ⟨rfl, rfl⟩
  | multi head parts => by
    rw [toValue, Part.ofValue_multi, heads, Part.bodies, Part.allBodies,
      firstBodies_cons head (headsOf parts)]
    exact bodiesFrom_toValues (firstBodies [head]) parts

theorem bodiesFrom_toValues (found : Bodies) : ∀ parts : List Payload,
    Part.bodiesFrom found (Part.ofItems (toValues parts)) =
      .ok (found.orElse (firstBodies (headsOf parts))) ∧
      Part.allBodiesFrom found (Part.ofItems (toValues parts)) =
        .ok (found.orElse (firstBodies (headsOf parts)))
  | [] => by
    have hnone : firstBodies [] = {} := rfl
    rw [toValues, Part.ofItems, headsOf, hnone, Bodies.orElse_empty]
    exact ⟨rfl, rfl⟩
  | part :: rest => by
    obtain ⟨hpart, hall⟩ := bodies_toValue part
    obtain ⟨hrest, hallRest⟩ := bodiesFrom_toValues (found.orElse (firstBodies part.heads)) rest
    rw [toValues, Part.ofItems, headsOf, firstBodies_append, ← Bodies.orElse_assoc]
    refine ⟨?_, ?_⟩
    · rw [Part.bodiesFrom_cons _ _ hpart]
      -- ending the visit early loses nothing, as both bodies are found
      split
      · next hcomplete => rw [Bodies.orElse_of_isComplete hcomplete]
      · exact hrest
    · rw [Part.allBodiesFrom, hall]
      exact hallRest

end

/-- The bodies of a message are each that of the first part in pre-order that has data of its type,
and they are what is found when all parts are visited. -/
theorem bodies_firstInOrder (payload : Payload) :
    (Part.ofValue payload.toValue).bodies =
        .ok { plain := (payload.heads.findSome? (PartHead.dataOf? "text/plain")).map decodeBody
              html := (payload.heads.findSome? (PartHead.dataOf? "text/html")).map decodeBody } ∧
      (Part.ofValue payload.toValue).allBodies = (Part.ofValue payload.toValue).bodies := by
  obtain ⟨hbodies, hall⟩ := bodies_toValue payload
  exact ⟨hbodies, hall.trans hbodies.symm⟩

end Payload

end MailTriage

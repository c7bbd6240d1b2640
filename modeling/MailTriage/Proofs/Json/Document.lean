import MailTriage.Proofs.Json.Number
import MailTriage.Proofs.Json.Text

/-!
# Documents read back

Reading the document of a value gives the value back, with its objects in the order of their keys,
when its numbers can be written and no object has a key twice, in whichever of the two layouts it is
written. A layout says which blanks stand between the parts, and reading skips them. The induction
is on the value; what it carries through the parts is that the fuel is at least the length of the
text that is still to be read.
-/

namespace MailTriage

open Number

/-! ## Values that documents hold -/

namespace Value

mutual

/-- Whether a document holds a value as it is: its floating numbers are finite, its whole numbers
are short enough to be read, and no object has a key twice. -/
def isPortable : Value → Bool
  | int n => isReadable n
  | float x => x.isFinite
  | list items => allPortable items
  | object fields => decide (fields.map Prod.fst).Nodup && membersPortable fields
  | null => true
  | bool _ => true
  | text _ => true

def allPortable : List Value → Bool
  | [] => true
  | item :: rest => item.isPortable && allPortable rest

def membersPortable : List (String × Value) → Bool
  | [] => true
  | (_, value) :: rest => value.isPortable && membersPortable rest

end

theorem allPortable_eq_all (items : List Value) : allPortable items = items.all isPortable := by
  induction items with
  | nil => rfl
  | cons item rest ih => rw [allPortable, List.all_cons, ih]

end Value

namespace Fields

theorem set_of_not_mem {key : String} {fields : Fields} (h : key ∉ fields.map Prod.fst)
    (value : Value) :
    set key value fields = fields ++ [(key, value)] := by
  induction fields with
  | nil => rfl
  | cons entry rest ih =>
    obtain ⟨k, v⟩ := entry
    rw [List.map_cons, List.mem_cons, not_or] at h
    rw [set, if_neg (Ne.symm h.1), ih h.2, List.cons_append]

theorem foldl_set_of_nodup {entries acc : Fields} (h : ((acc ++ entries).map Prod.fst).Nodup) :
    entries.foldl (fun fields entry => set entry.1 entry.2 fields) acc = acc ++ entries := by
  induction entries generalizing acc with
  | nil => rw [List.foldl_nil, List.append_nil]
  | cons entry rest ih =>
    have hkey : entry.1 ∉ acc.map Prod.fst := fun hmem => by
      rw [List.map_append, List.map_cons, List.nodup_append] at h
      exact h.2.2 _ hmem _ List.mem_cons_self rfl
    rw [List.foldl_cons, set_of_not_mem hkey, ih (by simpa using h), List.append_assoc,
      List.singleton_append]

theorem ofEntries_of_nodup {entries : Fields} (h : (entries.map Prod.fst).Nodup) :
    ofEntries entries = entries :=
  foldl_set_of_nodup ((List.nil_append entries).symm ▸ h)

end Fields

namespace Json

/-! ## Blanks -/

theorem skipSpace_cons {c : Char} (h : isSpace c = false) (cs : List Char) :
    skipSpace (c :: cs) = c :: cs :=
  List.dropWhile_cons_of_neg (by simp [h])

/-- A run of blanks. -/
def Blank (cs : List Char) : Prop := ∀ c ∈ cs, isSpace c = true

theorem Blank.skipSpace_append {blank : List Char} (h : Blank blank) (cs : List Char) :
    skipSpace (blank ++ cs) = skipSpace cs :=
  List.dropWhile_append_of_pos h

theorem blank_newLine (level : Nat) : Blank (newLine level) := by
  intro c hc
  rcases List.mem_cons.mp hc with rfl | hc
  · rfl
  · rw [List.eq_of_mem_replicate hc]
    rfl

/-- A text whose first character is neither a blank nor a byte order mark, nor the end of a list. -/
def Opens (cs : List Char) : Prop := ∃ c ∈ cs.head?, isSpace c = false ∧ c ≠ ']' ∧ c ≠ '\ufeff'

theorem Opens.append {cs : List Char} (h : Opens cs) (rest : List Char) : Opens (cs ++ rest) := by
  obtain ⟨c, hc, hopens⟩ := h
  exact ⟨c, by rw [Option.mem_def, List.head?_append, hc]; rfl, hopens⟩

theorem Opens.skipSpace {cs : List Char} (h : Opens cs) : Json.skipSpace cs = cs := by
  obtain ⟨c, hc, hspace, -⟩ := h
  obtain ⟨rest, rfl⟩ := List.head?_eq_some_iff.mp hc
  exact skipSpace_cons hspace rest

theorem Opens.skipSpace_blank {cs : List Char} (h : Opens cs) {blank : List Char}
    (hblank : Blank blank) (rest : List Char) :
    Json.skipSpace (blank ++ (cs ++ rest)) = cs ++ rest := by
  rw [hblank.skipSpace_append, (h.append rest).skipSpace]

theorem opens_quote (cs : List Char) : Opens ('"' :: cs) := ⟨'"', rfl, rfl, by decide, by decide⟩

/-- A character that begins no other value than one without parts. -/
structure IsScalarHead (c : Char) : Prop where
  space : isSpace c = false
  bracket : c ≠ ']'
  mark : c ≠ '\ufeff'
  quote : c ≠ '"'
  list : c ≠ '['
  object : c ≠ '\x7b'

theorem isScalarHead_minus : IsScalarHead '-' := by constructor <;> decide

theorem isScalarHead_of_isDigit {c : Char} (h : c.isDigit = true) : IsScalarHead c := by
  have hne {d : Char} (hd : d.isDigit = false) : c ≠ d :=
    fun heq => Bool.false_ne_true (hd.symm.trans (heq ▸ h))
  refine ⟨?_, hne rfl, hne rfl, hne rfl, hne rfl, hne rfl⟩
  unfold isSpace
  simp only [Bool.or_eq_false_iff, decide_eq_false_iff_not]
  exact ⟨⟨⟨hne rfl, hne rfl⟩, hne rfl⟩, hne rfl⟩

/-- A text that begins with no other value than one without parts. -/
def OpensScalar (cs : List Char) : Prop := ∃ c ∈ cs.head?, IsScalarHead c

theorem OpensScalar.opens {cs : List Char} (h : OpensScalar cs) : Opens cs := by
  obtain ⟨c, hc, hhead⟩ := h
  exact ⟨c, hc, hhead.space, hhead.bracket, hhead.mark⟩

theorem OpensScalar.append {cs : List Char} (h : OpensScalar cs) (rest : List Char) :
    OpensScalar (cs ++ rest) := by
  obtain ⟨c, hc, hhead⟩ := h
  exact ⟨c, by rw [Option.mem_def, List.head?_append, hc]; rfl, hhead⟩

theorem ReadsAs.opensScalar {text : List Char} {value : Value} (h : ReadsAs text value) :
    OpensScalar text := by
  obtain ⟨c, hc, rfl | hdigit⟩ := h.head
  · exact ⟨'-', hc, isScalarHead_minus⟩
  · exact ⟨c, hc, isScalarHead_of_isDigit hdigit⟩

theorem stops_cons {c : Char} (hdigit : c.isDigit = false) (hpoint : c ≠ '.') (hlower : c ≠ 'e')
    (hupper : c ≠ 'E') (rest : List Char) : Stops (c :: rest) where
  digit _ hd := Option.some.inj hd ▸ hdigit
  point he := hpoint (Option.some.inj he)
  lower he := hlower (Option.some.inj he)
  upper he := hupper (Option.some.inj he)

theorem stops_nil : Stops [] where
  digit _ hd := absurd hd (Option.not_mem_none _)
  point he := absurd he.symm (Option.some_ne_none _)
  lower he := absurd he.symm (Option.some_ne_none _)
  upper he := absurd he.symm (Option.some_ne_none _)

theorem stops_comma (rest : List Char) : Stops (',' :: rest) :=
  stops_cons (by decide) (by decide) (by decide) (by decide) rest

/-- A number has ended where a blank follows, or what stops it without one. -/
theorem Blank.stops {blank : List Char} (h : Blank blank) {rest : List Char} (hrest : Stops rest) :
    Stops (blank ++ rest) := by
  cases blank with
  | nil => exact hrest
  | cons c cs =>
    have hc : isSpace c = true := h c List.mem_cons_self
    simp only [isSpace, Bool.or_eq_true, decide_eq_true_eq] at hc
    rcases hc with ((rfl | rfl) | rfl) | rfl <;>
      exact stops_cons (by decide) (by decide) (by decide) (by decide) _

/-! ## Layouts -/

/-- The blanks of a document, by the depth where they stand: before the first part of a list or an
object, between two parts, and after the last one. -/
structure Layout where
  opening : Nat → List Char
  between : Nat → List Char
  closing : Nat → List Char
  blank_opening : ∀ level, Blank (opening level)
  blank_between : ∀ level, Blank (between level)
  blank_closing : ∀ level, Blank (closing level)

namespace Layout

mutual

/-- A value with the blanks of a layout; `level` is the depth where it begins. -/
def encode (layout : Layout) (level : Nat) : Value → List Char
  | .list [] => ['[', ']']
  | .list items =>
    '[' :: (layout.opening (level + 1) ++ (layout.encodeItems (level + 1) items ++
      (layout.closing level ++ [']'])))
  | .object [] => ['\x7b', '\x7d']
  | .object fields =>
    '\x7b' :: (layout.opening (level + 1) ++ (layout.encodeMembers (level + 1) fields ++
      (layout.closing level ++ ['\x7d'])))
  | .null => encodeScalar .null
  | .bool b => encodeScalar (.bool b)
  | .int n => encodeScalar (.int n)
  | .float x => encodeScalar (.float x)
  | .text s => encodeScalar (.text s)

def encodeItems (layout : Layout) (level : Nat) : List Value → List Char
  | [] => []
  | [item] => layout.encode level item
  | item :: rest =>
    layout.encode level item ++ ',' :: (layout.between level ++ layout.encodeItems level rest)

def encodeMembers (layout : Layout) (level : Nat) : List (String × Value) → List Char
  | [] => []
  | [(key, value)] => encodeText key ++ ':' :: ' ' :: layout.encode level value
  | (key, value) :: rest =>
    encodeText key ++ ':' :: ' ' ::
      (layout.encode level value ++
        ',' :: (layout.between level ++ layout.encodeMembers level rest))

end

def page : Layout where
  opening := newLine
  between := newLine
  closing := newLine
  blank_opening := blank_newLine
  blank_between := blank_newLine
  blank_closing := blank_newLine

def line : Layout where
  opening _ := []
  between _ := [' ']
  closing _ := []
  blank_opening _ := by simp [Blank]
  blank_between _ := by simp [Blank, isSpace]
  blank_closing _ := by simp [Blank]

mutual

theorem encodePage_eq : ∀ (v : Value) (level : Nat), encodePage level v = page.encode level v
  | .null, _ | .bool _, _ | .int _, _ | .float _, _ | .text _, _ | .list [], _ | .object [], _ =>
    rfl
  | .list (item :: items), level => by
    rw [encodePage, encodePageItems_eq (List.cons_ne_nil item items), List.append_assoc,
      List.append_assoc]
    · rfl
    · simp
  | .object (member :: members), level => by
    rw [encodePage, encodePageMembers_eq (List.cons_ne_nil member members), List.append_assoc,
      List.append_assoc]
    · rfl
    · simp

/-- Over several lines, the blanks before the first item come with the items. -/
theorem encodePageItems_eq : ∀ {items : List Value}, items ≠ [] → ∀ level : Nat,
    encodePageItems level items = newLine level ++ page.encodeItems level items
  | [], h, _ => absurd rfl h
  | [item], _, level => by rw [encodePageItems, encodePage_eq item level, encodeItems]
  | item :: next :: items, _, level => by
    rw [encodePageItems, encodePage_eq item level,
      encodePageItems_eq (List.cons_ne_nil next items) level, List.append_assoc]
    · rfl
    · simp

theorem encodePageMembers_eq : ∀ {members : Fields}, members ≠ [] → ∀ level : Nat,
    encodePageMembers level members = newLine level ++ page.encodeMembers level members
  | [], h, _ => absurd rfl h
  | [(key, value)], _, level => by
    rw [encodePageMembers, encodePage_eq value level, encodeMembers, List.append_assoc]
  | (key, value) :: next :: members, _, level => by
    rw [encodePageMembers, encodePage_eq value level,
      encodePageMembers_eq (List.cons_ne_nil next members) level, List.append_assoc]
    · rfl
    · simp

end

mutual

theorem encodeLine_eq : ∀ (v : Value) (level : Nat), encodeLine v = line.encode level v
  | .null, _ | .bool _, _ | .int _, _ | .float _, _ | .text _, _ | .list [], _ | .object [], _ =>
    rfl
  | .list (item :: items), level => by
    rw [encodeLine, encodeItems_eq (item :: items) (level + 1), encode]
    · rfl
    · simp
  | .object (member :: members), level => by
    rw [encodeLine, encodeMembers_eq (member :: members) (level + 1), encode]
    · rfl
    · simp

theorem encodeItems_eq :
    ∀ (items : List Value) (level : Nat), Json.encodeItems items = line.encodeItems level items
  | [], _ => rfl
  | [item], level => encodeLine_eq item level
  | item :: next :: items, level => by
    rw [Json.encodeItems, encodeLine_eq item level, encodeItems_eq (next :: items) level]
    · rfl
    · simp

theorem encodeMembers_eq : ∀ (members : Fields) (level : Nat),
    Json.encodeMembers members = line.encodeMembers level members
  | [], _ => rfl
  | [(key, value)], level => by rw [Json.encodeMembers, encodeLine_eq value level, encodeMembers]
  | (key, value) :: next :: members, level => by
    rw [Json.encodeMembers, encodeLine_eq value level, encodeMembers_eq (next :: members) level]
    · rfl
    · simp

end

variable {layout : Layout}

theorem opens_encode {v : Value} (h : v.isPortable = true) (level : Nat) :
    Opens (layout.encode level v) := by
  cases v with
  | null => exact ⟨'n', rfl, rfl, by decide, by decide⟩
  | bool b => cases b <;> exact ⟨_, rfl, rfl, by decide, by decide⟩
  | int n => exact (readsAs_encodeInt (of_decide_eq_true h)).opensScalar.opens
  | float x => exact (readsAs_float h).opensScalar.opens
  | text s => exact opens_quote _
  | list items => cases items <;> exact ⟨'[', rfl, rfl, by decide, by decide⟩
  | object fields => cases fields <;> exact ⟨'\x7b', rfl, rfl, by decide, by decide⟩

end Layout

/-! ## Values without parts -/

theorem OpensScalar.readValue_eq {cs : List Char} (h : OpensScalar cs) (fuel : Nat) :
    readValue (fuel + 1) cs = readScalar cs := by
  obtain ⟨c, hc, hhead⟩ := h
  obtain ⟨left, rfl⟩ := List.head?_eq_some_iff.mp hc
  rw [readValue.eq_def]
  dsimp only
  split
  · next heq => exact absurd (List.cons.inj heq).1 hhead.quote
  · next heq => exact absurd (List.cons.inj heq).1 hhead.list
  · next heq => exact absurd (List.cons.inj heq).1 hhead.object
  · rfl

theorem readValue_readsAs {text : List Char} {value : Value} (h : ReadsAs text value) {fuel : Nat}
    (hfuel : text.length ≤ fuel) {rest : List Char} (hrest : Stops rest) :
    readValue fuel (text ++ rest) = .ok (value, rest) := by
  obtain ⟨c, hc, -⟩ := h.head
  have hpos : 0 < text.length := List.length_pos_of_ne_nil fun hnil => by simp [hnil] at hc
  obtain ⟨fuel, rfl⟩ : ∃ k, fuel = k + 1 := ⟨fuel - 1, by omega⟩
  rw [(h.opensScalar.append rest).readValue_eq fuel, h.reads rest hrest]

theorem length_encodeText_pos (s : String) : 0 < (encodeText s).length := Nat.succ_pos _

theorem readValue_encodeText (s : String) {fuel : Nat} (hfuel : (encodeText s).length ≤ fuel)
    (rest : List Char) : readValue fuel (encodeText s ++ rest) = .ok (.text s, rest) := by
  obtain ⟨fuel, rfl⟩ : ∃ k, fuel = k + 1 :=
    ⟨fuel - 1, by have := length_encodeText_pos s; omega⟩
  rw [encodeText, List.cons_append, List.append_assoc, List.singleton_append, readValue,
    readText_flatMap_encodeChar]
  dsimp only
  rw [String.ofList_toList]

/-! ## Values with parts -/

section Parts

variable {fuel : Nat} {cs left rest : List Char}

theorem readValue_list {items : List Value} (hopens : Opens (skipSpace cs))
    (hitems : readItems fuel (skipSpace cs) = .ok (items, rest)) :
    readValue (fuel + 1) ('[' :: cs) = .ok (.list items, rest) := by
  rw [readValue]
  split
  · next heq =>
    obtain ⟨c, hc, -, hne, -⟩ := hopens
    rw [heq] at hc
    exact absurd (Option.some.inj hc).symm hne
  · rw [hitems]

theorem readItems_last {item : Value} (hitem : readValue fuel cs = .ok (item, left))
    (hend : skipSpace left = ']' :: rest) : readItems (fuel + 1) cs = .ok ([item], rest) := by
  simp [readItems, hitem, hend]

theorem readItems_next {item : Value} {items : List Value}
    (hitem : readValue fuel cs = .ok (item, ',' :: left))
    (hitems : readItems fuel (skipSpace left) = .ok (items, rest)) :
    readItems (fuel + 1) cs = .ok (item :: items, rest) := by
  have hcomma : skipSpace (',' :: left) = ',' :: left := skipSpace_cons rfl left
  simp [readItems, hitem, hcomma, hitems]

theorem readValue_object {members : Fields} (key : String)
    (hstart : skipSpace cs = encodeText key ++ left)
    (hmembers : readMembers fuel (skipSpace cs) = .ok (members, rest))
    (hkeys : (members.map Prod.fst).Nodup) :
    readValue (fuel + 1) ('\x7b' :: cs) = .ok (.object members, rest) := by
  rw [readValue]
  split
  · next heq =>
    rw [heq] at hstart
    exact absurd (List.cons.inj hstart).1 (by decide)
  · rw [hmembers]
    dsimp only
    rw [Fields.ofEntries_of_nodup hkeys]

theorem skipSpace_colon : skipSpace (':' :: ' ' :: cs) = ':' :: ' ' :: cs := skipSpace_cons rfl _

theorem Opens.skipSpace_space (h : Opens cs) : Json.skipSpace (' ' :: cs) = cs :=
  (List.dropWhile_cons_of_pos rfl).trans h.skipSpace

theorem readMembers_last {key : String} {value : Value} (hopens : Opens cs)
    (hvalue : readValue fuel cs = .ok (value, left)) (hend : skipSpace left = '\x7d' :: rest) :
    readMembers (fuel + 1) (encodeText key ++ ':' :: ' ' :: cs) = .ok ([(key, value)], rest) := by
  simp [readMembers, encodeText, readText_flatMap_encodeChar, skipSpace_colon,
    hopens.skipSpace_space, hvalue, hend]

theorem readMembers_next {key : String} {value : Value} {members : Fields} (hopens : Opens cs)
    (hvalue : readValue fuel cs = .ok (value, ',' :: left))
    (hmembers : readMembers fuel (skipSpace left) = .ok (members, rest)) :
    readMembers (fuel + 1) (encodeText key ++ ':' :: ' ' :: cs) =
      .ok ((key, value) :: members, rest) := by
  have hcomma : skipSpace (',' :: left) = ',' :: left := skipSpace_cons rfl left
  simp [readMembers, encodeText, readText_flatMap_encodeChar, skipSpace_colon,
    hopens.skipSpace_space, hvalue, hcomma, hmembers]

end Parts

/-! ## Documents -/

namespace Layout

variable {layout : Layout}

theorem encode_list {items : List Value} (h : items ≠ []) (level : Nat) :
    layout.encode level (.list items) =
      '[' :: (layout.opening (level + 1) ++ (layout.encodeItems (level + 1) items ++
        (layout.closing level ++ [']']))) := by
  obtain ⟨item, more, rfl⟩ := List.exists_cons_of_ne_nil h
  rfl

theorem encodeItems_next {items : List Value} (h : items ≠ []) (level : Nat) (item : Value) :
    layout.encodeItems level (item :: items) =
      layout.encode level item ++
        ',' :: (layout.between level ++ layout.encodeItems level items) := by
  obtain ⟨next, more, rfl⟩ := List.exists_cons_of_ne_nil h
  rfl

theorem encode_object {members : Fields} (h : members ≠ []) (level : Nat) :
    layout.encode level (.object members) =
      '\x7b' :: (layout.opening (level + 1) ++ (layout.encodeMembers (level + 1) members ++
        (layout.closing level ++ ['\x7d']))) := by
  obtain ⟨member, more, rfl⟩ := List.exists_cons_of_ne_nil h
  rfl

theorem encodeMembers_next {members : Fields} (h : members ≠ []) (level : Nat) (key : String)
    (value : Value) :
    layout.encodeMembers level ((key, value) :: members) =
      encodeText key ++ ':' :: ' ' ::
        (layout.encode level value ++
          ',' :: (layout.between level ++ layout.encodeMembers level members)) := by
  obtain ⟨next, more, rfl⟩ := List.exists_cons_of_ne_nil h
  rfl

theorem opens_encodeText (key : String) : Opens (encodeText key) := opens_quote _

theorem opens_encodeItems {item : Value} (hitem : item.isPortable = true) (items : List Value)
    (level : Nat) :
    Opens (layout.encodeItems level (item :: items)) := by
  by_cases hlast : items = []
  · subst hlast
    exact opens_encode hitem level
  · rw [encodeItems_next hlast]
    exact (opens_encode hitem level).append _

theorem exists_encodeMembers (layout : Layout) (key : String) (value : Value) (members : Fields)
    (level : Nat) :
    ∃ left, layout.encodeMembers level ((key, value) :: members) = encodeText key ++ left := by
  by_cases hlast : members = []
  · subst hlast
    exact ⟨_, rfl⟩
  · exact ⟨_, encodeMembers_next hlast level key value⟩

theorem opens_encodeMembers (layout : Layout) (key : String) (value : Value) (members : Fields)
    (level : Nat) :
    Opens (layout.encodeMembers level ((key, value) :: members)) := by
  obtain ⟨left, hleft⟩ := layout.exists_encodeMembers key value members level
  rw [hleft]
  exact (opens_encodeText key).append left

theorem length_encode_pos {v : Value} (h : v.isPortable = true) (level : Nat) :
    0 < (layout.encode level v).length := by
  obtain ⟨c, hc, -⟩ := opens_encode h level
  exact List.length_pos_of_mem (List.mem_of_mem_head? hc)

/-- Where the last item has ended, blanks and the end of the list follow. -/
theorem skipSpace_closing (layout : Layout) (level : Nat) {c : Char} (hc : isSpace c = false)
    (rest : List Char) :
    skipSpace (layout.closing level ++ (c :: rest)) = c :: rest := by
  rw [(layout.blank_closing level).skipSpace_append, skipSpace_cons hc]

theorem stops_bracket (layout : Layout) (level : Nat) (rest : List Char) :
    Stops (layout.closing level ++ (']' :: rest)) :=
  (layout.blank_closing level).stops
    (stops_cons (by decide) (by decide) (by decide) (by decide) rest)

theorem stops_brace (layout : Layout) (level : Nat) (rest : List Char) :
    Stops (layout.closing level ++ ('\x7d' :: rest)) :=
  (layout.blank_closing level).stops
    (stops_cons (by decide) (by decide) (by decide) (by decide) rest)

mutual

theorem readValue_encode (layout : Layout) : ∀ (v : Value) (level fuel : Nat) (rest : List Char),
    v.isPortable = true → (layout.encode level v).length ≤ fuel → Stops rest →
      readValue fuel (layout.encode level v ++ rest) = .ok (v, rest)
  | v, level, 0, _, h, hfuel, _ => absurd hfuel (Nat.not_le.mpr (length_encode_pos h level))
  | .null, _, _ + 1, _, _, _, _ => rfl
  | .bool true, _, _ + 1, _, _, _, _ => rfl
  | .bool false, _, _ + 1, _, _, _, _ => rfl
  | .int _, _, _ + 1, _, h, hfuel, hrest =>
    readValue_readsAs (readsAs_encodeInt (of_decide_eq_true h)) hfuel hrest
  | .float _, _, _ + 1, _, h, hfuel, hrest => readValue_readsAs (readsAs_float h) hfuel hrest
  | .text s, _, _ + 1, rest, _, hfuel, _ => readValue_encodeText s hfuel rest
  | .list [], _, _ + 1, _, _, _, _ => rfl
  | .list (item :: items), level, fuel + 1, rest, h, hfuel, _ => by
    rw [encode_list (List.cons_ne_nil _ _)] at hfuel ⊢
    rw [Value.isPortable] at h
    simp only [List.length_cons, List.length_append, List.length_nil] at hfuel
    have hopens : Opens (layout.encodeItems (level + 1) (item :: items)) :=
      opens_encodeItems (Bool.and_eq_true_iff.mp h).1 items (level + 1)
    have hstart :=
      hopens.skipSpace_blank (layout.blank_opening (level + 1))
        (layout.closing level ++ (']' :: rest))
    simp only [List.cons_append, List.append_assoc, List.nil_append]
    apply readValue_list
    · rw [hstart]
      exact hopens.append _
    · rw [hstart]
      exact readItems_encode layout (item :: items) (level + 1) fuel level rest
        (List.cons_ne_nil _ _) h (by omega)
  | .object [], _, _ + 1, _, _, _, _ => rfl
  | .object ((key, value) :: members), level, fuel + 1, rest, h, hfuel, _ => by
    rw [encode_object (List.cons_ne_nil _ _)] at hfuel ⊢
    rw [Value.isPortable, Bool.and_eq_true, decide_eq_true_eq] at h
    simp only [List.length_cons, List.length_append, List.length_nil] at hfuel
    obtain ⟨left, hleft⟩ := layout.exists_encodeMembers key value members (level + 1)
    have hopens := layout.opens_encodeMembers key value members (level + 1)
    have hstart := hopens.skipSpace_blank (layout.blank_opening (level + 1))
      (layout.closing level ++ ('\x7d' :: rest))
    simp only [List.cons_append, List.append_assoc, List.nil_append]
    apply readValue_object key
    · rw [hstart, hleft, List.append_assoc]
    · rw [hstart]
      exact readMembers_encode layout ((key, value) :: members) (level + 1) fuel level rest
        (List.cons_ne_nil _ _)
        h.2 (by omega)
    · exact h.1

/-- The items of a list are read back. The bracket after them pays for the last step. -/
theorem readItems_encode (layout : Layout) :
    ∀ (items : List Value) (level fuel outer : Nat) (rest : List Char),
    items ≠ [] → Value.allPortable items = true →
      (layout.encodeItems level items).length + 1 ≤ fuel →
      readItems fuel (layout.encodeItems level items ++ (layout.closing outer ++ (']' :: rest))) =
        .ok (items, rest)
  | [], _, _, _, _, hitems, _, _ => absurd rfl hitems
  | _ :: _, _, 0, _, _, _, _, hfuel => absurd hfuel (Nat.not_succ_le_zero _)
  | [item], level, fuel + 1, outer, rest, _, h, hfuel => by
    have hitem : item.isPortable = true := (Bool.and_eq_true_iff.mp h).1
    rw [encodeItems] at hfuel ⊢
    apply readItems_last
    · exact readValue_encode layout item level fuel _ hitem
        (by omega) (layout.stops_bracket outer rest)
    · exact layout.skipSpace_closing outer rfl rest
  | item :: next :: items, level, fuel + 1, outer, rest, _, h, hfuel => by
    obtain ⟨hitem, hitems⟩ := Bool.and_eq_true_iff.mp h
    have hmore : next :: items ≠ [] := List.cons_ne_nil _ _
    have hopens : Opens (layout.encodeItems level (next :: items)) :=
      opens_encodeItems (Bool.and_eq_true_iff.mp hitems).1 items level
    rw [encodeItems_next hmore] at hfuel ⊢
    simp only [List.length_append, List.length_cons] at hfuel
    simp only [List.append_assoc, List.cons_append]
    apply readItems_next
    · exact readValue_encode layout item level fuel _ hitem (by omega) (stops_comma _)
    · rw [hopens.skipSpace_blank (layout.blank_between level)]
      exact readItems_encode layout (next :: items) level fuel outer rest hmore hitems (by omega)

theorem readMembers_encode (layout : Layout) :
    ∀ (members : Fields) (level fuel outer : Nat) (rest : List Char),
    members ≠ [] → Value.membersPortable members = true →
      (layout.encodeMembers level members).length + 1 ≤ fuel →
      readMembers fuel
        (layout.encodeMembers level members ++ (layout.closing outer ++ ('\x7d' :: rest))) =
        .ok (members, rest)
  | [], _, _, _, _, hmembers, _, _ => absurd rfl hmembers
  | _ :: _, _, 0, _, _, _, _, hfuel => absurd hfuel (Nat.not_succ_le_zero _)
  | [(key, value)], level, fuel + 1, outer, rest, _, h, hfuel => by
    have hvalue : value.isPortable = true := (Bool.and_eq_true_iff.mp h).1
    have hopens : Opens (layout.encode level value) := opens_encode hvalue level
    rw [encodeMembers] at hfuel ⊢
    simp only [List.length_append, List.length_cons] at hfuel
    simp only [List.append_assoc, List.cons_append]
    apply readMembers_last (hopens.append _)
    · exact readValue_encode layout value level fuel _ hvalue
        (by omega) (layout.stops_brace outer rest)
    · exact layout.skipSpace_closing outer rfl rest
  | (key, value) :: next :: members, level, fuel + 1, outer, rest, _, h, hfuel => by
    obtain ⟨hvalue, hmembers⟩ := Bool.and_eq_true_iff.mp h
    have hopens : Opens (layout.encode level value) := opens_encode hvalue level
    have hmore : next :: members ≠ [] := List.cons_ne_nil _ _
    rw [encodeMembers_next hmore] at hfuel ⊢
    simp only [List.length_append, List.length_cons] at hfuel
    simp only [List.append_assoc, List.cons_append]
    apply readMembers_next (hopens.append _)
    · exact readValue_encode layout value level fuel _ hvalue (by omega) (stops_comma _)
    · have hnext := layout.opens_encodeMembers next.1 next.2 members level
      rw [hnext.skipSpace_blank (layout.blank_between level)]
      exact readMembers_encode layout (next :: members) level fuel outer rest hmore
        hmembers (by omega)

end

theorem parse_encode (layout : Layout) {v : Value} (h : v.isPortable = true) :
    parse (String.ofList (layout.encode 0 v)) = .ok v := by
  have hopens : Opens (layout.encode 0 v) := opens_encode h 0
  have hvalue :=
    readValue_encode layout v 0 (2 * (layout.encode 0 v).length + 2) [] h (by omega) stops_nil
  rw [List.append_nil] at hvalue
  unfold parse readDocument
  rw [String.toList_ofList]
  split
  · next heq =>
    obtain ⟨c, hc, -, -, hne⟩ := hopens
    rw [heq] at hc
    exact absurd (Option.some.inj hc).symm hne
  · rw [hopens.skipSpace, hvalue]
    rfl

end Layout

/-- The document of a value over several lines is read as that value. -/
theorem parse_page {v : Value} (h : v.isPortable = true) : parse (page v) = .ok v := by
  rw [page, Layout.encodePage_eq]
  exact Layout.page.parse_encode h

theorem parse_line {v : Value} (h : v.isPortable = true) : parse (line v) = .ok v := by
  rw [line, Layout.encodeLine_eq v 0]
  exact Layout.line.parse_encode h

end Json

end MailTriage

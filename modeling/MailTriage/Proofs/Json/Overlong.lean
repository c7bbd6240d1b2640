import MailTriage.Proofs.Json.Grammar

/-!
# Numbers too long to be read

A whole number of too many digits ends the reading of a document wherever a value is due. Where
values are due is said by rules that follow the grammar: what stands before such a place begins a
document. What comes after it is not looked at, so that the text need not be a document.
-/

namespace MailTriage.Json

variable {text cs rest : List Char} {fuel count : Nat}

/-- What is due at a place of a text, when everything before it is in order. -/
inductive Due (text : List Char) : Kind → List Char → Prop
  | start {cs : List Char} : Blanks text cs → Due text .value cs
  | item {cs : List Char} : Due text .items cs → Due text .value cs
  | items {cs start : List Char} :
      Due text .value ('[' :: cs) → Blanks cs start → Due text .items start
  | moreItems {cs left next : List Char} {item : Value} :
      Due text .items cs → Begins cs .value item left →
      BeginsComma left next → Due text .items next
  | memberValue {cs start : List Char} {name : String} :
      Due text .members cs → BeginsName cs name start →
      Due text .value start
  | members {cs start : List Char} :
      Due text .value ('\x7b' :: cs) → Blanks cs start → Due text .members start
  | moreMembers {cs start left next : List Char} {name : String} {value : Value} :
      Due text .members cs →
      BeginsName cs name start → Begins start .value value left → BeginsComma left next →
        Due text .members next

/-- A text with a number of too many digits, `count` of them, where a value is due. -/
def Overlong (count : Nat) (text : List Char) : Prop :=
  ∃ cs numeral rest, Due text .value cs ∧ BeginsNumeral cs numeral rest ∧ numeral.IsOverlong ∧
    numeral.whole.length = count

/-! ## A failure has its number -/

/-- Each step that fails for a number of too many digits leads to where the number is due. -/
theorem overlong_of_read {kind : Kind} (hdue : Due text kind cs)
    (h : kind.read fuel cs = .error (.tooManyDigits count)) : Overlong count text := by
  -- on the fuel, with the place where the number is due moving on with each step
  induction fuel generalizing kind cs with
  | zero => cases (kind.read_zero cs).symm.trans h
  | succ fuel ih =>
    obtain ⟨result, hresult, hstep⟩ :
        ∃ result, result = .error (.tooManyDigits count) ∧ ReadsTo fuel kind cs result :=
      ⟨_, h, readsTo fuel kind cs⟩
    cases hstep with
    | malformed | text | emptyList | emptyObject | lastItem | lastMember => cases hresult
    | scalar =>
      rcases readScalar_cases cs with ⟨_, _, -, hread⟩ |
        ⟨numeral, rest, hnumeral, hlong, hread⟩ | hread
      · cases hresult.symm.trans hread
      · cases hresult.symm.trans hread
        exact ⟨cs, numeral, rest, hdue, hnumeral, hlong, rfl⟩
      · cases hresult.symm.trans hread
    | list hstart => exact ih (hdue.items hstart) (map_eq_error_iff.mp hresult)
    | object hstart => exact ih (hdue.members hstart) (map_eq_error_iff.mp hresult)
    | itemFails hitem =>
      cases hresult
      exact ih hdue.item hitem
    | nextItem hitem hcomma =>
      exact ih (hdue.moreItems (begins_of_read hitem) hcomma) (map_eq_error_iff.mp hresult)
    | valueFails hname hvalue =>
      cases hresult
      exact ih (hdue.memberValue hname) hvalue
    | nextMember hname hvalue hcomma =>
      exact ih (hdue.moreMembers hname (begins_of_read hvalue) hcomma) (map_eq_error_iff.mp hresult)

/-! ## The number makes it fail -/

/-- Where reading fails for a number of too many digits, something begins; a name, where members are
due. -/
theorem opens_of_tooManyDigits {kind : Kind}
    (h : kind.read fuel cs = .error (.tooManyDigits count)) :
    Opens cs ∧ (kind = .members → ∃ left, cs = '"' :: left) := by
  induction fuel generalizing kind cs with
  | zero => cases (kind.read_zero cs).symm.trans h
  | succ fuel ih =>
    obtain ⟨result, hresult, hstep⟩ :
        ∃ result, result = .error (.tooManyDigits count) ∧ ReadsTo fuel kind cs result :=
      ⟨_, h, readsTo fuel kind cs⟩
    cases hstep with
    | malformed | text | emptyList | emptyObject | lastItem | lastMember => cases hresult
    | scalar =>
      rcases readScalar_cases cs with ⟨_, _, -, hread⟩ | ⟨_, _, hnumeral, -, -⟩ | hread
      · cases hresult.symm.trans hread
      · exact ⟨hnumeral.opensScalar.opens, nofun⟩
      · cases hresult.symm.trans hread
    | list => exact ⟨⟨'[', rfl, rfl, by decide, by decide⟩, nofun⟩
    | object => exact ⟨⟨'\x7b', rfl, rfl, by decide, by decide⟩, nofun⟩
    | itemFails hitem =>
      cases hresult
      have hvalue : Kind.value.read fuel cs = .error (.tooManyDigits count) := hitem
      exact ⟨(ih hvalue).1, nofun⟩
    | @nextItem _ left _ item hitem =>
      have hvalue : Kind.value.read fuel cs = .ok (item, left) := hitem
      exact ⟨(begins_of_read hvalue).opens, nofun⟩
    | valueFails hname | nextMember hname =>
      obtain ⟨left, rfl⟩ := hname.exists_quote
      exact ⟨opens_quote left, fun _ => ⟨left, rfl⟩⟩

theorem Due.readDocument_eq {kind : Kind} (h : Due text kind cs)
    (hfail : ∀ fuel, kind.room cs ≤ fuel → kind.read fuel cs = .error (.tooManyDigits count)) :
    readDocument text = .error (.tooManyDigits count) := by
  -- from the place of the number outwards: what contains a part that fails so fails so itself
  induction h with
  | start hstart =>
    have hopens := (opens_of_tooManyDigits (hfail _ le_rfl)).1
    have hlength := hstart.length_le
    have hread := hfail (2 * text.length + 2) (by simp only [Kind.room]; omega)
    rw [Kind.read] at hread
    unfold readDocument
    split
    · exact absurd rfl (hopens.ne_mark hstart _)
    · rw [hstart.skipSpace_of_opens hopens, hread]
  | item _ ih =>
    refine ih fun fuel hfuel => ?_
    obtain ⟨fuel, rfl⟩ := Kind.exists_succ hfuel
    have hread := hfail fuel (Nat.le_of_succ_le_succ hfuel)
    simp only [Kind.read] at hread ⊢
    rw [readItems, hread]
  | items _ hstart ih =>
    have hopens := (opens_of_tooManyDigits (hfail _ le_rfl)).1
    refine ih fun fuel hfuel => ?_
    obtain ⟨fuel, rfl⟩ := Kind.exists_succ hfuel
    have hlength := hstart.length_le
    simp only [Kind.read, Kind.room, List.length_cons] at hfuel hfail ⊢
    rw [readValue_of_list hstart hopens, hfail fuel (by omega)]
    rfl
  | moreItems _ hitem hcomma ih =>
    have hopens := (opens_of_tooManyDigits (hfail _ le_rfl)).1
    refine ih fun fuel hfuel => ?_
    obtain ⟨fuel, rfl⟩ := Kind.exists_succ hfuel
    have hlength := lt_trans hcomma.length_lt hitem.length_lt
    have hvalue := read_of_begins hitem (Nat.le_of_succ_le_succ hfuel)
    simp only [Kind.read, Kind.room] at hfuel hfail hvalue ⊢
    rw [readItems_of_next hvalue hcomma hopens, hfail fuel (by omega)]
    rfl
  | memberValue _ hname ih =>
    have hopens := (opens_of_tooManyDigits (hfail _ le_rfl)).1
    refine ih fun fuel hfuel => ?_
    obtain ⟨fuel, rfl⟩ := Kind.exists_succ hfuel
    have hlength := hname.length_lt
    simp only [Kind.read, Kind.room] at hfuel hfail ⊢
    exact readMembers_of_name_error hname hopens (hfail fuel (by omega))
  | members _ hstart ih =>
    obtain ⟨left, rfl⟩ := (opens_of_tooManyDigits (hfail _ le_rfl)).2 rfl
    refine ih fun fuel hfuel => ?_
    obtain ⟨fuel, rfl⟩ := Kind.exists_succ hfuel
    have hlength := hstart.length_le
    simp only [Kind.read, Kind.room, List.length_cons] at hfuel hfail hlength ⊢
    rw [readValue_of_object hstart, hfail fuel (by omega)]
    rfl
  | moreMembers _ hname hvalue hcomma ih =>
    have hopens := (opens_of_tooManyDigits (hfail _ le_rfl)).1
    refine ih fun fuel hfuel => ?_
    obtain ⟨fuel, rfl⟩ := Kind.exists_succ hfuel
    have hlength := hname.length_lt
    have hlength' := lt_trans hcomma.length_lt hvalue.length_lt
    have hread :=
      read_of_begins hvalue
        (show Kind.value.room _ ≤ fuel by simp only [Kind.room] at hfuel ⊢; omega)
    simp only [Kind.read, Kind.room] at hfuel hfail hread ⊢
    rw [readMembers_of_next hname hvalue.opens hread hcomma hopens, hfail fuel (by omega)]
    rfl

theorem readDocument_eq_tooManyDigits_iff :
    readDocument text = .error (.tooManyDigits count) ↔ Overlong count text := by
  constructor
  · intro h
    unfold readDocument at h
    split at h
    · cases h
    · split at h
      · next hread =>
        have hread : Kind.value.read (2 * text.length + 2) (skipSpace text) = .error _ := hread
        rw [Except.error.inj h] at hread
        exact overlong_of_read (.start (blanks_skipSpace text)) hread
      · split at h <;> cases h
  · rintro ⟨cs, numeral, rest, hdue, hnumeral, hlong, rfl⟩
    refine hdue.readDocument_eq fun fuel hfuel => ?_
    obtain ⟨fuel, rfl⟩ := Kind.exists_succ hfuel
    rw [Kind.read, hnumeral.opensScalar.readValue_eq, readScalar_of_begins hnumeral, if_pos hlong]

/-- A text is refused for a number of too many digits when such a number stands where a value is
due. -/
theorem parse_eq_tooManyDigits_iff {text : String} :
    parse text = .error (.tooManyDigits count) ↔ Overlong count text.toList :=
  readDocument_eq_tooManyDigits_iff

end MailTriage.Json

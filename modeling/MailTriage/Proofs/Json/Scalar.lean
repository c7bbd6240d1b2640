import MailTriage.Proofs.Json.Number
import Mathlib.Data.List.TakeWhile

/-!
# Numbers and words in documents

A number is spelled with a sign, digits before the point and after it, and an exponent, of which
only the digits before the point have to be there; as much of the text as can be belongs to it. It
is read as a whole number when it has neither fraction nor exponent, unless its digits are too many.
Besides, there are words for the values that have no parts. Reading accepts these spellings and no
others.
-/

namespace MailTriage.Json

open Number

variable {cs rest : List Char}

/-! ## Digits -/

/-- Some digits, and all of those that are there. -/
structure Run (digits rest : List Char) : Prop where
  isDigit : ∀ c ∈ digits, c.isDigit = true
  nonempty : digits ≠ []
  ends : NoDigit rest

theorem noDigit_dropWhile (cs : List Char) : NoDigit (cs.dropWhile Char.isDigit) := by
  induction cs with
  | nil => simp [NoDigit]
  | cons c cs ih =>
    by_cases hc : c.isDigit = true
    · rwa [List.dropWhile_cons_of_pos hc]
    · rw [List.dropWhile_cons_of_neg hc]
      exact fun d hd => Option.some.inj hd ▸ Bool.not_eq_true _ ▸ hc

theorem run_takeWhile (h : cs.takeWhile Char.isDigit ≠ []) :
    Run (cs.takeWhile Char.isDigit) (cs.dropWhile Char.isDigit) where
  isDigit _ := List.mem_takeWhile_imp
  nonempty := h
  ends := noDigit_dropWhile cs

theorem run_cons_takeWhile {c : Char} (hc : c.isDigit = true) (cs : List Char) :
    Run (c :: cs.takeWhile Char.isDigit) (cs.dropWhile Char.isDigit) := by
  have hrun : Run ((c :: cs).takeWhile Char.isDigit) ((c :: cs).dropWhile Char.isDigit) :=
    run_takeWhile (by simp [hc])
  rwa [List.takeWhile_cons_of_pos hc, List.dropWhile_cons_of_pos hc] at hrun

/-- Digits before the point: a single zero, or all that are there when the first is none. -/
inductive BeginsWhole : List Char → List Char → List Char → Prop
  | zero {rest : List Char} : BeginsWhole ('0' :: rest) ['0'] rest
  | run {whole rest : List Char} :
      Run whole rest → whole.head? ≠ some '0' → BeginsWhole (whole ++ rest) whole rest

theorem beginsWhole_iff {whole : List Char} :
    BeginsWhole cs whole rest ↔ wholeDigits? cs = some (whole, rest) := by
  constructor
  · rintro (_ | ⟨hrun, hzero⟩)
    · rfl
    · exact wholeDigits?_append ⟨hrun.isDigit, hrun.nonempty, fun h => absurd h hzero⟩ hrun.ends
  · intro h
    unfold wholeDigits? at h
    split at h
    · obtain ⟨rfl, rfl⟩ := Prod.mk.inj (Option.some.inj h)
      exact .zero
    · next c left hzero =>
      split at h
      · next hdigit =>
        obtain ⟨rfl, rfl⟩ := Prod.mk.inj (Option.some.inj h)
        have hwhole :=
          BeginsWhole.run (run_cons_takeWhile hdigit left) fun h => hzero (Option.some.inj h)
        rwa [List.cons_append, List.takeWhile_append_dropWhile] at hwhole
      · exact nomatch h
    · exact nomatch h

theorem BeginsWhole.length_lt {whole : List Char} (h : BeginsWhole cs whole rest) :
    rest.length < cs.length := by
  cases h with
  | zero => exact Nat.lt_succ_self _
  | run hrun _ =>
    rw [List.length_append]
    exact Nat.lt_add_of_pos_left (List.length_pos_iff.mpr hrun.nonempty)

/-- A point and the digits after it, when there are any. -/
inductive BeginsFraction : List Char → List Char → List Char → Prop
  | some {digits rest : List Char} :
      Run digits rest → BeginsFraction ('.' :: (digits ++ rest)) digits rest
  | none {cs : List Char} :
      (∀ c left, cs = '.' :: c :: left → c.isDigit = false) → BeginsFraction cs [] cs

theorem beginsFraction_iff {fraction : List Char} :
    BeginsFraction cs fraction rest ↔ fractionDigits cs = (fraction, rest) := by
  constructor
  · rintro (hrun | hnone)
    · exact fractionDigits_append hrun.isDigit hrun.nonempty hrun.ends
    · unfold fractionDigits
      split
      · next c left => rw [if_neg (by simp [hnone c left rfl])]
      · rfl
  · intro h
    unfold fractionDigits at h
    split at h
    · next c left =>
      split at h
      · next hdigit =>
        obtain ⟨rfl, rfl⟩ := Prod.mk.inj h
        have hfraction := BeginsFraction.some (run_cons_takeWhile hdigit left)
        rwa [List.cons_append, List.takeWhile_append_dropWhile] at hfraction
      · next hdigit =>
        obtain ⟨rfl, rfl⟩ := Prod.mk.inj h
        refine .none fun d left' heq => ?_
        obtain ⟨rfl, -⟩ := List.cons.inj (List.cons.inj heq).2
        exact Bool.not_eq_true _ ▸ hdigit
    · next hpoint =>
      obtain ⟨rfl, rfl⟩ := Prod.mk.inj h
      exact .none fun c left heq => absurd heq (hpoint c left)

theorem BeginsFraction.length_le {fraction : List Char} (h : BeginsFraction cs fraction rest) :
    rest.length ≤ cs.length := by
  cases h with
  | some => simp; omega
  | none => exact le_rfl

/-- The sign of an exponent, which may be left out. -/
inductive IsSign : List Char → Bool → Prop
  | none : IsSign [] false
  | plus : IsSign ['+'] false
  | minus : IsSign ['-'] true

/-- A mark with a signed exponent, when there is a complete one. -/
inductive BeginsExponent : List Char → Option Int → List Char → Prop
  | some {mark : Char} {sign digits rest : List Char} {negative : Bool} : mark = 'e' ∨ mark = 'E' →
      IsSign sign negative → Run digits rest →
      BeginsExponent (mark :: (sign ++ (digits ++ rest)))
        (some (withSign negative (ofDigits digits))) rest
  | none {cs : List Char} :
      (∀ mark sign negative c left, mark = 'e' ∨ mark = 'E' → IsSign sign negative →
      cs = mark :: (sign ++ c :: left) → c.isDigit = false) → BeginsExponent cs none cs

theorem signed_append {sign : List Char} {negative : Bool} (h : IsSign sign negative)
    (hdigit : ∃ c ∈ cs.head?, c.isDigit = true) : signed (sign ++ cs) = (negative, cs) := by
  cases h with
  | none =>
    obtain ⟨c, hc, hdigit⟩ := hdigit
    obtain ⟨left, rfl⟩ := List.head?_eq_some_iff.mp hc
    unfold signed
    split
    · next heq => exact absurd ((List.cons.inj heq).1 ▸ hdigit) (by decide)
    · next heq => exact absurd ((List.cons.inj heq).1 ▸ hdigit) (by decide)
    · rfl
  | plus | minus => rfl

theorem exists_isSign (cs : List Char) :
    ∃ sign, IsSign sign (signed cs).1 ∧ cs = sign ++ (signed cs).2 := by
  unfold signed
  split
  · exact ⟨_, .minus, rfl⟩
  · exact ⟨_, .plus, rfl⟩
  · exact ⟨_, .none, rfl⟩

theorem takeWhile_isDigit_eq_nil : cs.takeWhile Char.isDigit = [] ↔ NoDigit cs := by
  cases cs with
  | nil => simp [NoDigit]
  | cons c cs => by_cases hc : c.isDigit = true <;> simp [NoDigit, hc]

theorem Run.head {digits : List Char} (h : Run digits rest) :
    ∃ c ∈ (digits ++ rest).head?, c.isDigit = true := by
  obtain ⟨c, digits, rfl⟩ := List.exists_cons_of_ne_nil h.nonempty
  exact ⟨c, rfl, h.isDigit c List.mem_cons_self⟩

theorem beginsExponent_iff {exponent : Option Int} :
    BeginsExponent cs exponent rest ↔ exponentPart cs = (exponent, rest) := by
  constructor
  · rintro (⟨hmark, hsign, hrun⟩ | hnone)
    · simp [exponentPart, hmark, signed_append hsign hrun.head,
        takeWhile_isDigit_append hrun.isDigit hrun.ends,
        dropWhile_isDigit_append hrun.isDigit hrun.ends, hrun.nonempty]
    · cases cs with
      | nil => rfl
      | cons mark left =>
        rw [exponentPart]
        split
        · next hmark =>
          obtain ⟨sign, hsign, hleft⟩ := exists_isSign left
          have hdigits : NoDigit (signed left).2 := by
            intro c hc
            obtain ⟨more, hmore⟩ := List.head?_eq_some_iff.mp hc
            exact hnone mark sign _ c more hmark hsign (by rw [← hmore, ← hleft])
          simp [takeWhile_isDigit_eq_nil.mpr hdigits]
        · rfl
  · intro h
    cases cs with
    | nil =>
      obtain ⟨rfl, rfl⟩ := Prod.mk.inj h
      exact .none fun _ _ _ _ _ _ _ heq => absurd heq.symm (List.cons_ne_nil _ _)
    | cons mark left =>
      rw [exponentPart] at h
      split at h
      · next hmark =>
        obtain ⟨sign, hsign, hleft⟩ := exists_isSign left
        dsimp only at h
        split at h
        · next hnone =>
          obtain ⟨rfl, rfl⟩ := Prod.mk.inj h
          refine .none fun mark' sign' negative c more hmark' hsign' heq => ?_
          by_contra hdigit
          have hsigned : signed (sign' ++ c :: more) = (negative, c :: more) :=
            signed_append hsign' ⟨c, rfl, by simpa using hdigit⟩
          rw [(List.cons.inj heq).2, hsigned] at hnone
          simp [hdigit] at hnone
        · next hsome =>
          obtain ⟨rfl, rfl⟩ := Prod.mk.inj h
          have hexponent := BeginsExponent.some hmark hsign (run_takeWhile hsome)
          rwa [List.takeWhile_append_dropWhile, ← hleft] at hexponent
      · next hmark =>
        obtain ⟨rfl, rfl⟩ := Prod.mk.inj h
        exact .none fun mark' _ _ _ _ hmark' _ heq => absurd ((List.cons.inj heq).1 ▸ hmark') hmark

theorem BeginsExponent.length_le {exponent : Option Int} (h : BeginsExponent cs exponent rest) :
    rest.length ≤ cs.length := by
  cases h with
  | some => simp; omega
  | none => exact le_rfl

/-! ## Numbers -/

/-- The parts of a number. -/
structure Numeral where
  negative : Bool
  whole : List Char
  fraction : List Char
  exponent : Option Int

namespace Numeral

/-- Whether a number has neither fraction nor exponent. -/
def IsWhole (numeral : Numeral) : Prop := numeral.fraction = [] ∧ numeral.exponent = none

instance (numeral : Numeral) : Decidable numeral.IsWhole := inferInstanceAs (Decidable (_ ∧ _))

/-- Whether a number is whole and has too many digits to be read. -/
def IsOverlong (numeral : Numeral) : Prop := numeral.IsWhole ∧ digitLimit < numeral.whole.length

instance (numeral : Numeral) : Decidable numeral.IsOverlong := inferInstanceAs (Decidable (_ ∧ _))

def value (numeral : Numeral) : Value :=
  if numeral.IsWhole then .int (withSign numeral.negative (ofDigits numeral.whole))
  else
    .float (Binary64.ofDecimal numeral.negative (ofDigits (numeral.whole ++ numeral.fraction))
      (numeral.exponent.getD 0 - (numeral.fraction.length : Int)))

end Numeral

/-- A number after its sign. -/
inductive BeginsUnsigned : List Char → Numeral → List Char → Prop
  | mk {cs afterWhole afterFraction rest whole fraction : List Char} {exponent : Option Int}
    (negative : Bool) :
      BeginsWhole cs whole afterWhole → BeginsFraction afterWhole fraction afterFraction →
      BeginsExponent afterFraction exponent rest →
        BeginsUnsigned cs ⟨negative, whole, fraction, exponent⟩ rest

/-- A number with its sign, if it has one. -/
inductive BeginsNumeral : List Char → Numeral → List Char → Prop
  | plain {cs rest : List Char} {numeral : Numeral} :
      numeral.negative = false → BeginsUnsigned cs numeral rest →
      BeginsNumeral cs numeral rest
  | minus {cs rest : List Char} {numeral : Numeral} :
      numeral.negative = true → BeginsUnsigned cs numeral rest →
      BeginsNumeral ('-' :: cs) numeral rest

theorem readNumber_of_begins {numeral : Numeral} (h : BeginsUnsigned cs numeral rest)
    (start : Nat) :
    readNumber numeral.negative start cs =
      if numeral.IsOverlong then .error (.tooManyDigits numeral.whole.length)
        else .ok (numeral.value, rest) := by
  obtain ⟨_, hwhole, hfraction, hexponent⟩ := h
  rw [beginsWhole_iff] at hwhole
  rw [beginsFraction_iff] at hfraction
  rw [beginsExponent_iff] at hexponent
  simp only [readNumber, hwhole, hfraction, hexponent, Numeral.IsOverlong, Numeral.IsWhole,
    Numeral.value]
  split
  · next hiswhole => simp [hiswhole]
  · next hiswhole => simp [hiswhole]

theorem readNumber_cases (negative : Bool) (start : Nat) (cs : List Char) :
    readNumber negative start cs = .error (.malformed .expectingValue start) ∨
      ∃ numeral rest, numeral.negative = negative ∧ BeginsUnsigned cs numeral rest := by
  cases hwhole : wholeDigits? cs with
  | none =>
    left
    rw [readNumber, hwhole]
  | some parts =>
    right
    exact ⟨⟨negative, _, _, _⟩, _, rfl,
      .mk negative (beginsWhole_iff.mpr hwhole) (beginsFraction_iff.mpr rfl)
      (beginsExponent_iff.mpr rfl)⟩

theorem BeginsNumeral.length_lt {numeral : Numeral} (h : BeginsNumeral cs numeral rest) :
    rest.length < cs.length := by
  have hunsigned {cs : List Char} (h : BeginsUnsigned cs numeral rest) :
      rest.length < cs.length := by
    obtain ⟨_, hwhole, hfraction, hexponent⟩ := h
    exact lt_of_le_of_lt (hexponent.length_le.trans hfraction.length_le) hwhole.length_lt
  cases h with
  | plain _ h => exact hunsigned h
  | minus _ h => exact Nat.lt_succ_of_lt (hunsigned h)

theorem BeginsUnsigned.head {numeral : Numeral} (h : BeginsUnsigned cs numeral rest) :
    ∃ c ∈ cs.head?, c.isDigit = true := by
  obtain ⟨_, hwhole, -, -⟩ := h
  cases hwhole with
  | zero => exact ⟨'0', rfl, rfl⟩
  | run hrun _ => exact hrun.head

/-! ## Words -/

def words : List (String × Value) :=
  [("null", .null), ("true", .bool true), ("false", .bool false), ("NaN", .float .nan),
   ("Infinity", .float (Binary64.infinity false)), ("-Infinity", .float (Binary64.infinity true))]

/-- A value that has no parts and is no text. -/
inductive BeginsScalar : List Char → Value → List Char → Prop
  | word {word : String} {value : Value} (rest : List Char) : (word, value) ∈ words →
      BeginsScalar (word.toList ++ rest) value rest
  | number {cs rest : List Char} {numeral : Numeral} :
      BeginsNumeral cs numeral rest → ¬numeral.IsOverlong →
      BeginsScalar cs numeral.value rest

theorem readScalar_of_begins {numeral : Numeral} (h : BeginsNumeral cs numeral rest) :
    readScalar cs =
      if numeral.IsOverlong then .error (.tooManyDigits numeral.whole.length)
        else .ok (numeral.value, rest) := by
  cases h with
  | plain hsign hunsigned =>
    rw [readScalar_of_digit hunsigned.head, ← hsign]
    exact readNumber_of_begins hunsigned _
  | minus hsign hunsigned =>
    rw [readScalar_minus hunsigned.head, ← hsign]
    exact readNumber_of_begins hunsigned _

theorem readScalar_word {word : String} {value : Value} (h : (word, value) ∈ words)
    (rest : List Char) :
    readScalar (word.toList ++ rest) = .ok (value, rest) := by
  simp only [words, List.mem_cons, Prod.mk.injEq, List.not_mem_nil, or_false] at h
  rcases h with ⟨rfl, rfl⟩ | ⟨rfl, rfl⟩ | ⟨rfl, rfl⟩ | ⟨rfl, rfl⟩ | ⟨rfl, rfl⟩ | ⟨rfl, rfl⟩ <;> rfl

theorem eq_append_of_dropWord? {word : List Char} (h : dropWord? word cs = some rest) :
    cs = word ++ rest := by
  unfold dropWord? at h
  split at h
  · next hword =>
    obtain ⟨left, rfl⟩ := List.isPrefixOf_iff_prefix.mp hword
    rw [List.drop_left] at h
    rw [Option.some.inj h]
  · exact nomatch h

theorem readScalar_eq_error
    (hword : ∀ word value rest, (word, value) ∈ words → cs ≠ word.toList ++ rest)
    (hnumber : ∀ numeral rest, ¬BeginsNumeral cs numeral rest) :
    readScalar cs = .error (.malformed .expectingValue cs.length) := by
  have hdrop (word : String) (value : Value) (hmem : (word, value) ∈ words) :
      dropWord? word.toList cs = none := by
    cases hdropped : dropWord? word.toList cs with
    | none => rfl
    | some rest => exact absurd (eq_append_of_dropWord? hdropped) (hword word value rest hmem)
  unfold readScalar
  split
  · next left =>
    split
    · next rest hinfinity =>
      have hminus : '-' :: left = "-Infinity".toList ++ rest :=
        congrArg ('-' :: ·) (eq_append_of_dropWord? hinfinity)
      exact absurd hminus (hword _ (.float (Binary64.infinity true)) rest (by simp [words]))
    · rcases readNumber_cases true ('-' :: left).length left with herror |
        ⟨numeral, rest, hsign, hunsigned⟩
      · exact herror
      · exact absurd (.minus hsign hunsigned) (hnumber numeral rest)
  · rw [hdrop "null" .null (by simp [words]), hdrop "true" (.bool true) (by simp [words]),
      hdrop "false" (.bool false) (by simp [words]), hdrop "NaN" (.float .nan) (by simp [words]),
      hdrop "Infinity" (.float (Binary64.infinity false)) (by simp [words])]
    dsimp only
    rcases readNumber_cases false cs.length cs with herror | ⟨numeral, rest, hsign, hunsigned⟩
    · exact herror
    · exact absurd (.plain hsign hunsigned) (hnumber numeral rest)

/-- A text begins with a value without parts, with a number that is too long to be read, or with
neither. -/
theorem readScalar_cases (cs : List Char) :
    (∃ value rest, BeginsScalar cs value rest ∧ readScalar cs = .ok (value, rest)) ∨
      (∃ numeral rest, BeginsNumeral cs numeral rest ∧ numeral.IsOverlong ∧
        readScalar cs = .error (.tooManyDigits numeral.whole.length)) ∨
      readScalar cs = .error (.malformed .expectingValue cs.length) := by
  by_cases hword : ∃ word value rest, (word, value) ∈ words ∧ cs = word.toList ++ rest
  · obtain ⟨word, value, rest, hmem, rfl⟩ := hword
    exact .inl ⟨value, rest, .word rest hmem, readScalar_word hmem rest⟩
  by_cases hnumber : ∃ numeral rest, BeginsNumeral cs numeral rest
  · obtain ⟨numeral, rest, hnumeral⟩ := hnumber
    have hread := readScalar_of_begins hnumeral
    by_cases hlong : numeral.IsOverlong
    · exact .inr (.inl ⟨numeral, rest, hnumeral, hlong, by rw [hread, if_pos hlong]⟩)
    · exact .inl ⟨_, rest, .number hnumeral hlong, by rw [hread, if_neg hlong]⟩
  · refine .inr
      (.inr (readScalar_eq_error (fun word value rest hmem heq => hword ?_) fun numeral rest h =>
        hnumber ?_))
    · exact ⟨word, value, rest, hmem, heq⟩
    · exact ⟨numeral, rest, h⟩

theorem readScalar_eq_ok_iff {value : Value} :
    readScalar cs = .ok (value, rest) ↔ BeginsScalar cs value rest := by
  constructor
  · intro h
    rcases readScalar_cases cs with ⟨_, _, hbegins, hread⟩ | ⟨_, _, -, -, hread⟩ | hread
    · obtain ⟨rfl, rfl⟩ := Prod.mk.inj (Except.ok.inj (h.symm.trans hread))
      exact hbegins
    · exact nomatch h.symm.trans hread
    · exact nomatch h.symm.trans hread
  · rintro (⟨_, hmem⟩ | ⟨hnumeral, hshort⟩)
    · exact readScalar_word hmem rest
    · rw [readScalar_of_begins hnumeral, if_neg hshort]

end MailTriage.Json

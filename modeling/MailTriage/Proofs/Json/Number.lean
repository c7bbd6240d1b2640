import MailTriage.Json.Printer
import MailTriage.Json.Reader
import MailTriage.Proofs.Number.Shortest

/-!
# Numbers in documents

A number that was written into a document is read back: a whole number digit by digit, a floating
one by its shortest decimal, in each of the layouts that it may have. What follows the number must
not go on with it.
-/

namespace MailTriage

namespace Number

/-! ## Digits -/

theorem ofDigits_eq (digits : List Char) : ofDigits digits = Nat.ofDigitChars 10 digits 0 := rfl

theorem ofDigits_toDigits (n : Nat) : ofDigits (Nat.toDigits 10 n) = n := by
  rw [ofDigits_eq, Nat.ofDigitChars_ten_toDigits]

theorem ofDigits_append_zeros (digits : List Char) (k : Nat) :
    ofDigits (digits ++ List.replicate k '0') = 10 ^ k * ofDigits digits := by
  rw [ofDigits_eq, Nat.ofDigitChars_append, Nat.ofDigitChars_replicate_zero, ofDigits_eq]

theorem ofDigits_zeros_append (k : Nat) (digits : List Char) :
    ofDigits (List.replicate k '0' ++ digits) = ofDigits digits := by
  rw [ofDigits_eq, Nat.ofDigitChars_append, Nat.ofDigitChars_replicate_zero,
    Nat.mul_zero, ofDigits_eq]

theorem isDigit_of_mem_toDigits {n : Nat} {c : Char} (h : c ∈ Nat.toDigits 10 n) :
    c.isDigit = true :=
  Nat.isDigit_of_mem_toDigits (by decide) le_rfl h

theorem digitChar_ne_zero {d : Nat} (hpos : 0 < d) (hlt : d < 10) : d.digitChar ≠ '0' :=
  (by decide : ∀ d < 10, 0 < d → d.digitChar ≠ '0') d hlt hpos

/-- The text of a positive number does not begin with a zero. -/
theorem head?_toDigits_ne {n : Nat} (h : 0 < n) : (Nat.toDigits 10 n).head? ≠ some '0' := by
  induction n using Nat.strongRecOn with
  | ind n ih =>
    rw [Nat.toDigits_eq_if (by decide)]
    split
    · next hlt => simpa using digitChar_ne_zero h hlt
    · have hrest := ih (n / 10) (by omega) (by omega)
      rwa [List.head?_append_of_ne_nil _ Nat.toDigits_ne_nil]

end Number

namespace Json

open Number

/-- A list whose first character, if any, is no digit. -/
def NoDigit (rest : List Char) : Prop := ∀ c ∈ rest.head?, c.isDigit = false

theorem takeWhile_isDigit_append {digits rest : List Char}
    (hdigits : ∀ c ∈ digits, c.isDigit = true) (hrest : NoDigit rest) :
    (digits ++ rest).takeWhile Char.isDigit = digits := by
  rw [List.takeWhile_append_of_pos hdigits]
  cases rest with
  | nil => exact List.append_nil _
  | cons c rest =>
    have hc : c.isDigit = false := hrest c rfl
    rw [List.takeWhile_cons_of_neg (by simp [hc]), List.append_nil]

theorem dropWhile_isDigit_append {digits rest : List Char}
    (hdigits : ∀ c ∈ digits, c.isDigit = true) (hrest : NoDigit rest) :
    (digits ++ rest).dropWhile Char.isDigit = rest := by
  rw [List.dropWhile_append_of_pos hdigits]
  cases rest with
  | nil => rfl
  | cons c rest =>
    have hc : c.isDigit = false := hrest c rfl
    exact List.dropWhile_cons_of_neg (by simp [hc])

/-- Digits of a whole number, as they may stand in a document. -/
structure Whole (digits : List Char) : Prop where
  isDigit : ∀ c ∈ digits, c.isDigit = true
  nonempty : digits ≠ []
  plain : digits.head? = some '0' → digits = ['0']

theorem whole_toDigits (n : Nat) : Whole (Nat.toDigits 10 n) where
  isDigit _ := isDigit_of_mem_toDigits
  nonempty := Nat.toDigits_ne_nil
  plain hzero := by
    rcases Nat.eq_zero_or_pos n with rfl | hpos
    · rfl
    · exact absurd hzero (head?_toDigits_ne hpos)

theorem wholeDigits?_append {whole rest : List Char} (h : Whole whole) (hrest : NoDigit rest) :
    wholeDigits? (whole ++ rest) = some (whole, rest) := by
  cases whole with
  | nil => exact absurd rfl h.nonempty
  | cons c digits =>
    by_cases hzero : c = '0'
    · subst hzero
      obtain rfl : digits = [] := by simpa using h.plain rfl
      rfl
    · have hc : c.isDigit = true := h.isDigit c List.mem_cons_self
      have hdigits : ∀ d ∈ digits, d.isDigit = true :=
        fun d hd => h.isDigit d (List.mem_cons_of_mem c hd)
      rw [List.cons_append, wholeDigits?, if_pos hc, takeWhile_isDigit_append hdigits hrest,
        dropWhile_isDigit_append hdigits hrest]
      exact fun heq => hzero heq

theorem fractionDigits_append {fraction rest : List Char}
    (hfraction : ∀ c ∈ fraction, c.isDigit = true) (hnonempty : fraction ≠ [])
    (hrest : NoDigit rest) :
    fractionDigits ('.' :: (fraction ++ rest)) = (fraction, rest) := by
  cases fraction with
  | nil => exact absurd rfl hnonempty
  | cons c digits =>
    have hc : c.isDigit = true := hfraction c List.mem_cons_self
    have hdigits : ∀ d ∈ digits, d.isDigit = true :=
      fun d hd => hfraction d (List.mem_cons_of_mem c hd)
    rw [List.cons_append, fractionDigits, if_pos hc, takeWhile_isDigit_append hdigits hrest,
      dropWhile_isDigit_append hdigits hrest]

theorem fractionDigits_of_ne {rest : List Char} (hrest : rest.head? ≠ some '.') :
    fractionDigits rest = ([], rest) := by
  unfold fractionDigits
  split
  · exact absurd rfl hrest
  · rfl

theorem exponentPart_of_ne {rest : List Char} (he : rest.head? ≠ some 'e')
    (hE : rest.head? ≠ some 'E') :
    exponentPart rest = (none, rest) := by
  cases rest with
  | nil => rfl
  | cons c rest =>
    have hc : ¬(c = 'e' ∨ c = 'E') := by
      rintro (rfl | rfl)
      · exact he rfl
      · exact hE rfl
    exact if_neg hc

/-- A text after a number that does not go on with it. -/
structure Stops (rest : List Char) : Prop where
  digit : NoDigit rest
  point : rest.head? ≠ some '.'
  lower : rest.head? ≠ some 'e'
  upper : rest.head? ≠ some 'E'

theorem exponentPart_append {digits rest : List Char} (hdigits : ∀ c ∈ digits, c.isDigit = true)
    (hnonempty : digits ≠ []) (hrest : NoDigit rest) (negative : Bool) :
    exponentPart ('e' :: (if negative then '-' else '+') :: (digits ++ rest)) =
      (some (withSign negative (ofDigits digits)), rest) := by
  cases negative <;>
    simp [exponentPart, signed, takeWhile_isDigit_append hdigits hrest,
      dropWhile_isDigit_append hdigits hrest, hnonempty]

/-! ## Whole numbers -/

theorem noDigit_point (rest : List Char) : NoDigit ('.' :: rest) := by
  rintro c ⟨⟩
  rfl

theorem noDigit_mark (rest : List Char) : NoDigit ('e' :: rest) := by
  rintro c ⟨⟩
  rfl

theorem readNumber_toDigits {n : Nat} {rest : List Char}
    (hlimit : (Nat.toDigits 10 n).length ≤ digitLimit) (hrest : Stops rest) (negative : Bool)
    (start : Nat) :
    readNumber negative start (Nat.toDigits 10 n ++ rest) =
      .ok (.int (withSign negative n), rest) := by
  simp [readNumber, wholeDigits?_append (whole_toDigits n) hrest.digit,
    fractionDigits_of_ne hrest.point,
    exponentPart_of_ne hrest.lower hrest.upper, hlimit, ofDigits_toDigits]

/-! ## Floating numbers -/

theorem readNumber_fraction {whole fraction rest : List Char} (hwhole : Whole whole)
    (hfraction : ∀ c ∈ fraction, c.isDigit = true) (hnonempty : fraction ≠ []) (hrest : Stops rest)
    (negative : Bool) (start : Nat) :
    readNumber negative start (whole ++ '.' :: (fraction ++ rest)) =
      .ok (.float (Binary64.ofDecimal negative (ofDigits (whole ++ fraction)) (-fraction.length)),
        rest) := by
  simp [readNumber, wholeDigits?_append hwhole (noDigit_point _),
    fractionDigits_append hfraction hnonempty hrest.digit,
      exponentPart_of_ne hrest.lower hrest.upper, hnonempty]

theorem fractionDigits_mark (rest : List Char) : fractionDigits ('e' :: rest) = ([], 'e' :: rest) :=
  fractionDigits_of_ne (by simp)

theorem readNumber_exponent {whole digits rest : List Char} (hwhole : Whole whole)
    (hdigits : ∀ c ∈ digits, c.isDigit = true) (hnonempty : digits ≠ []) (hrest : Stops rest)
    (negative down : Bool) (start : Nat) :
    readNumber negative start (whole ++ 'e' :: (if down then '-' else '+') :: (digits ++ rest)) =
      .ok (.float (Binary64.ofDecimal negative (ofDigits whole) (withSign down (ofDigits digits))),
        rest) := by
  simp [readNumber, wholeDigits?_append hwhole (noDigit_mark _), fractionDigits_mark,
    exponentPart_append hdigits hnonempty hrest.digit]

theorem readNumber_fraction_exponent {whole fraction digits rest : List Char} (hwhole : Whole whole)
    (hfraction : ∀ c ∈ fraction, c.isDigit = true) (hsome : fraction ≠ [])
    (hdigits : ∀ c ∈ digits, c.isDigit = true) (hnonempty : digits ≠ []) (hrest : Stops rest)
    (negative down : Bool) (start : Nat) :
    readNumber negative start
        (whole ++ '.' :: (fraction ++ 'e' :: (if down then '-' else '+') :: (digits ++ rest))) =
      .ok (.float (Binary64.ofDecimal negative (ofDigits (whole ++ fraction))
        (withSign down (ofDigits digits) - fraction.length)), rest) := by
  simp [readNumber, wholeDigits?_append hwhole (noDigit_point _),
    fractionDigits_append hfraction hsome (noDigit_mark _),
      exponentPart_append hdigits hnonempty hrest.digit]

/-! ## Layouts of decimals -/

/-- A text that begins with a digit and is read as a given decimal. -/
structure Spells (text : List Char) (d : Nat × Int) : Prop where
  head : ∃ c ∈ text.head?, c.isDigit = true
  reads : ∀ negative start rest, Stops rest → ∃ digits place,
    readNumber negative start (text ++ rest) =
      .ok (.float (Binary64.ofDecimal negative digits place), rest) ∧
      Binary64.decimal (digits, place) = Binary64.decimal d

theorem Whole.head {whole : List Char} (h : Whole whole) (more : List Char) :
    ∃ c ∈ (whole ++ more).head?, c.isDigit = true := by
  cases whole with
  | nil => exact absurd rfl h.nonempty
  | cons c digits => exact ⟨c, rfl, h.isDigit c List.mem_cons_self⟩

theorem isDigit_of_mem_replicate {k : Nat} {c : Char} (h : c ∈ List.replicate k '0') :
    c.isDigit = true := by
  rw [List.eq_of_mem_replicate h]
  rfl

theorem withSign_natAbs (n : Int) : withSign (decide (n < 0)) n.natAbs = n := by
  unfold withSign
  split
  · next h =>
    have := of_decide_eq_true h
    omega
  · next h =>
    have := of_decide_eq_false (Bool.not_eq_true _ ▸ h)
    omega

theorem whole_singleton {c : Char} (h : c.isDigit = true) : Whole [c] where
  isDigit d hd := List.mem_singleton.mp hd ▸ h
  nonempty := List.cons_ne_nil c []
  plain hzero := by rw [Option.some.inj hzero]

/-- A zero before the point, and zeros before the digits after it. -/
theorem spells_below (digits k : Nat) :
    Spells ('0' :: '.' :: (List.replicate k '0' ++ Nat.toDigits 10 digits))
      (digits, -(k + (Nat.toDigits 10 digits).length : Nat)) where
  head := ⟨'0', rfl, rfl⟩
  reads negative start rest hrest := by
    have hwhole : Whole ['0'] := ⟨by simp, by simp, fun _ => rfl⟩
    have hfraction :
        ∀ c ∈ List.replicate k '0' ++ Nat.toDigits 10 digits, c.isDigit = true := fun c hc =>
      (List.mem_append.mp hc).elim isDigit_of_mem_replicate isDigit_of_mem_toDigits
    have hread := readNumber_fraction hwhole hfraction (by simp) hrest negative start
    refine ⟨_, _, hread, ?_⟩
    have hvalue :
        ofDigits (['0'] ++ (List.replicate k '0' ++ Nat.toDigits 10 digits)) = digits := by
      rw [← List.append_assoc, ← List.replicate_one, List.replicate_append_replicate,
        ofDigits_zeros_append, ofDigits_toDigits]
    rw [hvalue, List.length_append, List.length_replicate]

theorem whole_toDigits_append {digits : Nat} (hdigits : 0 < digits) (more : List Char)
    (hmore : ∀ c ∈ more, c.isDigit = true) : Whole (Nat.toDigits 10 digits ++ more) where
  isDigit c hc := (List.mem_append.mp hc).elim isDigit_of_mem_toDigits (hmore c)
  nonempty := by simp
  plain hzero := by
    rw [List.head?_append_of_ne_nil _ Nat.toDigits_ne_nil] at hzero
    exact absurd hzero (head?_toDigits_ne hdigits)

/-- Digits, zeros for the places below, and a point with a zero. -/
theorem spells_whole {digits : Nat} (hdigits : 0 < digits) (k : Nat) :
    Spells (Nat.toDigits 10 digits ++ List.replicate k '0' ++ ['.', '0']) (digits, k) where
  head := (whole_toDigits_append hdigits _ fun _ => isDigit_of_mem_replicate).head _
  reads negative start rest hrest := by
    have hwhole :=
      whole_toDigits_append hdigits (List.replicate k '0') fun _ => isDigit_of_mem_replicate
    have hzero : ∀ c ∈ ['0'], c.isDigit = true := List.forall_mem_singleton.mpr rfl
    have hread := readNumber_fraction hwhole hzero (List.cons_ne_nil _ _) hrest negative start
    refine ⟨_, _, (congrArg (readNumber negative start) (List.append_assoc ..)).trans hread, ?_⟩
    have hzeros : ['0'] = List.replicate 1 '0' := rfl
    rw [hzeros, ofDigits_append_zeros, ofDigits_append_zeros, ofDigits_toDigits, Binary64.decimal,
      Binary64.decimal]
    simp
    field_simp

theorem spells_point {digits k : Nat} (hdigits : 0 < digits) (hpos : 0 < k)
    (hlt : k < (Nat.toDigits 10 digits).length) :
    Spells ((Nat.toDigits 10 digits).take k ++ '.' :: (Nat.toDigits 10 digits).drop k)
      (digits, -((Nat.toDigits 10 digits).length - k : Nat)) := by
  have hmem {c : Char}
      (h : c ∈ (Nat.toDigits 10 digits).take k ∨ c ∈ (Nat.toDigits 10 digits).drop k) :
      c.isDigit = true :=
    isDigit_of_mem_toDigits (h.elim List.mem_of_mem_take List.mem_of_mem_drop)
  have hwhole : Whole ((Nat.toDigits 10 digits).take k) := by
    refine ⟨fun c hc => hmem (.inl hc), fun hnil => ?_, fun hzero => ?_⟩
    · rw [List.take_eq_nil_iff] at hnil
      exact hnil.elim (fun h => by omega) Nat.toDigits_ne_nil
    · rw [List.head?_take, if_neg (by omega)] at hzero
      exact absurd hzero (head?_toDigits_ne hdigits)
  have hfraction : (Nat.toDigits 10 digits).drop k ≠ [] := by
    rw [ne_eq, List.drop_eq_nil_iff]
    omega
  refine ⟨hwhole.head _, fun negative start rest hrest => ?_⟩
  have hread :=
    readNumber_fraction hwhole (fun c hc => hmem (.inr hc)) hfraction hrest negative start
  refine ⟨_, _, (congrArg (readNumber negative start) (by simp)).trans hread, ?_⟩
  rw [List.take_append_drop, ofDigits_toDigits, List.length_drop]

theorem spells_exponent (digits : Nat) (layout : DecimalLayout) (exponent : Int) :
    Spells (DecimalLayout.pointed (Nat.toDigits 10 digits) ++ layout.exponentText exponent)
      (digits, exponent - ((Nat.toDigits 10 digits).length - 1 : Nat)) := by
  have hdigits := whole_toDigits digits
  have hvalue := ofDigits_toDigits digits
  generalize Nat.toDigits 10 digits = text at *
  let run := List.replicate (layout.exponentWidth - (Nat.toDigits 10 exponent.natAbs).length) '0' ++
    Nat.toDigits 10 exponent.natAbs
  have hrun : ∀ c ∈ run, c.isDigit = true := fun c hc =>
    (List.mem_append.mp hc).elim isDigit_of_mem_replicate isDigit_of_mem_toDigits
  have hnonempty : run ≠ [] := by simp [run]
  have hexponent : withSign (decide (exponent < 0)) (ofDigits run) = exponent := by
    rw [ofDigits_zeros_append, ofDigits_toDigits, withSign_natAbs]
  have hmark (rest : List Char) : layout.exponentText exponent ++ rest =
      'e' :: (if decide (exponent < 0) then '-' else '+') :: (run ++ rest) := by
    simp [DecimalLayout.exponentText, run]
  match text with
  | [] => exact absurd rfl hdigits.nonempty
  | [c] =>
    refine ⟨hdigits.head _, fun negative start rest hrest => ?_⟩
    have hread :=
      readNumber_exponent hdigits hrun hnonempty hrest negative (decide (exponent < 0)) start
    rw [← hmark, ← List.append_assoc] at hread
    refine ⟨_, _, hread, ?_⟩
    rw [hvalue, hexponent]
    simp
  | c :: d :: more =>
    have hwhole := whole_singleton (hdigits.isDigit c List.mem_cons_self)
    refine ⟨hwhole.head _, fun negative start rest hrest => ?_⟩
    have hread := readNumber_fraction_exponent hwhole
      (fun e he => hdigits.isDigit e (List.mem_cons_of_mem c he)) (List.cons_ne_nil d more)
        hrun hnonempty
      hrest negative (decide (exponent < 0)) start
    rw [← hmark] at hread
    refine ⟨_, _,
      (congrArg (readNumber negative start) (by simp [DecimalLayout.pointed])).trans hread, ?_⟩
    rw [List.singleton_append, hvalue, hexponent]
    simp

theorem spells_write {layout : DecimalLayout} (hpoint : layout.wholePoint = true) {digits : Nat}
    (hdigits : 0 < digits) (place : Int) : Spells (layout.write digits place) (digits, place) := by
  have hlength : 0 < (Nat.toDigits 10 digits).length := Nat.length_toDigits_pos
  unfold DecimalLayout.write
  dsimp only
  split
  · split
    · next hplace =>
      obtain ⟨k, rfl⟩ := Int.eq_ofNat_of_zero_le hplace
      exact spells_whole hdigits k
    · split
      · convert spells_point hdigits (Nat.succ_pos _) _ using 2 <;> omega
      · convert spells_below digits _ using 2
        omega
  · convert spells_exponent digits layout _ using 2
    omega

/-! ## Dispatch -/

theorem dropWord?_of_digit {cs : List Char} (h : ∃ c ∈ cs.head?, c.isDigit = true)
    {word : List Char} (hword : word.head?.all Char.isDigit = false) :
    dropWord? word cs = none := by
  refine if_neg fun hprefix => ?_
  obtain ⟨c, hc, hdigit⟩ := h
  obtain ⟨more, rfl⟩ := List.isPrefixOf_iff_prefix.mp hprefix
  cases word with
  | nil => exact Bool.false_ne_true hword.symm
  | cons d word =>
    cases hc
    exact Bool.false_ne_true (hword.symm.trans hdigit)

theorem readScalar_of_digit {cs : List Char} (h : ∃ c ∈ cs.head?, c.isDigit = true) :
    readScalar cs = readNumber false cs.length cs := by
  unfold readScalar
  split
  · obtain ⟨c, ⟨⟩, hdigit⟩ := h
    exact absurd hdigit (by decide)
  · rw [dropWord?_of_digit h (by decide : "null".toList.head?.all Char.isDigit = false),
      dropWord?_of_digit h (by decide : "true".toList.head?.all Char.isDigit = false),
      dropWord?_of_digit h (by decide : "false".toList.head?.all Char.isDigit = false),
      dropWord?_of_digit h (by decide : "NaN".toList.head?.all Char.isDigit = false),
      dropWord?_of_digit h (by decide : "Infinity".toList.head?.all Char.isDigit = false)]

theorem readScalar_minus {cs : List Char} (h : ∃ c ∈ cs.head?, c.isDigit = true) :
    readScalar ('-' :: cs) = readNumber true ('-' :: cs).length cs := by
  unfold readScalar
  split
  · next rest heq =>
    obtain rfl : cs = rest := (List.cons.inj heq).2
    rw [dropWord?_of_digit h (by decide : "Infinity".toList.head?.all Char.isDigit = false)]
  · next hne => exact absurd rfl (hne cs)

/-! ## Numbers read back -/

/-- A text that begins like a number and is read as a given value. -/
structure ReadsAs (text : List Char) (value : Value) : Prop where
  head : ∃ c ∈ text.head?, c = '-' ∨ c.isDigit = true
  reads : ∀ rest, Stops rest → readScalar (text ++ rest) = .ok (value, rest)

theorem readsAs_signed {text : List Char} (hhead : ∃ c ∈ text.head?, c.isDigit = true)
    (value : Bool → Value)
    (hread : ∀ negative start rest, Stops rest →
      readNumber negative start (text ++ rest) = .ok (value negative, rest)) (negative : Bool) :
    ReadsAs ((if negative then ['-'] else []) ++ text) (value negative) := by
  have hhead' (rest : List Char) : ∃ c ∈ (text ++ rest).head?, c.isDigit = true := by
    obtain ⟨c, hc, hdigit⟩ := hhead
    exact ⟨c, by rw [Option.mem_def, List.head?_append, hc]; rfl, hdigit⟩
  cases negative with
  | false =>
    refine ⟨?_, fun rest hrest =>
      (readScalar_of_digit (hhead' rest)).trans (hread false _ rest hrest)⟩
    exact hhead.imp fun c hc => ⟨hc.1, .inr hc.2⟩
  | true =>
    exact ⟨⟨'-', rfl, .inl rfl⟩, fun rest hrest =>
      (readScalar_minus (hhead' rest)).trans (hread true _ rest hrest)⟩

theorem readsAs_encodeInt {n : Int} (hlimit : (Nat.toDigits 10 n.natAbs).length ≤ digitLimit) :
    ReadsAs (encodeInt n) (.int n) := by
  have hread := readsAs_signed (by simpa using (whole_toDigits n.natAbs).head [])
    (fun negative => .int (withSign negative n.natAbs))
    (fun negative start rest hrest => readNumber_toDigits hlimit hrest negative start)
      (decide (n < 0))
  rw [withSign_natAbs] at hread
  unfold encodeInt
  split <;> next hsign => simpa [hsign] using hread

theorem readsAs_zero (negative : Bool) :
    ReadsAs ((if negative then ['-']
      else []) ++ ['0', '.', '0']) (.float (Binary64.ofRank negative 0)) := by
  refine readsAs_signed ⟨'0', rfl, rfl⟩ (fun negative => .float (Binary64.ofRank negative 0))
    (fun negative start rest hrest => ?_) negative
  have hzero : ∀ c ∈ ['0'], c.isDigit = true := List.forall_mem_singleton.mpr rfl
  exact readNumber_fraction (whole_singleton (hzero _ (List.mem_singleton_self _))) hzero
    (List.cons_ne_nil _ _) hrest negative start

theorem readsAs_shortest {rank : Nat} (hrank : 0 < rank) (hfinite : rank < Binary64.infinityRank)
    (negative : Bool) :
    ReadsAs ((if negative then ['-'] else []) ++
        DecimalLayout.document.write (Binary64.shortest rank).1 (Binary64.shortest rank).2)
      (.float (Binary64.ofRank negative rank)) := by
  have hnear := Binary64.near_decimal_shortest hrank
  have hdigits : 0 < (Binary64.shortest rank).1 :=
    Binary64.decimal_pos.mp ((Binary64.halfBelow_pos hrank).trans_le hnear.above)
  have hspells :
      Spells (DecimalLayout.document.write (Binary64.shortest rank).1 (Binary64.shortest rank).2)
      (Binary64.shortest rank) := spells_write rfl hdigits _
  refine readsAs_signed hspells.head (fun negative => .float (Binary64.ofRank negative rank))
    (fun negative start rest hrest => ?_) negative
  obtain ⟨digits, place, hread, hdecimal⟩ := hspells.reads negative start rest hrest
  rw [hread, Binary64.ofDecimal_of_near hrank hfinite (hdecimal ▸ hnear)]

theorem readsAs_float {x : Binary64} (hx : x.isFinite = true) :
    ReadsAs (x.text .document).toList (.float x) := by
  cases x with
  | nan => exact absurd hx (by decide)
  | ranked negative rank =>
    have hfinite : rank.val < Binary64.infinityRank := by simpa [Binary64.isFinite] using hx
    have hrank : Binary64.ofRank negative rank.val = .ranked negative rank :=
      congrArg (Binary64.ranked negative) (Fin.ext (min_eq_left hfinite.le))
    by_cases hzero : rank.val = 0
    · have htext : (Binary64.text .document (.ranked negative rank)).toList =
          (if negative then ['-'] else []) ++ ['0', '.', '0'] := by
        cases negative <;> simp [Binary64.text, hzero, DecimalLayout.document, DecimalLayout.report]
      rw [htext, ← hrank, hzero]
      exact readsAs_zero negative
    · have htext : (Binary64.text .document (.ranked negative rank)).toList =
          (if negative then ['-'] else []) ++
            DecimalLayout.document.write (Binary64.shortest rank.val).1
              (Binary64.shortest rank.val).2 := by
        cases negative <;> simp [Binary64.text, hzero, hfinite.ne]
      rw [htext, ← hrank]
      exact readsAs_shortest (Nat.pos_of_ne_zero hzero) hfinite negative

/-! ## Numbers within a value -/

theorem allWritable_iff {items : List Value} :
    allWritable items = true ↔ ∀ item ∈ items, isWritable item = true := by
  induction items with
  | nil => simp [allWritable]
  | cons item rest ih => rw [allWritable, Bool.and_eq_true_iff, List.forall_mem_cons, ih]

theorem membersWritable_iff {fields : Fields} :
    membersWritable fields = true ↔ ∀ entry ∈ fields, isWritable entry.2 = true := by
  induction fields with
  | nil => simp [membersWritable]
  | cons entry rest ih => rw [membersWritable, Bool.and_eq_true_iff, List.forall_mem_cons, ih]

end Json

end MailTriage

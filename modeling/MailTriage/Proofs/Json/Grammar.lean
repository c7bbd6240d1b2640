import MailTriage.Proofs.Json.Document
import MailTriage.Proofs.Json.Scalar
import MailTriage.Proofs.Outcome

/-!
# The grammar of documents

A text begins with a value and goes on with something else. Rules say this for every kind of value,
and reading finds exactly the values that the rules allow: what is read is there, by induction on
the fuel, and what is there is read, by induction on the rules. A document is a value with nothing
but blanks around it.
-/

namespace MailTriage.Json

/-! ## Texts -/

/-- A high unit before the escape of a low one. -/
def BeginsPair (high : Nat) (cs : List Char) : Prop :=
  isHighUnit high = true ∧ ∃ a b c d rest low,
    cs = '\\' :: 'u' :: a :: b :: c :: d :: rest ∧ unit? a b c d = some low ∧ isLowUnit low = true

/-- What stands for a text after its opening quote, up to its closing one. -/
inductive BeginsText : List Char → List Char → List Char → Prop
  | close {rest : List Char} : BeginsText ('"' :: rest) [] rest
  | plain {c : Char} {cs text rest : List Char} :
      c ≠ '"' → c ≠ '\\' → 32 ≤ c.toNat → BeginsText cs text rest →
      BeginsText (c :: cs) (c :: text) rest
  | short {c escaped : Char} {cs text rest : List Char} :
      shortEscape? c = some escaped → BeginsText cs text rest →
      BeginsText ('\\' :: c :: cs) (escaped :: text) rest
  | unit {a b c d : Char} {n : Nat} {cs text rest : List Char} :
      unit? a b c d = some n → ¬BeginsPair n cs →
      BeginsText cs text rest →
        BeginsText ('\\' :: 'u' :: a :: b :: c :: d :: cs) (unitChar n :: text) rest
  | pair {a b c d a' b' c' d' : Char} {high low : Nat} {cs text rest : List Char} :
      unit? a b c d = some high →
      isHighUnit high = true → unit? a' b' c' d' = some low → isLowUnit low = true →
        BeginsText cs text rest →
      BeginsText ('\\' :: 'u' :: a :: b :: c :: d :: '\\' :: 'u' :: a' :: b' :: c' :: d' :: cs)
        (pairChar high low :: text) rest

variable {cs text rest : List Char}

theorem BeginsText.ne_nil (h : BeginsText cs text rest) : cs ≠ [] := by
  cases h <;> exact List.cons_ne_nil _ _

theorem shortEscape?_u : shortEscape? 'u' = none := by decide

/-- The escape of a unit has four digits, and does not end the text. -/
theorem BeginsText.exists_unit {a b c d : Char}
    (h : BeginsText ('\\' :: 'u' :: a :: b :: c :: d :: cs) text rest) :
    (∃ n, unit? a b c d = some n) ∧ cs ≠ [] := by
  cases h with
  | plain _ hslash => exact absurd rfl hslash
  | short hescape => exact absurd (shortEscape?_u.symm.trans hescape) (by simp)
  | unit hunit _ hrest => exact ⟨⟨_, hunit⟩, hrest.ne_nil⟩
  | pair hunit => exact ⟨⟨_, hunit⟩, List.cons_ne_nil _ _⟩

theorem readText_of_begins (h : BeginsText cs text rest) (opened : Nat) :
    readText opened cs = .ok (text, rest) := by
  induction h with
  | close => rw [readText]
  | plain hquote hslash hcontrol _ ih => exact readText_plain ih hquote hslash hcontrol
  | short hescape _ ih =>
    refine readText_shortEscape ih ?_ hescape
    rintro rfl
    exact absurd (shortEscape?_u.symm.trans hescape) (by simp)
  | unit hunit hpair hrest ih =>
    obtain ⟨next, more, rfl⟩ := List.exists_cons_of_ne_nil hrest.ne_nil
    rw [readText.eq_def]
    split
    -- A second unit is looked at before it is known whether the two are a pair.
    case h_4 a' b' c' d' next' more' heq =>
      simp only [List.cons.injEq, true_and] at heq
      obtain ⟨rfl, rfl, rfl, rfl, rfl, rfl⟩ := heq
      obtain ⟨low, hlow⟩ := hrest.exists_unit.1
      rw [hunit, hlow, ih]
      by_cases hlowunit : isLowUnit low = true
      · have hhigh : isHighUnit _ ≠ true :=
          fun hhigh => hpair ⟨hhigh, _, _, _, _, _, low, rfl, hlow, hlowunit⟩
        simp [hhigh]
      · simp [hlowunit]
    all_goals grind
  | pair hunit hhigh hunit' hlow hrest ih =>
    obtain ⟨next, more, rfl⟩ := List.exists_cons_of_ne_nil hrest.ne_nil
    rw [readText.eq_def]
    simp [hunit, hhigh, hunit', hlow, ih]

theorem not_beginsPair {high : Nat} {a b c d : Char}
    (h : isHighUnit high = true → ∀ low, unit? a b c d = some low → isLowUnit low ≠ true) :
    ¬BeginsPair high ('\\' :: 'u' :: a :: b :: c :: d :: cs) := by
  rintro ⟨hhigh, a', b', c', d', left, low, heq, hunit, hlow⟩
  simp only [List.cons.injEq, true_and] at heq
  obtain ⟨rfl, rfl, rfl, rfl, -⟩ := heq
  exact h hhigh low hunit hlow

theorem begins_of_readText {opened : Nat} (h : readText opened cs = .ok (text, rest)) :
    BeginsText cs text rest := by
  fun_induction readText opened cs generalizing text rest with
  | case1 | case3 | case4 | case5 | case7 | case9 | case11 | case12 | case14 | case15 | case16
  | case18 | case19 | case21 => cases h
  | case2 =>
    obtain ⟨rfl, rfl⟩ := Prod.mk.inj (Except.ok.inj h)
    exact .close
  | case6 a b c d a' b' c' d' next left high hunit hhigh low hunit' hlow text rest hread ih =>
    obtain ⟨rfl, rfl⟩ := Prod.mk.inj (Except.ok.inj h)
    exact .pair hunit hhigh hunit' hlow (ih hread)
  | case8 a b c d a' b' c' d' next left high hunit hhigh low hunit' hlow text rest hread ih =>
    obtain ⟨rfl, rfl⟩ := Prod.mk.inj (Except.ok.inj h)
    refine .unit hunit (not_beginsPair fun _ low' hlow' => ?_) (ih hread)
    obtain rfl := Option.some.inj (hunit'.symm.trans hlow')
    exact hlow
  | case10 a b c d a' b' c' d' next left high hunit hhigh text rest hread ih =>
    obtain ⟨rfl, rfl⟩ := Prod.mk.inj (Except.ok.inj h)
    exact .unit hunit (not_beginsPair fun hhigh' => absurd hhigh' hhigh) (ih hread)
  | case13 a b c d next left hnone n hunit text rest hread ih =>
    obtain ⟨rfl, rfl⟩ := Prod.mk.inj (Except.ok.inj h)
    have hrest := ih hread
    refine .unit hunit ?_ hrest
    rintro ⟨-, a', b', c', d', left', low, heq, -, -⟩
    obtain ⟨next', more, rfl⟩ := List.exists_cons_of_ne_nil (heq ▸ hrest).exists_unit.2
    obtain ⟨hnext, hleft⟩ := List.cons.inj heq
    exact hnone a' b' c' d' next' more hnext hleft
  | case17 c left _ _ hu escaped hescape text rest hread ih =>
    obtain ⟨rfl, rfl⟩ := Prod.mk.inj (Except.ok.inj h)
    exact .short hescape (ih hread)
  | case20 c left hquote hend _ _ _ hslash hcontrol text rest hread ih =>
    obtain ⟨rfl, rfl⟩ := Prod.mk.inj (Except.ok.inj h)
    refine .plain hquote (fun hc => ?_) (not_lt.mp hcontrol) (ih hread)
    cases left with
    | nil => exact hend hc rfl
    | cons c left => exact hslash c left hc rfl

/-! ## Blanks -/

/-- What is left after some of the blanks at the front. -/
def Blanks (cs rest : List Char) : Prop := ∃ blank, Blank blank ∧ cs = blank ++ rest

theorem blanks_skipSpace (cs : List Char) : Blanks cs (skipSpace cs) :=
  ⟨cs.takeWhile isSpace, fun _ hc => List.mem_takeWhile_imp hc,
    List.takeWhile_append_dropWhile.symm⟩

theorem Blanks.skipSpace_cons {c : Char} (h : Blanks cs (c :: rest)) (hc : isSpace c = false) :
    skipSpace cs = c :: rest := by
  obtain ⟨blank, hblank, rfl⟩ := h
  rw [hblank.skipSpace_append, Json.skipSpace_cons hc]

theorem Blanks.skipSpace_of_opens (h : Blanks cs rest) (hrest : Opens rest) :
    skipSpace cs = rest := by
  obtain ⟨blank, hblank, rfl⟩ := h
  rw [hblank.skipSpace_append, hrest.skipSpace]

theorem Blanks.length_le (h : Blanks cs rest) : rest.length ≤ cs.length := by
  obtain ⟨blank, -, rfl⟩ := h
  simp

/-- A comma between two parts, with the blanks around it. -/
def BeginsComma (cs rest : List Char) : Prop := ∃ next, Blanks cs (',' :: next) ∧ Blanks next rest

/-! ## Values -/

/-- What can be due: a value, the items of a list up to its bracket, or the members of an object up
to its brace. -/
inductive Kind
  | value
  | items
  | members

namespace Kind

abbrev Content : Kind → Type
  | value => Value
  | items => List Value
  | members => List (String × Value)

def read : (kind : Kind) → (fuel : Nat) → List Char → Reading kind.Content
  | value => readValue
  | items => readItems
  | members => readMembers

end Kind

/-- The name of a member, and the colon after it. -/
inductive BeginsName : List Char → String → List Char → Prop
  | mk {cs name afterName afterColon rest : List Char} : BeginsText cs name afterName →
      Blanks afterName (':' :: afterColon) → Blanks afterColon rest →
      BeginsName ('"' :: cs) (String.ofList name) rest

/-- What a text begins with, and what is left of it then. An object that repeats a name keeps its
last value. -/
inductive Begins : List Char → (kind : Kind) → kind.Content → List Char → Prop
  | scalar {cs rest : List Char} {value : Value} :
      BeginsScalar cs value rest → Begins cs .value value rest
  | text {cs text rest : List Char} : BeginsText cs text rest →
      Begins ('"' :: cs) .value (.text (String.ofList text)) rest
  | emptyList {cs rest : List Char} :
      Blanks cs (']' :: rest) → Begins ('[' :: cs) .value (.list []) rest
  | list {cs start rest : List Char} {items : List Value} :
      Blanks cs start → Begins start .items items rest →
      Begins ('[' :: cs) .value (.list items) rest
  | emptyObject {cs rest : List Char} :
      Blanks cs ('\x7d' :: rest) → Begins ('\x7b' :: cs) .value (.object []) rest
  | object {cs start rest : List Char} {members : List (String × Value)} : Blanks cs start →
      Begins start .members members rest →
        Begins ('\x7b' :: cs) .value (.object (Fields.ofEntries members)) rest
  | lastItem {cs left rest : List Char} {item : Value} :
      Begins cs .value item left → Blanks left (']' :: rest) →
      Begins cs .items [item] rest
  | nextItem {cs left next rest : List Char} {item : Value} {items : List Value} :
      Begins cs .value item left →
      BeginsComma left next → Begins next .items items rest → Begins cs .items (item :: items) rest
  | lastMember {cs start left rest : List Char} {name : String} {value : Value} :
      BeginsName cs name start →
      Begins start .value value left → Blanks left ('\x7d' :: rest) →
        Begins cs .members [(name, value)] rest
  | nextMember {cs start left next rest : List Char} {name : String} {value : Value}
      {members : List (String × Value)} :
          BeginsName cs name start → Begins start .value value left →
      BeginsComma left next → Begins next .members members rest →
      Begins cs .members ((name, value) :: members) rest

/-! ### Steps of the readers -/

theorem malformed_of_readText {opened : Nat} {failure : Failure}
    (h : readText opened cs = .error failure) :
    ∃ fault left, failure = .malformed fault left := by
  fun_induction readText opened cs <;> grind

/-- What a reader comes to with a unit of fuel, from what the readers come to that it calls. -/
inductive ReadsTo (fuel : Nat) : (kind : Kind) → List Char → Reading kind.Content → Prop
  | malformed {kind : Kind} {cs : List Char} (fault : Fault) (left : Nat) :
      ReadsTo fuel kind cs (.error (.malformed fault left))
  | scalar (cs : List Char) : ReadsTo fuel .value cs (readScalar cs)
  | text {cs text rest : List Char} : BeginsText cs text rest →
      ReadsTo fuel .value ('"' :: cs) (.ok (.text (String.ofList text), rest))
  | emptyList {cs rest : List Char} :
      Blanks cs (']' :: rest) → ReadsTo fuel .value ('[' :: cs) (.ok (.list [], rest))
  | list {cs start : List Char} : Blanks cs start →
      ReadsTo fuel .value ('[' :: cs)
        ((readItems fuel start).map fun read => (.list read.1, read.2))
  | emptyObject {cs rest : List Char} : Blanks cs ('\x7d' :: rest) →
      ReadsTo fuel .value ('\x7b' :: cs) (.ok (.object [], rest))
  | object {cs start : List Char} : Blanks cs start → ReadsTo fuel .value ('\x7b' :: cs)
      ((readMembers fuel start).map fun read => (.object (Fields.ofEntries read.1), read.2))
  | itemFails {cs : List Char} {failure : Failure} : readValue fuel cs = .error failure →
      ReadsTo fuel .items cs (.error failure)
  | lastItem {cs left rest : List Char} {item : Value} : readValue fuel cs = .ok (item, left) →
      Blanks left (']' :: rest) → ReadsTo fuel .items cs (.ok ([item], rest))
  | nextItem {cs left next : List Char} {item : Value} : readValue fuel cs = .ok (item, left) →
      BeginsComma left next →
      ReadsTo fuel .items cs ((readItems fuel next).map fun read => (item :: read.1, read.2))
  | valueFails {cs start : List Char} {name : String} {failure : Failure} :
      BeginsName cs name start →
      readValue fuel start = .error failure → ReadsTo fuel .members cs (.error failure)
  | lastMember {cs start left rest : List Char} {name : String} {value : Value} :
      BeginsName cs name start →
      readValue fuel start = .ok (value, left) → Blanks left ('\x7d' :: rest) →
      ReadsTo fuel .members cs (.ok ([(name, value)], rest))
  | nextMember {cs start left next : List Char} {name : String} {value : Value} :
      BeginsName cs name start →
      readValue fuel start = .ok (value, left) → BeginsComma left next →
      ReadsTo fuel .members cs
        ((readMembers fuel next).map fun read => ((name, value) :: read.1, read.2))

theorem Kind.read_zero (kind : Kind) (cs : List Char) :
    kind.read 0 cs = .error (.malformed .expectingValue cs.length) := by
  cases kind with
  | value => exact readValue.eq_1 cs
  | items => exact readItems.eq_1 cs
  | members => exact readMembers.eq_1 cs

theorem readsTo_value (fuel : Nat) (cs : List Char) :
    ReadsTo fuel .value cs (readValue (fuel + 1) cs) := by
  rw [readValue.eq_def]
  dsimp only
  split
  · next left =>
    split
    · next hread => exact .text (begins_of_readText hread)
    · next hread =>
      obtain ⟨fault, place, rfl⟩ := malformed_of_readText hread
      exact .malformed fault place
  · next left =>
    split
    · next hend => exact .emptyList (hend ▸ blanks_skipSpace left)
    · have hlist : ReadsTo fuel .value _ _ := .list (blanks_skipSpace left)
      cases hitems : readItems fuel (skipSpace left) <;> rwa [hitems] at hlist
  · next left =>
    split
    · next hend => exact .emptyObject (hend ▸ blanks_skipSpace left)
    · have hobject : ReadsTo fuel .value _ _ := .object (blanks_skipSpace left)
      cases hmembers : readMembers fuel (skipSpace left) <;> rwa [hmembers] at hobject
  · exact .scalar cs

theorem readsTo_items (fuel : Nat) (cs : List Char) :
    ReadsTo fuel .items cs (readItems (fuel + 1) cs) := by
  rw [readItems]
  split
  · next hread => exact .itemFails hread
  · next item left hread =>
    split
    · next hend => exact .lastItem hread (hend ▸ blanks_skipSpace left)
    · next next hcomma =>
      have hstep :=
        ReadsTo.nextItem hread ⟨next, hcomma ▸ blanks_skipSpace left, blanks_skipSpace next⟩
      cases hitems : readItems fuel (skipSpace next) <;> rwa [hitems] at hstep
    · exact .malformed _ _

theorem readsTo_members (fuel : Nat) (cs : List Char) :
    ReadsTo fuel .members cs (readMembers (fuel + 1) cs) := by
  rw [readMembers.eq_def]
  dsimp only
  split
  · split
    · next hread =>
      obtain ⟨fault, place, rfl⟩ := malformed_of_readText hread
      exact .malformed fault place
    · next name afterName hread =>
      split
      · next afterColon hcolon =>
        have hname := BeginsName.mk (begins_of_readText hread) (hcolon ▸ blanks_skipSpace afterName)
          (blanks_skipSpace afterColon)
        split
        · next hread => exact .valueFails hname hread
        · next value left hread =>
          split
          · next hend => exact .lastMember hname hread (hend ▸ blanks_skipSpace left)
          · next next hcomma =>
            have hstep := ReadsTo.nextMember hname hread
              ⟨next, hcomma ▸ blanks_skipSpace left, blanks_skipSpace next⟩
            cases hmembers : readMembers fuel (skipSpace next) <;> rwa [hmembers] at hstep
          · exact .malformed _ _
      · exact .malformed _ _
  · exact .malformed _ _

theorem readsTo (fuel : Nat) (kind : Kind) (cs : List Char) :
    ReadsTo fuel kind cs (kind.read (fuel + 1) cs) := by
  cases kind with
  | value => exact readsTo_value fuel cs
  | items => exact readsTo_items fuel cs
  | members => exact readsTo_members fuel cs

/-! ### What is read is there -/

theorem begins_of_read {kind : Kind} {content : kind.Content} {fuel : Nat}
    (h : kind.read fuel cs = .ok (content, rest)) : Begins cs kind content rest := by
  -- each step reads its parts with one less of the fuel
  induction fuel generalizing kind cs rest with
  | zero => cases (kind.read_zero cs).symm.trans h
  | succ fuel ih =>
    obtain ⟨result, hresult, hstep⟩ :
        ∃ result, result = .ok (content, rest) ∧ ReadsTo fuel kind cs result :=
      ⟨_, h, readsTo fuel kind cs⟩
    cases hstep with
    | malformed => cases hresult
    | scalar => exact .scalar (readScalar_eq_ok_iff.mp hresult)
    | text htext =>
      cases hresult
      exact .text htext
    | emptyList hend =>
      cases hresult
      exact .emptyList hend
    | list hstart =>
      obtain ⟨⟨items, left⟩, hitems, heq⟩ := map_eq_ok_iff.mp hresult
      cases heq
      exact .list hstart (ih hitems)
    | emptyObject hend =>
      cases hresult
      exact .emptyObject hend
    | object hstart =>
      obtain ⟨⟨members, left⟩, hmembers, heq⟩ := map_eq_ok_iff.mp hresult
      cases heq
      exact .object hstart (ih hmembers)
    | itemFails => cases hresult
    | lastItem hitem hend =>
      cases hresult
      exact .lastItem (ih hitem) hend
    | nextItem hitem hcomma =>
      obtain ⟨⟨items, left⟩, hitems, heq⟩ := map_eq_ok_iff.mp hresult
      cases heq
      exact .nextItem (ih hitem) hcomma (ih hitems)
    | valueFails => cases hresult
    | lastMember hname hvalue hend =>
      cases hresult
      exact .lastMember hname (ih hvalue) hend
    | nextMember hname hvalue hcomma =>
      obtain ⟨⟨members, left⟩, hmembers, heq⟩ := map_eq_ok_iff.mp hresult
      cases heq
      exact .nextMember hname (ih hvalue) hcomma (ih hmembers)

/-! ### What is there is read -/

theorem BeginsNumeral.opensScalar {numeral : Numeral} (h : BeginsNumeral cs numeral rest) :
    OpensScalar cs := by
  cases h with
  | plain _ hunsigned =>
    obtain ⟨c, hc, hdigit⟩ := hunsigned.head
    exact ⟨c, hc, isScalarHead_of_isDigit hdigit⟩
  | minus => exact ⟨'-', rfl, isScalarHead_minus⟩

theorem BeginsScalar.opensScalar {value : Value} (h : BeginsScalar cs value rest) :
    OpensScalar cs := by
  cases h with
  | word _ hmem =>
    simp only [words, List.mem_cons, Prod.mk.injEq, List.not_mem_nil, or_false] at hmem
    rcases hmem with ⟨rfl, -⟩ | ⟨rfl, -⟩ | ⟨rfl, -⟩ | ⟨rfl, -⟩ | ⟨rfl, -⟩ | ⟨rfl, -⟩ <;>
      exact ⟨_, rfl, by constructor <;> decide⟩
  | number hnumeral _ => exact hnumeral.opensScalar

theorem BeginsName.exists_quote {name : String} (h : BeginsName cs name rest) :
    ∃ left, cs = '"' :: left := by
  cases h
  exact ⟨_, rfl⟩

theorem Begins.exists_quote {members : List (String × Value)}
    (h : Begins cs .members members rest) :
    ∃ left, cs = '"' :: left := by
  cases h with
  | lastMember hname | nextMember hname => exact hname.exists_quote

theorem Begins.opens {kind : Kind} {content : kind.Content} (h : Begins cs kind content rest) :
    Opens cs := by
  induction h with
  | scalar hscalar => exact hscalar.opensScalar.opens
  | text => exact opens_quote _
  | emptyList | list => exact ⟨'[', rfl, rfl, by decide, by decide⟩
  | emptyObject | object => exact ⟨'\x7b', rfl, rfl, by decide, by decide⟩
  | lastItem _ _ ih | nextItem _ _ _ ih => exact ih
  | lastMember hname | nextMember hname =>
    obtain ⟨left, rfl⟩ := hname.exists_quote
    exact opens_quote left

/-! #### Lengths -/

theorem BeginsText.length_lt (h : BeginsText cs text rest) : rest.length < cs.length := by
  induction h with
  | close => simp
  | plain | short | unit | pair => simp; omega

theorem BeginsScalar.length_lt {value : Value} (h : BeginsScalar cs value rest) :
    rest.length < cs.length := by
  cases h with
  | word _ hmem =>
    simp only [words, List.mem_cons, Prod.mk.injEq, List.not_mem_nil, or_false] at hmem
    rcases hmem with ⟨rfl, -⟩ | ⟨rfl, -⟩ | ⟨rfl, -⟩ | ⟨rfl, -⟩ | ⟨rfl, -⟩ | ⟨rfl, -⟩ <;>
      simp <;> omega
  | number hnumeral _ => exact hnumeral.length_lt

theorem BeginsName.length_lt {name : String} (h : BeginsName cs name rest) :
    rest.length < cs.length := by
  obtain ⟨hname, hcolon, hstart⟩ := h
  have := hname.length_lt
  have := hcolon.length_le
  have := hstart.length_le
  simp only [List.length_cons] at *
  omega

theorem BeginsComma.length_lt (h : BeginsComma cs rest) : rest.length < cs.length := by
  obtain ⟨next, hcomma, hrest⟩ := h
  have := hcomma.length_le
  have := hrest.length_le
  simp only [List.length_cons] at *
  omega

theorem Begins.length_lt {kind : Kind} {content : kind.Content} (h : Begins cs kind content rest) :
    rest.length < cs.length := by
  induction h with
  | scalar hscalar => exact hscalar.length_lt
  | text htext => exact Nat.lt_succ_of_lt htext.length_lt
  | emptyList hend | emptyObject hend =>
    have := hend.length_le
    simp only [List.length_cons] at *
    omega
  | list hstart _ ih | object hstart _ ih =>
    exact Nat.lt_succ_of_lt (lt_of_lt_of_le ih hstart.length_le)
  | lastItem _ hend ih => exact lt_trans hend.length_le ih
  | nextItem _ hcomma _ ih ihnext => exact lt_trans ihnext (lt_trans hcomma.length_lt ih)
  | lastMember hname _ hend ih => exact lt_trans hend.length_le (lt_trans ih hname.length_lt)
  | nextMember hname _ hcomma _ ih ihnext =>
    exact lt_trans ihnext (lt_trans hcomma.length_lt (lt_trans ih hname.length_lt))

/-! #### Steps of the reader -/

section Steps

variable {fuel : Nat} {start left next : List Char}

theorem BeginsComma.skipSpace (h : BeginsComma left next) (hnext : Opens next) :
    ∃ afterComma, Json.skipSpace left = ',' :: afterComma ∧ Json.skipSpace afterComma = next := by
  obtain ⟨afterComma, hcomma, hblanks⟩ := h
  exact ⟨afterComma, hcomma.skipSpace_cons rfl, hblanks.skipSpace_of_opens hnext⟩

theorem readValue_of_list (h : Blanks cs start) (hstart : Opens start) :
    readValue (fuel + 1) ('[' :: cs) =
      (readItems fuel start).map fun read => (.list read.1, read.2) := by
  obtain ⟨c, hc, -, hbracket, -⟩ := id hstart
  rw [readValue, h.skipSpace_of_opens hstart]
  split
  · exact absurd (Option.some.inj hc).symm hbracket
  · cases readItems fuel start <;> rfl

theorem readValue_of_object (h : Blanks cs ('"' :: start)) :
    readValue (fuel + 1) ('\x7b' :: cs) =
      (readMembers fuel ('"' :: start)).map fun read =>
        (.object (Fields.ofEntries read.1), read.2) := by
  rw [readValue, h.skipSpace_cons rfl]
  split
  · next heq => exact absurd (List.cons.inj heq).1 (by decide)
  cases readMembers fuel ('"' :: start) <;> rfl

theorem readItems_of_next {item : Value} (hitem : readValue fuel cs = .ok (item, left))
    (hcomma : BeginsComma left next) (hnext : Opens next) :
    readItems (fuel + 1) cs = (readItems fuel next).map fun read => (item :: read.1, read.2) := by
  obtain ⟨afterComma, hleft, hnext⟩ := hcomma.skipSpace hnext
  simp only [readItems, hitem, hleft, hnext]
  cases readItems fuel next <;> rfl

section Members

variable {name : String} (hname : BeginsName cs name start) (hstart : Opens start)
include hname hstart

theorem readMembers_of_name_error {failure : Failure}
    (hvalue : readValue fuel start = .error failure) :
    readMembers (fuel + 1) cs = .error failure := by
  obtain ⟨htext, hcolon, hblanks⟩ := hname
  simp [readMembers, readText_of_begins htext, hcolon.skipSpace_cons rfl,
    hblanks.skipSpace_of_opens hstart, hvalue]

theorem readMembers_of_last {value : Value} (hvalue : readValue fuel start = .ok (value, left))
    (hend : Blanks left ('\x7d' :: rest)) :
    readMembers (fuel + 1) cs = .ok ([(name, value)], rest) := by
  obtain ⟨htext, hcolon, hblanks⟩ := hname
  simp [readMembers, readText_of_begins htext, hcolon.skipSpace_cons rfl,
    hblanks.skipSpace_of_opens hstart, hvalue, hend.skipSpace_cons rfl]

theorem readMembers_of_next {value : Value} (hvalue : readValue fuel start = .ok (value, left))
    (hcomma : BeginsComma left next) (hnext : Opens next) :
    readMembers (fuel + 1) cs =
      (readMembers fuel next).map fun read => ((name, value) :: read.1, read.2) := by
  obtain ⟨htext, hcolon, hblanks⟩ := hname
  obtain ⟨afterComma, hleft, hnext⟩ := hcomma.skipSpace hnext
  simp only [readMembers, readText_of_begins htext, hcolon.skipSpace_cons rfl,
    hblanks.skipSpace_of_opens hstart, hvalue, hleft, hnext]
  cases readMembers fuel next <;> rfl

end Members

end Steps

/-- Fuel for what is left of a text. -/
def Kind.room (kind : Kind) (cs : List Char) : Nat :=
  match kind with
  | value => 2 * cs.length + 1
  | items | members => 2 * cs.length + 2

theorem Kind.exists_succ {kind : Kind} {fuel : Nat} (h : kind.room cs ≤ fuel) :
    ∃ k, fuel = k + 1 := by
  refine ⟨fuel - 1, ?_⟩
  cases kind <;> simp only [Kind.room] at h <;> omega

theorem read_of_begins {kind : Kind} {content : kind.Content} (h : Begins cs kind content rest)
    {fuel : Nat} (hfuel : kind.room cs ≤ fuel) : kind.read fuel cs = .ok (content, rest) := by
  -- over the derivation, as each part of it is shorter and so has fuel enough
  induction h generalizing fuel with
  | scalar hscalar =>
    obtain ⟨fuel, rfl⟩ := Kind.exists_succ hfuel
    exact (hscalar.opensScalar.readValue_eq fuel).trans (readScalar_eq_ok_iff.mpr hscalar)
  | text htext =>
    obtain ⟨fuel, rfl⟩ := Kind.exists_succ hfuel
    simp [Kind.read, readValue, readText_of_begins htext]
  | emptyList hend =>
    obtain ⟨fuel, rfl⟩ := Kind.exists_succ hfuel
    simp [Kind.read, readValue, hend.skipSpace_cons rfl]
  | emptyObject hend =>
    obtain ⟨fuel, rfl⟩ := Kind.exists_succ hfuel
    simp [Kind.read, readValue, hend.skipSpace_cons rfl]
  | list hstart hitems ih =>
    obtain ⟨fuel, rfl⟩ := Kind.exists_succ hfuel
    have hlength := hstart.length_le
    simp only [Kind.read, Kind.room, List.length_cons] at hfuel ih ⊢
    rw [readValue_of_list hstart hitems.opens, ih (by omega)]
    rfl
  | object hstart hmembers ih =>
    obtain ⟨fuel, rfl⟩ := Kind.exists_succ hfuel
    obtain ⟨left, rfl⟩ := hmembers.exists_quote
    have hlength := hstart.length_le
    simp only [Kind.read, Kind.room, List.length_cons] at hfuel hlength ih ⊢
    rw [readValue_of_object hstart, ih (by omega)]
    rfl
  | lastItem _ hend ih =>
    obtain ⟨fuel, rfl⟩ := Kind.exists_succ hfuel
    exact readItems_last (ih (Nat.le_of_succ_le_succ hfuel)) (hend.skipSpace_cons rfl)
  | nextItem hitem hcomma hnext ih ihnext =>
    obtain ⟨fuel, rfl⟩ := Kind.exists_succ hfuel
    have hlength := lt_trans hcomma.length_lt hitem.length_lt
    simp only [Kind.read, Kind.room] at hfuel ih ihnext ⊢
    rw [readItems_of_next (ih (by omega)) hcomma hnext.opens, ihnext (by omega)]
    rfl
  | lastMember hname hvalue hend ih =>
    obtain ⟨fuel, rfl⟩ := Kind.exists_succ hfuel
    have hlength := hname.length_lt
    simp only [Kind.read, Kind.room] at hfuel ih ⊢
    exact readMembers_of_last hname hvalue.opens (ih (by omega)) hend
  | nextMember hname hvalue hcomma hnext ih ihnext =>
    obtain ⟨fuel, rfl⟩ := Kind.exists_succ hfuel
    have hlength := hname.length_lt
    have hlength' := lt_trans hcomma.length_lt hvalue.length_lt
    simp only [Kind.read, Kind.room] at hfuel ih ihnext ⊢
    rw [readMembers_of_next hname hvalue.opens (ih (by omega)) hcomma hnext.opens,
      ihnext (by omega)]
    rfl

/-! ## Documents -/

/-- A document is a value with blanks around it. -/
def IsDocument (cs : List Char) (value : Value) : Prop :=
  ∃ start left, Blanks cs start ∧ Begins start .value value left ∧ Blanks left []

theorem Blanks.skipSpace_nil (h : Blanks cs []) : skipSpace cs = [] := by
  obtain ⟨blank, hblank, rfl⟩ := h
  rw [hblank.skipSpace_append]
  rfl

/-- A text that opens is no byte order mark, with blanks before it or without. -/
theorem Opens.ne_mark {start : List Char} (hstart : Opens start) (h : Blanks cs start)
    (left : List Char) :
    cs ≠ '\ufeff' :: left := by
  rintro rfl
  obtain ⟨c, hc, -, -, hmark⟩ := hstart
  obtain ⟨blank, hblank, heq⟩ := h
  cases blank with
  | nil =>
    rw [List.nil_append] at heq
    rw [← heq] at hc
    exact hmark (Option.some.inj hc).symm
  | cons d blank =>
    obtain ⟨rfl, -⟩ := List.cons.inj heq
    exact absurd (hblank _ List.mem_cons_self) (by decide)

theorem readDocument_eq_ok_iff {value : Value} :
    readDocument cs = .ok value ↔ IsDocument cs value := by
  constructor
  · intro h
    unfold readDocument at h
    split at h
    · cases h
    · split at h
      · cases h
      · next read left hread =>
        split at h
        · next hend =>
          obtain rfl := Except.ok.inj h
          have hread : Kind.value.read (2 * cs.length + 2) (skipSpace cs) = .ok (read, left) :=
            hread
          exact ⟨_, left, blanks_skipSpace cs, begins_of_read hread, hend ▸ blanks_skipSpace left⟩
        · cases h
  · rintro ⟨start, left, hstart, hvalue, hend⟩
    have hlength := hstart.length_le
    have hread : Kind.value.read (2 * cs.length + 2) start = .ok (value, left) :=
      read_of_begins hvalue (by simp only [Kind.room]; omega)
    rw [Kind.read] at hread
    unfold readDocument
    split
    · exact absurd rfl (hvalue.opens.ne_mark hstart _)
    · rw [hstart.skipSpace_of_opens hvalue.opens]
      simp [hread, hend.skipSpace_nil]

theorem parse_eq_ok_iff {text : String} {value : Value} :
    parse text = .ok value ↔ IsDocument text.toList value :=
  readDocument_eq_ok_iff

end MailTriage.Json

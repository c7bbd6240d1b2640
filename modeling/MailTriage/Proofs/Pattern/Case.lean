import MailTriage.Pattern.Reader
import Mathlib.Tactic

/-!
# Case plays no part in reading

Whether case is ignored is known while a pattern is read, but looked at only when it is matched.
Each step of reading goes the same way when case is ignored: it takes the same tokens, refuses for
the same reason, and comes to the same result. So a pattern can be read with case ignored exactly
when it can be read at all.
-/

namespace MailTriage.Pattern

variable {α β : Type}

/-- What is known of a pattern when case is ignored beside. -/
def Progress.ignoringCase (s : Progress) : Progress :=
  { s with flags := { s.flags with ignoreCase := true } }

namespace Reader

/-- A step that goes the same way when case is ignored. -/
def CaseBlind (step : Reader α) : Prop :=
  ∀ s, step.run s.ignoringCase = (step.run s).map fun result => (result.1, result.2.ignoringCase)

/-! ## Ways of putting steps together -/

namespace CaseBlind

theorem pure (a : α) : CaseBlind (Pure.pure a : Reader α) := fun _ => rfl

theorem throw (refusal : Refusal) : CaseBlind (MonadExcept.throw refusal : Reader α) := fun _ => rfl

theorem bind {step : Reader α} {next : α → Reader β} (h : CaseBlind step)
    (hnext : ∀ a, CaseBlind (next a)) :
    CaseBlind (step >>= next) := by
  intro s
  rw [StateT.run_bind, StateT.run_bind, h s]
  cases step.run s with
  | error refusal => rfl
  | ok result => exact hnext result.1 result.2

/-- A look at what is known, for something else than case. -/
theorem get_bind {next : Progress → Reader α} (h : ∀ s, CaseBlind (next s))
    (hnext : ∀ s, next s.ignoringCase = next s) : CaseBlind (get >>= next) := by
  intro s
  change (next s.ignoringCase).run s.ignoringCase = _
  rw [hnext]
  exact h s s

theorem of_modify {change : Progress → Progress}
    (h : ∀ s, change s.ignoringCase = (change s).ignoringCase) :
    CaseBlind (modify change) := by
  intro s
  change Except.ok ((), change s.ignoringCase) = Except.ok ((), (change s).ignoringCase)
  rw [h]

theorem ite {c : Prop} [Decidable c] {yes no : Reader α} (hyes : CaseBlind yes)
    (hno : CaseBlind no) :
    CaseBlind (if c then yes else no) := by
  split
  · exact hyes
  · exact hno

theorem guard {c : Prop} [Decidable c] {stop : Reader Unit} {next : Unit → Reader β}
    (h : CaseBlind stop) (hnext : CaseBlind (next ())) :
    CaseBlind (if c then stop >>= next else next ()) :=
  .ite (h.bind fun _ => hnext) hnext

end CaseBlind

/-! ## Tokens -/

theorem caseBlind_position : CaseBlind position := .get_bind (fun _ => .pure _) fun _ => rfl

theorem caseBlind_refuseAt (cause : Cause) (place : Nat) :
    CaseBlind (refuseAt cause place : Reader α) := .throw _

theorem caseBlind_refuse (cause : Cause) (back : Nat) : CaseBlind (refuse cause back : Reader α) :=
  caseBlind_position.bind fun _ => caseBlind_refuseAt _ _

theorem caseBlind_advance : CaseBlind advance := by
  intro s
  have htext : s.ignoringCase.text = s.text := rfl
  have hindex : s.ignoringCase.index = s.index := rfl
  unfold advance
  simp only [StateT.run_bind, StateT.run_get, pure_bind, htext, hindex]
  split
  · rfl
  · split
    · rfl
    · rfl
  · rfl

theorem caseBlind_peek : CaseBlind peek := .get_bind (fun _ => .pure _) fun _ => rfl

theorem caseBlind_take : CaseBlind take :=
  caseBlind_peek.bind fun _ => caseBlind_advance.bind fun _ => .pure _

theorem caseBlind_accept (c : Char) : CaseBlind (accept c) :=
  caseBlind_peek.bind fun _ => .ite (caseBlind_advance.bind fun _ => .pure _) (.pure _)

theorem caseBlind_seek (index : Nat) : CaseBlind (seek index) := by
  have hmove : CaseBlind (modify fun s => { s with index := index }) := .of_modify fun _ => rfl
  exact hmove.bind fun _ => caseBlind_advance

theorem caseBlind_takeWhile (p : Char → Bool) (count : Nat) : CaseBlind (takeWhile p count) := by
  induction count with
  | zero => exact .pure _
  | succ count ih =>
    refine caseBlind_peek.bind fun token => ?_
    split
    · exact .ite (caseBlind_advance.bind fun _ => ih.bind fun _ => .pure _) (.pure _)
    · exact .pure _

theorem caseBlind_takeUntil (terminator : Char) (what : String) (taken : List Char) (fuel : Nat) :
    CaseBlind (takeUntil terminator what taken fuel) := by
  induction fuel generalizing taken with
  | zero => exact caseBlind_refuse _ _
  | succ fuel ih =>
    refine caseBlind_take.bind fun token => ?_
    split
    · exact .ite (caseBlind_refuse _ _) (caseBlind_refuse _ _)
    · exact .ite (.ite (caseBlind_refuse _ _) (.pure _)) (ih _)

theorem caseBlind_nameUntil (terminator : Char) (what : String) :
    CaseBlind (nameUntil terminator what) :=
  .get_bind (fun _ => caseBlind_takeUntil _ _ _ _) fun _ => rfl

/-! ## Groups -/

theorem caseBlind_groupCount : CaseBlind groupCount := .get_bind (fun _ => .pure _) fun _ => rfl

theorem caseBlind_isClosed (group : Nat) : CaseBlind (isClosed group) :=
  .get_bind (fun _ => .pure _) fun _ => rfl

theorem caseBlind_checkLookbehind (group : Nat) : CaseBlind (checkLookbehind group) := by
  refine .get_bind (fun s => ?_) fun _ => rfl
  split
  · exact .pure _
  · refine (caseBlind_isClosed group).bind fun closed => ?_
    exact .guard (caseBlind_refuse _ _) (.ite (caseBlind_refuse _ _) (.pure _))

theorem caseBlind_openGroup (name : Option String) : CaseBlind (openGroup name) := by
  intro s
  cases name with
  | none => rfl
  | some name =>
    have hnames : s.ignoringCase.names = s.names := rfl
    unfold openGroup
    simp only [StateT.run_bind, StateT.run_get, pure_bind, hnames]
    cases s.names.find? fun entry => entry.1 == name with
    | none => rfl
    | some entry => rfl

theorem caseBlind_closeGroup (index : Nat) (body : Node) : CaseBlind (closeGroup index body) :=
  .of_modify fun _ => rfl

/-! ## Escapes and sets -/

theorem caseBlind_hexEscape (letter : Char) (width : Nat) : CaseBlind (hexEscape letter width) := by
  refine (caseBlind_takeWhile _ _).bind fun digits => ?_
  dsimp only
  refine .ite ?_ (caseBlind_refuse _ _)
  exact .guard (.throw _) (.guard (caseBlind_refuse _ _) (.pure _))

theorem caseBlind_namedEscape : CaseBlind namedEscape := by
  refine (caseBlind_accept _).bind fun _ => ?_
  refine .guard (caseBlind_refuse _ _) ?_
  refine (caseBlind_nameUntil _ _).bind fun name => ?_
  split
  · exact .pure _
  · exact caseBlind_refuse _ _

theorem caseBlind_of_codeEscape? {c : Char} {step : Reader Nat} (h : codeEscape? c = some step) :
    CaseBlind step := by
  unfold codeEscape? at h
  repeat' split at h
  · exact Option.some.inj h ▸ caseBlind_hexEscape _ _
  · exact Option.some.inj h ▸ caseBlind_hexEscape _ _
  · exact Option.some.inj h ▸ caseBlind_hexEscape _ _
  · exact Option.some.inj h ▸ caseBlind_namedEscape
  · exact nomatch h

theorem caseBlind_plainEscape (c : Char) : CaseBlind (plainEscape c) := by
  unfold plainEscape
  exact .guard (caseBlind_refuse _ _) (.pure _)

theorem caseBlind_setEscape (c : Char) : CaseBlind (setEscape c) := by
  unfold setEscape
  split
  · exact .pure _
  · exact .pure _
  · next hread _ _ => exact (caseBlind_of_codeEscape? hread).bind fun _ => .pure _
  · refine .ite ?_ ((caseBlind_plainEscape c).bind fun _ => .pure _)
    refine (caseBlind_takeWhile _ _).bind fun digits => ?_
    exact .guard (caseBlind_refuse _ _) (.pure _)

theorem caseBlind_groupReference (digits : List Char) : CaseBlind (groupReference digits) := by
  refine caseBlind_groupCount.bind fun count => ?_
  refine .ite ?_ (caseBlind_refuse _ _)
  refine (caseBlind_isClosed _).bind fun closed => ?_
  exact .guard (caseBlind_refuse _ _) ((caseBlind_checkLookbehind _).bind fun _ => .pure _)

theorem caseBlind_digitEscape (c : Char) : CaseBlind (digitEscape c) := by
  refine caseBlind_peek.bind fun token => ?_
  split
  · refine .ite ?_ (caseBlind_groupReference _)
    refine caseBlind_advance.bind fun _ => ?_
    refine caseBlind_peek.bind fun next => ?_
    split
    · refine .ite ?_ (caseBlind_groupReference _)
      refine caseBlind_advance.bind fun _ => ?_
      exact .guard (caseBlind_refuse _ _) (.pure _)
    · exact caseBlind_groupReference _
  · exact caseBlind_groupReference _

theorem caseBlind_escape (c : Char) : CaseBlind (escape c) := by
  unfold escape
  split
  · exact .pure _
  · exact .pure _
  · exact .pure _
  · next hread _ _ _ => exact (caseBlind_of_codeEscape? hread).bind fun _ => .pure _
  · refine .ite ((caseBlind_takeWhile _ _).bind fun _ => .pure _) ?_
    exact .ite (caseBlind_digitEscape c) ((caseBlind_plainEscape c).bind fun _ => .pure _)

theorem caseBlind_setItem (token : Token) : CaseBlind (setItem token) := by
  unfold setItem
  split
  · exact caseBlind_setEscape _
  · exact .pure _
  · exact .pure _

theorem caseBlind_setItems (start : Nat) (items : List Item) (fuel : Nat) :
    CaseBlind (setItems start items fuel) := by
  induction fuel generalizing items with
  | zero => exact caseBlind_refuse _ _
  | succ fuel ih =>
    refine caseBlind_take.bind fun this => ?_
    split
    · exact caseBlind_refuseAt _ _
    · refine .ite (.pure _) ?_
      refine (caseBlind_setItem _).bind fun first => ?_
      refine (caseBlind_accept _).bind fun ranges => ?_
      refine .ite ?_ (ih _)
      refine caseBlind_take.bind fun that => ?_
      split
      · exact caseBlind_refuseAt _ _
      · refine .ite (.pure _) ?_
        refine (caseBlind_setItem _).bind fun last => ?_
        dsimp only
        split
        · exact .guard (caseBlind_refuse _ _) (ih _)
        · exact caseBlind_refuse _ _

theorem caseBlind_characterSet : CaseBlind characterSet := by
  refine caseBlind_position.bind fun here => ?_
  refine (caseBlind_accept _).bind fun negated => ?_
  refine .get_bind (fun s => ?_) fun _ => rfl
  refine (caseBlind_setItems _ _ _).bind fun items => ?_
  split
  · exact .pure _
  · exact .pure _

/-! ## Repetitions -/

theorem caseBlind_countOf (digits : List Char) : CaseBlind (countOf digits) := by
  unfold countOf
  refine .ite (.pure _) ?_
  exact .guard (.throw _) (.pure _)

theorem caseBlind_bounds? (quantifier : Char) : CaseBlind (bounds? quantifier) := by
  refine caseBlind_position.bind fun here => ?_
  refine .ite (.pure _) (.ite (.pure _) (.ite (.pure _) ?_))
  refine caseBlind_peek.bind fun token => ?_
  refine .ite (.pure _) ?_
  refine .get_bind (fun s => ?_) fun _ => rfl
  extract_lets size
  refine (caseBlind_takeWhile _ _).bind fun low => ?_
  extract_lets bounded
  have hbounded (high : List Char) : CaseBlind (bounded high) := by
    refine (caseBlind_accept _).bind fun closed => ?_
    refine .ite ((caseBlind_seek here).bind fun _ => .pure _) ?_
    refine (caseBlind_countOf low).bind fun least => ?_
    refine (caseBlind_countOf high).bind fun most => ?_
    split
    · exact .guard (caseBlind_refuseAt _ _) (.pure _)
    · exact .pure _
  refine (caseBlind_accept _).bind fun ranges => ?_
  exact .ite ((caseBlind_takeWhile _ _).bind hbounded) ((CaseBlind.pure low).bind hbounded)

theorem caseBlind_repeatItem (here least : Nat) (most : Option Nat) (item : Option Node) :
    CaseBlind (repeatItem here least most item) := by
  unfold repeatItem
  split
  · exact caseBlind_refuseAt _ _
  · refine .guard (caseBlind_refuseAt _ _) (.guard (caseBlind_refuseAt _ _) ?_)
    refine (caseBlind_accept _).bind fun lazy => ?_
    refine .ite (.pure _) ?_
    exact (caseBlind_accept _).bind fun _ => .ite (.pure _) (.pure _)

/-! ## Switches -/

theorem caseBlind_refuseFlag (token : Token) (otherwise : Cause) :
    CaseBlind (refuseFlag token otherwise : Reader α) := by
  unfold refuseFlag
  split
  · exact caseBlind_refuse _ _
  · exact caseBlind_refuse _ _

theorem caseBlind_addFlag (on : Flags) (c : Char) : CaseBlind (addFlag on c) := by
  unfold addFlag
  split
  · exact caseBlind_refuse _ _
  · exact .guard (caseBlind_refuse _ _) (.pure _)

theorem caseBlind_flagsOn (on : Flags) (c : Char) (fuel : Nat) : CaseBlind (flagsOn on c fuel) := by
  induction fuel generalizing on c with
  | zero => exact caseBlind_refuse _ _
  | succ fuel ih =>
    refine (caseBlind_addFlag on c).bind fun on => ?_
    refine caseBlind_take.bind fun token => ?_
    split
    · exact caseBlind_refuse _ _
    · exact .ite (.pure _) (.ite (ih _ _) (caseBlind_refuseFlag _ _))
    · exact caseBlind_refuseFlag _ _

theorem caseBlind_flagsOff (off : Flags) (c : Char) (fuel : Nat) :
    CaseBlind (flagsOff off c fuel) := by
  induction fuel generalizing off c with
  | zero => exact caseBlind_refuse _ _
  | succ fuel ih =>
    unfold flagsOff
    extract_lets rest
    have hrest (off : Flags) : CaseBlind (rest off) := by
      refine caseBlind_take.bind fun token => ?_
      split
      · exact caseBlind_refuse _ _
      · exact .ite (.pure _) (.ite (ih _ _) (caseBlind_refuseFlag _ _))
      · exact caseBlind_refuseFlag _ _
    split
    · exact (caseBlind_refuse _ _).bind hrest
    · exact .ite ((caseBlind_refuse _ _).bind hrest) ((CaseBlind.pure _).bind hrest)

theorem caseBlind_switches (first : Char) : CaseBlind (switches first) := by
  refine .get_bind (fun s => ?_) fun _ => rfl
  extract_lets size switched
  have hswitched (result : Flags × Char) : CaseBlind (switched result) := by
    obtain ⟨on, stop⟩ := result
    have hset : CaseBlind (modify fun s => { s with flags := s.flags.union on }) := by
      apply CaseBlind.of_modify
      intro s
      simp [Progress.ignoringCase, Flags.union]
    refine .ite (hset.bind fun _ => .pure _) ?_
    refine .guard (caseBlind_refuse _ _) ?_
    extract_lets checked
    have hchecked (off : Flags) : CaseBlind (checked off) :=
      .guard (caseBlind_refuse _ _) (.guard (caseBlind_refuse _ _) (.pure _))
    refine .ite ?_ ((CaseBlind.pure _).bind hchecked)
    refine caseBlind_take.bind fun token => ?_
    split
    · exact (caseBlind_refuse _ _).bind hchecked
    · exact .ite ((caseBlind_flagsOff _ _ _).bind hchecked)
        ((caseBlind_refuseFlag _ _).bind hchecked)
    · exact (caseBlind_refuseFlag _ _).bind hchecked
  exact .ite ((CaseBlind.pure _).bind hswitched) ((caseBlind_flagsOn _ _ _).bind hswitched)

/-! ## Comments and names -/

theorem caseBlind_skipComment (start fuel : Nat) : CaseBlind (skipComment start fuel) := by
  induction fuel with
  | zero => exact caseBlind_refuse _ _
  | succ fuel ih =>
    refine caseBlind_peek.bind fun token => ?_
    refine .guard (caseBlind_refuseAt _ _) ?_
    exact caseBlind_take.bind fun _ => .ite (.pure _) ih

theorem caseBlind_skipLine (fuel : Nat) : CaseBlind (skipLine fuel) := by
  induction fuel with
  | zero => exact .pure _
  | succ fuel ih =>
    refine caseBlind_take.bind fun token => ?_
    split
    · exact .pure _
    · exact .ite (.pure _) ih

theorem caseBlind_checkName (name : String) : CaseBlind (checkName name) :=
  .ite (caseBlind_refuse _ _) (.pure _)

theorem caseBlind_groupNamed (name : String) : CaseBlind (groupNamed name) := by
  refine .get_bind (fun s => ?_) fun _ => rfl
  split
  · exact .pure _
  · exact caseBlind_refuse _ _

theorem caseBlind_namedReference : CaseBlind namedReference := by
  refine (caseBlind_nameUntil _ _).bind fun name => ?_
  refine (caseBlind_checkName name).bind fun _ => ?_
  refine (caseBlind_groupNamed name).bind fun group => ?_
  refine (caseBlind_isClosed group).bind fun closed => ?_
  exact .guard (caseBlind_refuse _ _) ((caseBlind_checkLookbehind _).bind fun _ => .pure _)

theorem caseBlind_conditionGroup : CaseBlind conditionGroup := by
  refine (caseBlind_nameUntil _ _).bind fun name => ?_
  extract_lets known
  have hknown (group : Nat) : CaseBlind (known group) :=
    (caseBlind_checkLookbehind group).bind fun _ => .pure _
  refine .ite ((caseBlind_groupNamed name).bind hknown) ?_
  split
  · next group hgroup =>
    refine .guard (caseBlind_refuse _ _) (.guard (caseBlind_refuse _ _) ?_)
    refine caseBlind_position.bind fun place => ?_
    refine .bind (.of_modify ?_) fun _ => (CaseBlind.pure group).bind hknown
    intro s
    by_cases hasked : (s.conditions.any fun entry => entry.1 == group) = true
    · simp [Progress.ignoringCase, hasked]
    · simp [Progress.ignoringCase, hasked]
  · exact (caseBlind_refuse _ _).bind hknown

theorem caseBlind_closeParenthesis (start : Nat) : CaseBlind (closeParenthesis start) :=
  (caseBlind_accept _).bind fun _ => .ite (caseBlind_refuseAt _ _) (.pure _)

/-! ## Groups and sequences -/

theorem caseBlind_extendedOpening : CaseBlind extendedOpening := by
  refine (caseBlind_accept _).bind fun named => ?_
  refine .ite ?_ ?_
  · refine (caseBlind_nameUntil _ _).bind fun name => ?_
    exact (caseBlind_checkName name).bind fun _ => .pure _
  · refine (caseBlind_accept _).bind fun refers => ?_
    refine .ite (caseBlind_namedReference.bind fun _ => .pure _) ?_
    refine caseBlind_take.bind fun token => ?_
    split
    · exact caseBlind_refuse _ _
    · exact caseBlind_refuse _ _

theorem caseBlind_opening (start : Nat) : CaseBlind (opening start) := by
  refine (caseBlind_accept _).bind fun extended => ?_
  refine .ite (.pure _) ?_
  refine caseBlind_take.bind fun token => ?_
  split
  · exact caseBlind_refuse _ _
  · refine .ite caseBlind_extendedOpening ?_
    refine .ite (.pure _) (.ite (.pure _) (.ite (.pure _) (.ite (.pure _) ?_)))
    refine .ite (caseBlind_conditionGroup.bind fun _ => .pure _) ?_
    refine .ite (.get_bind (fun s => (caseBlind_skipComment _ _).bind fun _ => .pure _) fun _ =>
      rfl) ?_
    refine .ite ?_ (.ite ?_ (caseBlind_refuse _ _))
    · refine caseBlind_take.bind fun token => ?_
      split
      · exact caseBlind_refuse _ _
      · exact .ite (.pure _) (.ite (.pure _) (caseBlind_refuse _ _))
    · refine (caseBlind_switches _).bind fun switched => ?_
      split
      · exact .pure _
      · exact .pure _
  · exact caseBlind_refuse _ _

/-- Alternatives, sequences and the rest of groups go the same way with some fuel when case is
ignored. -/
structure BlindWithin (fuel : Nat) : Prop where
  alternatives :
    ∀ verbose outermost earlier, CaseBlind (alternatives verbose outermost earlier fuel)
  sequence : ∀ verbose first items, CaseBlind (sequence verbose first items fuel)
  groupBody : ∀ verbose start kind, CaseBlind (groupBody verbose start kind fuel)

namespace BlindWithin

variable {fuel : Nat} (h : BlindWithin fuel)

include h

theorem alternatives_succ (verbose outermost : Bool) (earlier : List Node) :
    CaseBlind (Reader.alternatives verbose outermost earlier (fuel + 1)) := by
  rw [Reader.alternatives]
  refine (h.sequence _ _ _).bind fun items => ?_
  extract_lets branches
  refine (caseBlind_accept _).bind fun more => .ite ?_ (.pure _)
  exact .get_bind (fun s => h.alternatives _ _ _) fun _ => rfl

theorem repetition (verbose first : Bool) (items : List Node) (c : Char) :
    CaseBlind (do
      let here ← position
      match ← bounds? c with
      | none => Reader.sequence verbose first (.literal false c.toNat :: items) fuel
      | some (least, most) =>
        let node ← repeatItem here least most items.head?
        Reader.sequence verbose first (node :: items.tail) fuel) := by
  refine caseBlind_position.bind fun here => (caseBlind_bounds? c).bind fun bounds => ?_
  cases bounds with
  | none => exact h.sequence _ _ _
  | some range => exact (caseBlind_repeatItem _ _ _ _).bind fun _ => h.sequence _ _ _

theorem parenthesis (verbose first : Bool) (items : List Node) :
    CaseBlind (do
      let start := (← position) - 1
      match ← opening start with
      | .global =>
        if !first || !items.isEmpty then refuseAt .lateFlags start
        let s ← get
        Reader.sequence s.flags.verbose first items fuel
      | .comment => Reader.sequence verbose first items fuel
      | .reference node => Reader.sequence verbose first (node :: items) fuel
      | kind =>
        Reader.sequence verbose first ((← Reader.groupBody verbose start kind fuel) :: items)
          fuel) := by
  refine caseBlind_position.bind fun here => (caseBlind_opening _).bind fun opened => ?_
  cases opened with
  | global =>
    refine .guard (caseBlind_refuseAt _ _) ?_
    exact .get_bind (fun s => h.sequence _ _ _) fun _ => rfl
  | comment | reference => exact h.sequence _ _ _
  | capture | plain | atomic | switched | look | condition =>
    exact (h.groupBody _ _ _).bind fun _ => h.sequence _ _ _

theorem sequence_succ (verbose first : Bool) (items : List Node) :
    CaseBlind (Reader.sequence verbose first items (fuel + 1)) := by
  rw [Reader.sequence]
  refine caseBlind_peek.bind fun token => ?_
  split
  · exact .pure _
  · refine .ite (.pure _) (caseBlind_advance.bind fun _ => ?_)
    split
    · exact .ite ((caseBlind_escape _).bind fun _ => h.sequence _ _ _) (h.sequence _ _ _)
    · refine .ite (h.sequence _ _ _) ?_
      refine .ite (.get_bind (fun s => (caseBlind_skipLine _).bind fun _ =>
        h.sequence _ _ _) fun _ => rfl) ?_
      refine .ite (caseBlind_characterSet.bind fun _ => h.sequence _ _ _) ?_
      refine .ite (h.repetition verbose first items _) ?_
      refine .ite (h.sequence _ _ _) (.ite (h.sequence _ _ _) (.ite (h.sequence _ _ _) ?_))
      exact .ite (h.parenthesis verbose first items) (h.sequence _ _ _)
    · exact h.sequence _ _ _

theorem enclosed (verbose : Bool) (start : Nat) (wrap : Node → Node) :
    CaseBlind (do
      let body ← Reader.alternatives verbose false [] fuel
      closeParenthesis start
      return wrap body) :=
  (h.alternatives _ _ _).bind fun _ => (caseBlind_closeParenthesis start).bind fun _ => .pure _

theorem capture (verbose : Bool) (start : Nat) (name : Option String) :
    CaseBlind (Reader.groupBody verbose start (.capture name) (fuel + 1)) := by
  rw [Reader.groupBody]
  refine (caseBlind_openGroup name).bind fun index => (h.alternatives _ _ _).bind fun body => ?_
  refine (caseBlind_closeParenthesis start).bind fun _ => ?_
  exact (caseBlind_closeGroup index body).bind fun _ => .pure _

theorem look (verbose : Bool) (start : Nat) (behind negated : Bool) :
    CaseBlind (Reader.groupBody verbose start (.look behind negated) (fuel + 1)) := by
  rw [Reader.groupBody]
  refine .get_bind (fun s => ?_) fun _ => rfl
  extract_lets outer read
  have hread : CaseBlind (read ()) := by
    refine (h.alternatives _ _ _).bind fun body => ?_
    extract_lets closed
    have hclosed : CaseBlind (closed ()) := by
      refine (caseBlind_closeParenthesis start).bind fun _ => ?_
      exact .ite (.get_bind (fun s => .pure _) fun _ => rfl) (.pure _)
    have hleave : CaseBlind (modify fun s => { s with lookbehind := none }) :=
      .of_modify fun _ => rfl
    exact .guard hleave hclosed
  refine .ite (caseBlind_groupCount.bind fun count => ?_) hread
  have henter : CaseBlind (modify fun s => { s with lookbehind := some count }) :=
    .of_modify fun _ => rfl
  exact henter.bind fun _ => hread

theorem condition (verbose : Bool) (start group : Nat) :
    CaseBlind (Reader.groupBody verbose start (.condition group) (fuel + 1)) := by
  rw [Reader.groupBody]
  refine (h.sequence _ _ _).bind fun yes => ?_
  extract_lets closed
  have hclosed (no : Node) : CaseBlind (closed no) :=
    (caseBlind_closeParenthesis start).bind fun _ => .pure _
  refine (caseBlind_accept _).bind fun more => .ite ?_ ((CaseBlind.pure _).bind hclosed)
  refine (h.sequence _ _ _).bind fun no => caseBlind_peek.bind fun token => ?_
  exact .guard (caseBlind_refuse _ _) ((CaseBlind.pure _).bind hclosed)

theorem groupBody_succ (verbose : Bool) (start : Nat) (kind : Opening) :
    CaseBlind (Reader.groupBody verbose start kind (fuel + 1)) := by
  cases kind with
  | capture name => exact h.capture verbose start name
  | look behind negated => exact h.look verbose start behind negated
  | condition group => exact h.condition verbose start group
  | plain | atomic | switched =>
    rw [Reader.groupBody]
    exact h.enclosed _ start _
  | reference | comment | global =>
    rw [Reader.groupBody]
    exact .pure _

end BlindWithin

/-- Alternatives, sequences and the rest of groups are read in turns, each with less fuel than
before. -/
theorem blindWithin (fuel : Nat) : BlindWithin fuel := by
  induction fuel with
  | zero => exact ⟨fun _ _ _ => caseBlind_refuse _ _, fun _ _ _ =>
    caseBlind_refuse _ _, fun _ _ _ => caseBlind_refuse _ _⟩
  | succ fuel ih => exact ⟨ih.alternatives_succ, ih.sequence_succ, ih.groupBody_succ⟩

theorem caseBlind_wholePattern (flags : Flags) : CaseBlind (wholePattern flags) := by
  refine caseBlind_advance.bind fun _ => ?_
  refine .get_bind (fun s => ?_) fun _ => rfl
  refine ((blindWithin _).alternatives _ _ _).bind fun root => ?_
  refine .get_bind (fun s => ?_) fun _ => rfl
  refine .guard (.throw _) (.guard (caseBlind_refuse _ _) ?_)
  split
  · exact caseBlind_refuseAt _ _
  · exact .pure _

end Reader

end MailTriage.Pattern

namespace MailTriage

open Pattern

def Pattern.ignoringCase (pattern : Pattern) : Pattern :=
  { pattern with flags := { pattern.flags with ignoreCase := true } }

/-- Reading a pattern with case ignored refuses what reading it otherwise refuses, and gives the
same tree. -/
theorem Pattern.read_true (text : String) :
    Pattern.read text true = (Pattern.read text false).map ignoringCase := by
  have hblind : (Reader.wholePattern { ignoreCase := true }).run
        { text := text.toList.toArray, flags := { ignoreCase := true } } =
      ((Reader.wholePattern { ignoreCase := false }).run { text := text.toList.toArray }).map
        fun result => (result.1, result.2.ignoringCase) :=
    Reader.caseBlind_wholePattern {} { text := text.toList.toArray }
  unfold Pattern.read
  simp only [hblind]
  cases (Reader.wholePattern { ignoreCase := false }).run { text := text.toList.toArray } with
  | error refusal => rfl
  | ok result =>
    obtain ⟨root, s⟩ := result
    have htemplate : s.ignoringCase.flags.template = s.flags.template := rfl
    have hascii : s.ignoringCase.flags.ascii = s.flags.ascii := rfl
    simp only [Except.map, htemplate, hascii]
    cases root.objection? s.flags.template with
    | some cause => rfl
    | none =>
      cases hflags : s.flags.ascii with
      | false => simp [hflags, ignoringCase, Progress.ignoringCase]
      | true => simp [hflags, ignoringCase, Progress.ignoringCase]

end MailTriage

import MailTriage.Proofs.Json.Number
import MailTriage.Proofs.Outcome
import MailTriage.Proofs.Template.Sources

/-!
# Tokens are replaced where they stand

A token is a dollar sign and braces around a body without braces, so two tokens of a text never
share a sign. A template is read from left to right: what stands before the first token is copied,
the token is replaced, and the reading goes on behind it. What a token is replaced by is not read
again, and two templates that are put together without making a token at the joint give their two
texts put together.
-/

namespace MailTriage

namespace Template

/-- A text that may stand between the braces of a token. -/
def IsBody (body : List Char) : Prop := '\x7b' ∉ body ∧ '\x7d' ∉ body

instance (body : List Char) : Decidable (IsBody body) :=
  inferInstanceAs (Decidable ('\x7b' ∉ body ∧ '\x7d' ∉ body))

def written (body : List Char) : List Char := '$' :: '\x7b' :: (body ++ ['\x7d'])

/-- A token in a text: what stands before it, its body, and what stands after it. -/
structure HoldsToken (text before body after : List Char) : Prop where
  isBody : IsBody body
  split : text = before ++ written body ++ after

/-! ## Reading one token -/

theorem tokenBody?_append {body : List Char} (h : IsBody body) (after : List Char) :
    tokenBody? (body ++ '\x7d' :: after) = some (body, after) := by
  induction body with
  | nil => simp [tokenBody?]
  | cons c rest ih =>
    obtain ⟨hopen, hclose⟩ := h
    simp only [List.mem_cons, not_or] at hopen hclose
    simp [tokenBody?, Ne.symm hopen.1, Ne.symm hclose.1, ih ⟨hopen.2, hclose.2⟩]

theorem of_tokenBody?_eq_some {cs body after : List Char} (h : tokenBody? cs = some (body, after)) :
    IsBody body ∧ cs = body ++ '\x7d' :: after := by
  induction cs generalizing body with
  | nil => simp [tokenBody?] at h
  | cons c rest ih =>
    rw [tokenBody?] at h
    split at h
    · next hclose =>
      simp only [Option.some.injEq, Prod.mk.injEq] at h
      obtain ⟨rfl, rfl⟩ := h
      simp [IsBody, hclose]
    · next hclose =>
      split at h
      · simp at h
      · next hopen =>
        obtain ⟨⟨body', after'⟩, hrest, heq⟩ := Option.map_eq_some_iff.mp h
        simp only [Prod.mk.injEq] at heq
        obtain ⟨rfl, rfl⟩ := heq
        obtain ⟨⟨hnotOpen, hnotClose⟩, rfl⟩ := ih hrest
        simp [IsBody, Ne.symm hopen, Ne.symm hclose, hnotOpen, hnotClose]

theorem pieces_token {body : List Char} (h : IsBody body) (after : List Char) :
    pieces (written body ++ after) = .token body :: pieces after := by
  have hwritten : written body ++ after = '$' :: '\x7b' :: (body ++ '\x7d' :: after) := by
    simp [written]
  rw [hwritten, pieces, if_pos ⟨rfl, rfl⟩]
  split
  · next hsome =>
    rw [tokenBody?_append h] at hsome
    simp only [Option.some.injEq, Prod.mk.injEq] at hsome
    obtain ⟨rfl, rfl⟩ := hsome
    rfl
  · next hnone => simp [tokenBody?_append h] at hnone

theorem pieces_cons {c : Char} {rest : List Char}
    (h : ∀ body after, ¬ HoldsToken (c :: rest) [] body after) :
    pieces (c :: rest) = .plain c :: pieces rest := by
  cases rest with
  | nil => simp [pieces]
  | cons d rest =>
    rw [pieces]
    split
    · next hopening =>
      split
      · next body after hbody =>
        obtain ⟨hisBody, rfl⟩ := of_tokenBody?_eq_some hbody
        exact absurd ⟨hisBody, by simp [written, hopening]⟩ (h body after)
      · rfl
    · rfl

/-! ## Where tokens stand -/

namespace HoldsToken

variable {text before body after : List Char}

theorem append_left (h : HoldsToken text before body after) (front : List Char) :
    HoldsToken (front ++ text) (front ++ before) body after :=
  ⟨h.isBody, by rw [h.split]; simp⟩

theorem opening (h : HoldsToken text before body after) :
    ['$', '\x7b'] <+: text.drop before.length := by
  rw [h.split, List.append_assoc, List.drop_left]
  exact ⟨body ++ '\x7d' :: after, by simp [written]⟩

theorem closing_mem (h : HoldsToken text before body after) : '\x7d' ∈ text := by
  simp [h.split, written]

theorem eq_of_length {before' body' after' : List Char} (h : HoldsToken text before body after)
    (h' : HoldsToken text before' body' after') (hlength : before.length = before'.length) :
    before = before' ∧ body = body' ∧ after = after' := by
  have hsplit := h.split.symm.trans h'.split
  rw [List.append_assoc, List.append_assoc] at hsplit
  obtain ⟨hbefore, hrest⟩ := List.append_inj hsplit hlength
  have hbody := tokenBody?_append h.isBody after
  rw [show body ++ '\x7d' :: after = body' ++ '\x7d' :: after' by simpa [written] using hrest,
    tokenBody?_append h'.isBody] at hbody
  simp only [Option.some.injEq, Prod.mk.injEq] at hbody
  exact ⟨hbefore, hbody.1.symm, hbody.2.symm⟩

end HoldsToken

/-- Two texts make a token at their joint: it begins in the first and ends in the second. -/
def Straddled (first second : List Char) : Prop :=
  ∃ before body after, HoldsToken (first ++ second) before body after ∧
    before.length < first.length ∧ first.length < before.length + (written body).length

theorem Straddled.append_left {first second : List Char} (h : Straddled first second)
    (front : List Char) :
    Straddled (front ++ first) second := by
  obtain ⟨before, body, after, htoken, hbegins, hends⟩ := h
  refine ⟨front ++ before, body, after, ?_, ?_, ?_⟩
  · rw [List.append_assoc]
    exact htoken.append_left front
  · simpa using hbegins
  · simp only [List.length_append]
    omega

/-- A token that the first of two texts does not begin with is not made by adding the second. -/
theorem not_holdsToken_append {c : Char} {rest second : List Char}
    (hjoint : ¬ Straddled (c :: rest) second)
    (h : ∀ body after, ¬ HoldsToken (c :: rest) [] body after) (body after : List Char) :
    ¬ HoldsToken (c :: rest ++ second) [] body after := by
  intro htoken
  have hsplit : c :: rest ++ second = written body ++ after := htoken.split
  rcases List.append_eq_append_iff.mp hsplit with ⟨more, hmore, -⟩ | ⟨more, hmore, -⟩
  · by_cases hempty : more = []
    · exact h body [] ⟨htoken.isBody, by simpa [hempty] using hmore.symm⟩
    · refine hjoint ⟨[], body, after, htoken, by simp, ?_⟩
      have hlength := congrArg List.length hmore
      have hpos := List.length_pos_iff.mpr hempty
      simp only [List.length_append, List.length_nil] at hlength ⊢
      omega
  · exact h body more ⟨htoken.isBody, hmore⟩

/-! ## Pieces of templates -/

theorem pieces_nil : pieces [] = [] := by simp [pieces]

theorem pieces_append_of_first {front rest : List Char}
    (h : ∀ before body after,
      HoldsToken (front ++ rest) before body after → front.length ≤ before.length) :
    pieces (front ++ rest) = front.map .plain ++ pieces rest := by
  induction front with
  | nil => rfl
  | cons c front ih =>
    have hhead : ∀ body after, ¬ HoldsToken (c :: (front ++ rest)) [] body after := by
      intro body after htoken
      simpa using h [] body after htoken
    have htail : ∀ before body after, HoldsToken (front ++ rest) before body after →
        front.length ≤ before.length := by
      intro before body after htoken
      simpa using h _ body after (htoken.append_left [c])
    rw [List.cons_append, pieces_cons hhead, ih htail, List.map_cons, List.cons_append]

/-- Templates that make no token at their joint are read one after the other. -/
theorem pieces_append {first second : List Char} (h : ¬ Straddled first second) :
    pieces (first ++ second) = pieces first ++ pieces second := by
  induction hlength : first.length using Nat.strong_induction_on generalizing first with
  | _ length ih =>
  cases first with
  | nil => simp [pieces_nil]
  | cons c rest =>
    by_cases hhead : ∃ body after, HoldsToken (c :: rest) [] body after
    · obtain ⟨body, after, hisBody, hsplit⟩ := hhead
      rw [List.nil_append] at hsplit
      rw [hsplit] at h hlength ⊢
      have hshorter : after.length < length := by
        simp only [← hlength, written, List.length_append, List.length_cons]
        omega
      have hafter := ih after.length hshorter (fun hjoint => h (hjoint.append_left _)) rfl
      rw [List.append_assoc, pieces_token hisBody, pieces_token hisBody, hafter, List.cons_append]
    · simp only [not_exists] at hhead
      have hjoined : ∀ body after, ¬ HoldsToken (c :: (rest ++ second)) [] body after :=
        not_holdsToken_append h hhead
      have hrest :=
        ih rest.length (by simp [← hlength]) (fun hjoint => h (hjoint.append_left [c])) rfl
      rw [List.cons_append, pieces_cons hjoined, hrest, pieces_cons hhead, List.cons_append]

/-! ## Texts of pieces -/

variable {view : Fields}

theorem joinTexts_append (texts others : List (Except Json.WriteFault (List Char))) :
    joinTexts (texts ++ others) =
      joinTexts texts >>= fun front => joinTexts others >>= fun back => .ok (front ++ back) := by
  induction texts with
  | nil => cases h : joinTexts others <;> simp [joinTexts, bind, Except.bind, h]
  | cons text rest ih =>
    rw [List.cons_append, joinTexts, joinTexts, ih]
    cases text <;> cases joinTexts rest <;> cases joinTexts others <;> simp [bind, Except.bind]

theorem joinTexts_plain (text : List Char) :
    joinTexts ((text.map Piece.plain).map (Piece.render view)) = .ok text := by
  induction text with
  | nil => rfl
  | cons c rest ih =>
    rw [List.map_cons, List.map_cons, joinTexts, ih]
    rfl

theorem joinTexts_map {α : Type} (f : α → Except Json.WriteFault (List Char)) (items : List α) :
    joinTexts (items.map f) = (items.mapM f).map List.flatten := by
  induction items with
  | nil => rfl
  | cons item rest ih =>
    rw [List.map_cons, joinTexts, List.mapM_cons, ih]
    cases f item <;> cases rest.mapM f <;> rfl

theorem expand_append {first second : List Char} (h : ¬ Straddled first second) :
    expand view (first ++ second) =
      expand view first >>= fun front => expand view second >>=
        fun back => .ok (front ++ back) := by
  rw [expand, pieces_append h, List.map_append, joinTexts_append]
  rfl

/-! ## Reading a template -/

/-- A stretch of a template: text that is copied, or a token. -/
inductive Segment
  | plain (text : List Char)
  | token (body : List Char)

/-- What a stretch shows: itself, or the text of the token. -/
def Segment.render (view : Fields) : Segment → Except Json.WriteFault (List Char)
  | plain text => .ok text
  | token body => tokenText view body

def Segment.pieces : Segment → List Piece
  | plain text => text.map .plain
  | token body => [.token body]

theorem Segment.joinTexts_pieces (segment : Segment) :
    joinTexts (segment.pieces.map (Piece.render view)) = segment.render view := by
  cases segment with
  | plain text => exact joinTexts_plain text
  | token body => exact joinTexts_one _

/-- How a template is read: up to the first token in it, then the token, then what stands behind the
token in the same way. -/
inductive ReadAs : List Char → List Segment → Prop
  | rest {text : List Char} (h : ∀ before body after, ¬ HoldsToken text before body after) :
    ReadAs text [.plain text]
  | token {text before body after : List Char} {segments : List Segment}
    (h : HoldsToken text before body after)
    (hfirst : ∀ before' body' after',
      HoldsToken text before' body' after' → before.length ≤ before'.length)
    (hafter : ReadAs after segments) : ReadAs text (.plain before :: .token body :: segments)

theorem exists_readAs (text : List Char) : ∃ segments, ReadAs text segments := by
  induction hlength : text.length using Nat.strong_induction_on generalizing text with
  | _ length ih =>
  by_cases hnone : ∀ before body after, ¬ HoldsToken text before body after
  · exact ⟨_, .rest hnone⟩
  · -- the first token is the one with the least before it
    classical
    have hsome : ∃ place, ∃ before body after,
        HoldsToken text before body after ∧ before.length = place := by
      simp only [not_forall, not_not] at hnone
      obtain ⟨before, body, after, h⟩ := hnone
      exact ⟨_, before, body, after, h, rfl⟩
    obtain ⟨before, body, after, h, hplace⟩ := Nat.find_spec hsome
    have hfirst : ∀ before' body' after', HoldsToken text before' body' after' →
        before.length ≤ before'.length := by
      intro before' body' after' h'
      rw [hplace]
      exact Nat.find_min' hsome ⟨before', body', after', h', rfl⟩
    have hshorter : after.length < length := by
      simp only [← hlength, h.split, written, List.length_append, List.length_cons]
      omega
    obtain ⟨segments, hafter⟩ := ih after.length hshorter after rfl
    exact ⟨_, .token h hfirst hafter⟩

theorem ReadAs.eq {text : List Char} {segments segments' : List Segment} (h : ReadAs text segments)
    (h' : ReadAs text segments') : segments = segments' := by
  induction h generalizing segments' with
  | rest hnone =>
    cases h' with
    | rest => rfl
    | token htoken => exact absurd htoken (hnone _ _ _)
  | token htoken hfirst _ ih =>
    cases h' with
    | rest hnone => exact absurd htoken (hnone _ _ _)
    | token htoken' hfirst' hafter' =>
      have hplace := Nat.le_antisymm (hfirst _ _ _ htoken') (hfirst' _ _ _ htoken)
      obtain ⟨rfl, rfl, rfl⟩ := htoken.eq_of_length htoken' hplace
      rw [ih hafter']

theorem ReadAs.pieces_eq {text : List Char} {segments : List Segment} (h : ReadAs text segments) :
    pieces text = segments.flatMap Segment.pieces := by
  induction h with
  | @rest text hnone =>
    have hcopied : pieces (text ++ []) = text.map .plain ++ pieces [] :=
      pieces_append_of_first fun before body after htoken =>
        absurd (by simpa using htoken) (hnone before body after)
    simpa [pieces_nil, Segment.pieces] using hcopied
  | @token text before body after segments htoken hfirst hafter ih =>
    have hsplit := htoken.split
    rw [List.append_assoc] at hsplit
    rw [hsplit] at hfirst ⊢
    rw [pieces_append_of_first hfirst, pieces_token htoken.isBody, ih]
    simp [Segment.pieces]

theorem ReadAs.expand_eq {text : List Char} {segments : List Segment} (h : ReadAs text segments) :
    expand view text = joinTexts (segments.map (Segment.render view)) := by
  rw [expand, h.pieces_eq]
  clear h
  induction segments with
  | nil => rfl
  | cons segment rest ih =>
    rw [List.flatMap_cons, List.map_append, joinTexts_append, ih, segment.joinTexts_pieces]
    rfl

/-! ## Values that can be written -/

theorem exists_firstNonEmpty {texts : List (Except Json.WriteFault (List Char))}
    (h : ∀ result ∈ texts, ∃ text, result = .ok text) : ∃ text, firstNonEmpty texts = .ok text := by
  induction texts with
  | nil => exact ⟨[], rfl⟩
  | cons result rest ih =>
    obtain ⟨⟨text, rfl⟩, hrest⟩ := List.forall_mem_cons.mp h
    by_cases hempty : text.isEmpty = true
    · simpa [firstNonEmpty, bind, Except.bind, hempty] using ih hrest
    · exact ⟨text, by simp [firstNonEmpty, bind, Except.bind, hempty]⟩

theorem isWritable_of_mem_members {v w : Value} (h : Json.isWritable v = true)
    (hw : w ∈ v.members) :
    Json.isWritable w = true := by
  cases v with
  | object fields =>
    obtain ⟨entry, hentry, rfl⟩ := List.mem_map.mp hw
    exact Json.membersWritable_iff.mp h entry hentry
  | list items => exact Json.allWritable_iff.mp h w hw
  | null | bool | int | float | text => exact nomatch hw

theorem isWritable_walk {v : Value} (h : Json.isWritable v = true) (path : List Char) :
    Json.isWritable (walk v path) = true :=
  walk_of_members (P := fun v => Json.isWritable v = true) rfl
    (fun _ hv _ hw => isWritable_of_mem_members hv hw) h path

theorem exists_tokenText (h : ∀ path, Json.isWritable (walk (.object view) path) = true)
    (body : List Char) :
    ∃ text, tokenText view body = .ok text := by
  refine exists_firstNonEmpty fun result hresult => ?_
  obtain ⟨alternative, -, rfl⟩ := List.mem_map.mp hresult
  unfold alternativeText
  dsimp only
  split
  · exact ⟨_, rfl⟩
  · split
    · exact ⟨_, rfl⟩
    · rw [Value.display, if_pos (h _)]
      exact ⟨_, rfl⟩

end Template

/-- A template is read once, from left to right: what stands outside of its tokens is copied, and in
place of each token stands the text that its body has in the context. It has a text when all its
tokens have one, which they do when the context can be written. Putting templates together puts
their texts together, unless a token is made at the joint. -/
theorem Context.resolve_onePass (context : Context) (bindings : Fields) :
    (∀ template : String, (∃! segments, Template.ReadAs template.toList segments) ∧
      ∀ segments, Template.ReadAs template.toList segments →
        context.resolve bindings template =
            (segments.mapM (Template.Segment.render (context.view bindings))).map
              (fun texts => String.ofList texts.flatten) ∧
          ((∃ text, context.resolve bindings template = .ok text) ↔
            ∀ segment ∈ segments, ∃ text, segment.render (context.view bindings) = .ok text)) ∧
    (∀ first second : String, ¬ Template.Straddled first.toList second.toList →
      context.resolve bindings (first ++ second) = do
        let front ← context.resolve bindings first
        let back ← context.resolve bindings second
        return front ++ back) ∧
    (Json.isWritable (.object (context.view bindings)) = true → ∀ template : String,
      ∃ text, context.resolve bindings template = .ok text) := by
  have hread : ∀ (template : String) (segments), Template.ReadAs template.toList segments →
      context.resolve bindings template =
        (segments.mapM (Template.Segment.render (context.view bindings))).map
          (fun texts => String.ofList texts.flatten) := by
    intro template segments h
    rw [Context.resolve, h.expand_eq, Template.joinTexts_map]
    cases segments.mapM (Template.Segment.render (context.view bindings)) <;> rfl
  refine ⟨?_, ?_, ?_⟩
  · intro template
    constructor
    · obtain ⟨segments, h⟩ := Template.exists_readAs template.toList
      exact ⟨segments, h, fun _ h' => h'.eq h⟩
    · intro segments h
      rw [hread template segments h, exists_map_eq_ok_iff, exists_mapM_eq_ok_iff]
      exact ⟨rfl, .rfl⟩
  · intro first second hjoint
    rw [Context.resolve, Context.resolve, Context.resolve, String.toList_append,
      Template.expand_append hjoint]
    cases Template.expand (context.view bindings) first.toList <;>
      cases Template.expand (context.view bindings) second.toList <;>
      simp [bind, Except.bind, Except.map, pure, Except.pure]
  · intro hwritable template
    obtain ⟨segments, h⟩ := Template.exists_readAs template.toList
    rw [hread template segments h, exists_map_eq_ok_iff, exists_mapM_eq_ok_iff]
    intro segment _
    cases segment with
    | plain text => exact ⟨text, rfl⟩
    | token body => exact Template.exists_tokenText (Template.isWritable_walk hwritable) body

def Email.quotingToken : Email := { id := "m", subject := "$\x7bvariables.secret\x7d" }

theorem Context.resolve_onePass_quotingToken :
    Template.ReadAs "Re: $".toList [.plain "Re: $".toList] ∧
    Template.ReadAs "$\x7bemail.subject\x7d! $\x7b".toList
      [.plain [], .token "email.subject".toList, .plain "! $\x7b".toList] ∧
    ¬ Template.Straddled "Re: $".toList "$\x7bemail.subject\x7d! $\x7b".toList ∧
    (Context.resolve { email := .quotingToken } [("secret", .text "hidden")]
      ("Re: $" ++ "$\x7bemail.subject\x7d! $\x7b") = .ok "Re: $$\x7bvariables.secret\x7d! $\x7b") ∧
    ∀ template : String, ∃ text,
      Context.resolve { email := .quotingToken } [("secret", .text "hidden")] template =
        .ok text := by
  have hfront : Template.ReadAs "Re: $".toList [.plain "Re: $".toList] :=
    .rest fun before body after htoken => absurd htoken.closing_mem (by decide)
  have hback : Template.ReadAs "$\x7bemail.subject\x7d! $\x7b".toList
      [.plain [], .token "email.subject".toList, .plain "! $\x7b".toList] := by
    have htoken :
        Template.HoldsToken "$\x7bemail.subject\x7d! $\x7b".toList [] "email.subject".toList
        "! $\x7b".toList := ⟨by decide, by decide⟩
    refine .token htoken (fun _ _ _ _ => Nat.zero_le _) ?_
    exact .rest fun before body after htoken => absurd htoken.closing_mem (by decide)
  have hjoint : ¬ Template.Straddled "Re: $".toList "$\x7bemail.subject\x7d! $\x7b".toList := by
    rintro ⟨before, body, after, htoken, hbegins, -⟩
    have hopening : ∀ place < 5, ¬ ['$', '\x7b'] <+:
        ("Re: $".toList ++ "$\x7bemail.subject\x7d! $\x7b".toList).drop place := by decide
    exact hopening _ hbegins htoken.opening
  obtain ⟨hread, happend, hwritable⟩ :=
    Context.resolve_onePass { email := .quotingToken } [("secret", .text "hidden")]
  refine ⟨hfront, hback, hjoint, ?_, hwritable (by decide +kernel)⟩
  rw [happend _ _ hjoint, ((hread _).2 _ hfront).1, ((hread _).2 _ hback).1]
  decide +kernel

end MailTriage

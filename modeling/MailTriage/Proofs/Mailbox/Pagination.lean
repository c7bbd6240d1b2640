import MailTriage.Proofs.Office.Simulation

/-!
# Messages page by page

A service lists the messages of a mailbox page by page: an answer brings at least one message when
any remain, no more than were asked for, and a token that asks for what remains. Any request may
fail. Fetching the pages one after the other ends, and brings the messages from the first one on,
none left out and none twice: as many as are wanted when no request fails, and otherwise those of
the pages before the request that failed.
-/

namespace MailTriage

variable {σ : Type}

/-- A request to a mailbox service, and how it was answered. -/
structure Exchange where
  request : MailRequest
  answer : Option Value

/-- The messages that an answer brings; none when the request failed. -/
def Exchange.messages (exchange : Exchange) : List Value :=
  match exchange.answer.map MessagePage.ofAnswer with
  | some (.ok ⟨.list messages, _⟩) => messages
  | _ => []

theorem Exchange.messages_eq_nil {exchange : Exchange} (h : exchange.answer = none) :
    exchange.messages = [] := by
  rw [messages, h]
  rfl

theorem Exchange.messages_of_ofAnswer {request : MailRequest} {value token : Value}
    {part : List Value} (h : MessagePage.ofAnswer value = .ok ⟨.list part, token⟩) :
    Exchange.messages ⟨request, some value⟩ = part := by
  rw [messages, Option.map_some, h]

/-- An answer that brings part of the messages that are due, when at most `limit` are asked for, and
tells by its token whether any are left. -/
structure IsPage (limit : Option Int) (answer : Value) (rest part left : List Value)
    (following : Value) : Prop where
  holds : MessagePage.ofAnswer answer = .ok ⟨.list part, following⟩
  inOrder : rest = part ++ left
  some_of_rest : rest ≠ [] → part ≠ []
  within : ∀ n ∈ limit, (part.length : Int) ≤ n
  isVoid_iff : following.isVoid = true ↔ left = []

namespace MailService

def journaled (service : MailService σ) : MailService (σ × List Exchange) :=
  fun request (s, past) =>
  let (answer, next) := service request s
  (answer, next, past ++ [⟨request, answer⟩])

theorem journaled_eq {service : MailService σ} {request : MailRequest} {s next : σ}
    {answer : Option Value} (h : service request s = (answer, next)) (past : List Exchange) :
    service.journaled request (s, past) = (answer, next, past ++ [⟨request, answer⟩]) := by
  rw [journaled, h]

theorem mirrors_journaled (service : MailService σ) :
    Mirrors MailRequest.IsListing (fun image s => image.1 = s) service.journaled service where
  answer := by
    rintro ⟨s, past⟩ _ rfl request -
    exact ⟨rfl, rfl⟩

/-- A service that lists messages page by page. In a state, a page token is due for the messages
that it asks for. -/
structure Pages (service : MailService σ) (query : Option String)
    (due : σ → Value → List Value → Prop) : Prop where
  answer : ∀ {s token rest limit value next}, due s token rest → (∀ n ∈ limit, (0 : Int) < n) →
    service (.list query limit token) s = (some value, next) →
    ∃ part left following,
      IsPage limit value rest part left following ∧ (left ≠ [] → due next following left)

end MailService

namespace Mailbox

variable {query : Option String} {wanted : Option Nat}

/-! ## How many are wanted -/

def bound (wanted : Option Nat) : Option Nat := wanted.filter (0 < ·)

/-- How many of `size` messages are wanted. -/
def share (wanted : Option Nat) (size : Nat) : Nat := (bound wanted).elim size (min · size)

theorem share_eq_self {size : Nat} (h : ∀ total ∈ bound wanted, size ≤ total) :
    share wanted size = size := by
  unfold share
  cases hbound : bound wanted with
  | none => rfl
  | some total => exact min_eq_right (h total hbound)

theorem share_eq_of_mem {total size : Nat} (h : total ∈ bound wanted) (hle : total ≤ size) :
    share wanted size = total := by
  rw [share, Option.mem_def.mp h]
  exact min_eq_left hle

/-- How many messages are wanted when `count` of them are there; none for all of them. -/
def stillWanted (wanted : Option Nat) (count : Nat) : Option Int :=
  (bound wanted).map fun total => ↑(total - count)

theorem stillWanted_pos {count : Nat} (h : ∀ total ∈ bound wanted, count < total) :
    ∀ n ∈ stillWanted wanted count, 0 < n := by
  intro n hn
  obtain ⟨total, htotal, rfl⟩ := Option.map_eq_some_iff.mp hn
  have := h total htotal
  omega

theorem remaining_natCast (wanted : Option Nat) (count : Nat) :
    remaining (wanted.map Nat.cast) count =
      (bound wanted).map fun total => (total : Int) - count := by
  match wanted with
  | none | some 0 => rfl
  | some (total + 1) =>
    have hne : (total : Int) + 1 ≠ 0 := by omega
    have hbound : bound (some (total + 1)) = some (total + 1) := rfl
    simp [remaining, hbound, hne]

/-- Either enough messages are there, or a number of them is wanted that is not zero. -/
theorem isEnough_or_remaining (wanted : Option Nat) (count : Nat) :
    (isEnough (wanted.map Nat.cast) count = true ∧ ∃ total ∈ bound wanted, total ≤ count) ∨
      (isEnough (wanted.map Nat.cast) count = false ∧ (∀ total ∈ bound wanted, count < total) ∧
        remaining (wanted.map Nat.cast) count = stillWanted wanted count) := by
  rw [isEnough, remaining_natCast, stillWanted]
  cases bound wanted with
  | none => exact .inr ⟨rfl, by simp, rfl⟩
  | some total =>
    rcases Nat.lt_or_ge count total with h | h
    · exact .inr ⟨by simp; omega, by simpa using h, by simp; omega⟩
    · exact .inl ⟨by simp; omega, total, rfl, h⟩

/-- A request for messages when `count` of them are there: for all that remain when there is no
bound, and otherwise for as many as are still wanted, of which there are some. -/
def AsksFor (query : Option String) (wanted : Option Nat) (count : Nat) (request : MailRequest) :
    Prop :=
  (∀ total ∈ bound wanted, count < total) ∧
    ∃ token, request = .list query (stillWanted wanted count) token

/-! ## What passes -/

/-- An exchange that brings messages when `count` of them are there, no more than are wanted. -/
structure Brings (query : Option String) (wanted : Option Nat) (count : Nat) (exchange : Exchange)
    (part : List Value) : Prop where
  asks : AsksFor query wanted count exchange.request
  answered : exchange.answer.isSome
  messages : exchange.messages = part
  within : ∀ total ∈ bound wanted, count + part.length ≤ total

/-- How the fetching goes on when `count` messages are there and `rest` remain: what is brought, and
what passes. -/
inductive Fetched (query : Option String) (wanted : Option Nat) :
    (count : Nat) → (rest part : List Value) → List Exchange → Prop
  | enough {count rest} :
      (∃ total ∈ bound wanted, total ≤ count) → Fetched query wanted count rest [] []
  | failed {count rest exchange} :
      AsksFor query wanted count exchange.request → exchange.answer = none →
      Fetched query wanted count rest [] [exchange]
  | last {count part exchange} : Brings query wanted count exchange part →
      Fetched query wanted count part part [exchange]
  | next {count part left more exchange exchanges} : Brings query wanted count exchange part →
      Fetched query wanted (count + part.length) left more exchanges →
      Fetched query wanted count (part ++ left) (part ++ more) (exchange :: exchanges)

theorem eq_of_singleton_eq_append {exchange other : Exchange} {before later : List Exchange}
    (h : [other] = before ++ exchange :: later) : before = [] ∧ other = exchange := by
  cases before with
  | nil => exact ⟨rfl, (List.cons.inj h).1⟩
  | cons _ before => simp at h

namespace Fetched

variable {count : Nat} {rest part : List Value} {exchanges before later : List Exchange}
  {exchange : Exchange}

theorem beginning (h : Fetched query wanted count rest part exchanges) : part <+: rest := by
  induction h with
  | enough _ | failed _ _ => exact List.nil_prefix
  | last _ => exact List.prefix_rfl
  | next _ _ ih => exact (List.prefix_append_right_inj _).mpr ih

theorem eq_flatMap (h : Fetched query wanted count rest part exchanges) :
    part = exchanges.flatMap Exchange.messages := by
  induction h with
  | enough _ => rfl
  | failed _ hfailed => simp [Exchange.messages_eq_nil hfailed]
  | last hbrings => simp [hbrings.messages]
  | next hbrings _ ih => rw [List.flatMap_cons, hbrings.messages, ← ih]

theorem length_eq (h : Fetched query wanted count rest part exchanges)
    (hcount : ∀ total ∈ bound wanted, count ≤ total)
    (hanswered : ∀ exchange ∈ exchanges, exchange.answer.isSome) :
    count + part.length = share wanted (count + rest.length) := by
  induction h with
  | enough henough =>
    obtain ⟨total, htotal, hle⟩ := henough
    rw [share_eq_of_mem htotal (by omega)]
    exact Nat.le_antisymm (hcount total htotal) hle
  | failed _ hfailed => simp [hfailed] at hanswered
  | last hbrings => exact (share_eq_self hbrings.within).symm
  | next hbrings _ ih =>
    have := ih hbrings.within fun exchange hmem => hanswered exchange (List.mem_cons_of_mem _ hmem)
    simpa [Nat.add_assoc] using this

theorem eq_nil_of_failed (h : Fetched query wanted count rest part exchanges) 
    (hsplit : exchanges = before ++ exchange :: later) (hfailed : exchange.answer = none) :
    later = [] := by
  induction h generalizing before with
  | enough _ => simp at hsplit
  | failed _ _ | last _ => simp_all [List.singleton_eq_append_iff]
  | next hbrings _ ih =>
    cases before with
    | nil =>
      obtain ⟨rfl, -⟩ := List.cons.inj hsplit
      simpa [hfailed] using hbrings.answered
    | cons _ before => exact ih (List.cons.inj hsplit).2

theorem asksFor (h : Fetched query wanted count rest part exchanges) 
    (hsplit : exchanges = before ++ exchange :: later) :
    AsksFor query wanted (count + (before.flatMap Exchange.messages).length) exchange.request := by
  induction h generalizing before with
  | enough _ => simp at hsplit
  | failed hasks _ =>
    obtain ⟨rfl, rfl⟩ := eq_of_singleton_eq_append hsplit
    exact hasks
  | last hbrings =>
    obtain ⟨rfl, rfl⟩ := eq_of_singleton_eq_append hsplit
    exact hbrings.asks
  | next hbrings _ ih =>
    cases before with
    | nil =>
      obtain ⟨rfl, -⟩ := List.cons.inj hsplit
      exact hbrings.asks
    | cons first before =>
      obtain ⟨rfl, hlater⟩ := List.cons.inj hsplit
      simpa [hbrings.messages, Nat.add_assoc] using ih hlater

end Fetched

/-! ## Fetching -/

/-- How the messages of a mailbox were listed. -/
structure Listing (query : Option String) (wanted : Option Nat) (mailbox found : List Value)
    (exchanges : List Exchange) : Prop where
  inOrder : found <+: mailbox
  complete : (∀ exchange ∈ exchanges, exchange.answer.isSome) → found.length =
    share wanted mailbox.length
  failed : ∀ before exchange later,
    exchanges = before ++ exchange :: later → exchange.answer = none →
    found = before.flatMap Exchange.messages ∧ later = []
  asks : ∀ before exchange later, exchanges = before ++ exchange :: later →
    AsksFor query wanted (before.flatMap Exchange.messages).length exchange.request

theorem Fetched.listing {mailbox found : List Value} {exchanges : List Exchange}
    (h : Fetched query wanted 0 mailbox found exchanges) :
    Listing query wanted mailbox found exchanges where
  inOrder := h.beginning
  complete hanswered := by simpa using h.length_eq (fun _ _ => Nat.zero_le _) hanswered
  failed before exchange later hsplit hfailed := by
    obtain rfl := h.eq_nil_of_failed hsplit hfailed
    refine ⟨?_, rfl⟩
    rw [h.eq_flatMap, hsplit]
    simp [Exchange.messages_eq_nil hfailed]
  asks before exchange later hsplit := by simpa using h.asksFor hsplit

variable {service : MailService σ} {due : σ → Value → List Value → Prop}

theorem listFrom_of_failed {wanted limit : Option Int} {found : List Value} {token : Value}
    {s next : σ} (pages : Nat) (hmore : isEnough wanted found.length = false)
    (hlimit : remaining wanted found.length = limit)
    (hfailed : service (.list query limit token) s = (none, next)) :
    listFrom query wanted service (pages + 1) found token s = (.ok found, next) := by
  simp [listFrom, hmore, hlimit, listPage, hfailed, MessagePage.empty, Resource.items, Value.isVoid]

/-- A request that is answered brings its messages, and a token that is not void leads on. -/
theorem listFrom_of_answered {wanted limit : Option Int} {found part : List Value}
    {token following value : Value} {s next : σ} (pages : Nat)
    (hmore : isEnough wanted found.length = false) (hlimit : remaining wanted found.length = limit)
    (hanswer : service (.list query limit token) s = (some value, next))
    (hpage : MessagePage.ofAnswer value = .ok ⟨.list part, following⟩) :
    listFrom query wanted service (pages + 1) found token s =
      if following.isVoid then (.ok (found ++ part), next)
      else listFrom query wanted service pages (found ++ part) following next := by
  simp [listFrom, hmore, hlimit, listPage, hanswer, hpage, Resource.items]

/-- The answer to a request for what is still wanted brings the first of the messages that
remain. -/
theorem exists_brings (h : service.Pages query due) {count : Nat} {s next : σ} {token value : Value}
    {rest : List Value} (hdue : due s token rest) (hless : ∀ total ∈ bound wanted, count < total)
    (hanswer : service (.list query (stillWanted wanted count) token) s = (some value, next)) :
    ∃ part left following, IsPage (stillWanted wanted count) value rest part left following ∧
      (left ≠ [] → due next following left) ∧
      Brings query wanted count ⟨.list query (stillWanted wanted count) token,
        some value⟩ part := by
  obtain ⟨part, left, following, hpage, hnext⟩ := h.answer hdue (stillWanted_pos hless) hanswer
  have hwithin : ∀ total ∈ bound wanted, count + part.length ≤ total := by
    intro total htotal
    have hle := hpage.within _ (Option.map_eq_some_iff.mpr ⟨total, htotal, rfl⟩)
    have := hless total htotal
    omega
  exact ⟨part, left, following, hpage, hnext, ⟨hless, token, rfl⟩, rfl,
    Exchange.messages_of_ofAnswer hpage.holds,
    hwithin⟩

/-- From any point on the fetching ends, whenever it may ask for more pages than messages remain. -/
theorem exists_fetched (h : service.Pages query due) (rest : List Value) :
    ∀ (found : List Value) {token : Value} {s : σ} (past : List Exchange), due s token rest →
      ∃ part after exchanges, Fetched query wanted found.length rest part exchanges ∧
        ∀ pages, rest.length < pages →
          listFrom query (wanted.map Nat.cast) service.journaled pages found token (s, past) =
            (.ok (found ++ part), after, past ++ exchanges) := by
  -- on the number of messages that remain: a page that is not the last brings at least one of them
  induction hsize : rest.length using Nat.strong_induction_on generalizing rest with
  | _ size ih =>
    intro found token s past hdue
    rcases isEnough_or_remaining wanted found.length with ⟨hisEnough, henough⟩ |
      ⟨hmore, hless, hlimit⟩
    · refine ⟨[], s, [], .enough henough, fun pages hpages => ?_⟩
      obtain ⟨pages, rfl⟩ := Nat.exists_eq_add_of_lt hpages
      simp [listFrom, hisEnough]
    · cases hanswer : service (.list query (stillWanted wanted found.length) token) s with
      | mk answer next =>
        have hjournal := MailService.journaled_eq hanswer past
        cases answer with
        | none =>
          refine ⟨[], next, [⟨_, none⟩], .failed ⟨hless, token, rfl⟩ rfl, fun pages hpages => ?_⟩
          obtain ⟨pages, rfl⟩ := Nat.exists_eq_add_of_lt hpages
          rw [List.append_nil]
          exact listFrom_of_failed _ hmore hlimit hjournal
        | some value =>
          obtain ⟨part, left, following, hpage, hnext, hbrings⟩ :=
            exists_brings h hdue hless hanswer
          have hstep := fun pages => listFrom_of_answered pages hmore hlimit hjournal hpage.holds
          obtain rfl := hpage.inOrder
          by_cases hleft : left = []
          · subst hleft
            rw [List.append_nil]
            refine ⟨part, next, _, .last hbrings, fun pages hpages => ?_⟩
            obtain ⟨pages, rfl⟩ := Nat.exists_eq_add_of_lt hpages
            exact (hstep _).trans (if_pos (hpage.isVoid_iff.mpr rfl))
          · have hshorter : left.length < size := by
              have := List.length_pos_iff.mpr (hpage.some_of_rest (by simp [hleft]))
              rw [List.length_append] at hsize
              omega
            obtain ⟨more, after, exchanges, hfetched, hrest⟩ :=
              ih _ hshorter left rfl (found ++ part) (past ++ [⟨_, some value⟩]) (hnext hleft)
            rw [List.length_append] at hfetched
            refine ⟨part ++ more, after, _, .next hbrings hfetched, fun pages hpages => ?_⟩
            obtain ⟨pages, rfl⟩ := Nat.exists_eq_add_of_lt hpages
            refine (hstep _).trans ((if_neg (mt hpage.isVoid_iff.mp hleft)).trans ?_)
            rw [hrest _ (by omega)]
            simp

/-- Listing a mailbox ends, whatever requests fail, and loses and repeats nothing. -/
theorem exists_listing (h : service.Pages query due) {s : σ} {mailbox : List Value}
    (hstart : due s .null mailbox) (wanted : Option Nat) :
    ∃ found after exchanges, Listing query wanted mailbox found exchanges ∧
      ∀ pages, mailbox.length < pages →
      listAll pages query (wanted.map Nat.cast) service s = (.ok found, after) ∧
      listAll pages query (wanted.map Nat.cast) service.journaled (s, []) =
        (.ok found, after, exchanges) := by
  obtain ⟨found, after, exchanges, hfetched, hrun⟩ := exists_fetched h mailbox [] [] hstart
  refine ⟨found, after, exchanges, hfetched.listing, fun pages hpages => ?_⟩
  have hjournaled := hrun pages hpages
  obtain ⟨hresult, hafter⟩ := service.mirrors_journaled.listFrom query (wanted.map Nat.cast)
    pages [] .null
    (s := (s, [])) (t := s) rfl
  rw [hjournaled] at hresult hafter
  exact ⟨Prod.ext hresult.symm hafter.symm, hjournaled⟩

def place : Value → Nat
  | .int n => n.toNat
  | _ => 0

/-- A service that lists a mailbox, at most `size` messages at a time. It counts the requests, and
fails at those whose number it is told. -/
def paged (mailbox : List Value) (size : Nat) (fails : Nat → Bool) : MailService Nat
  | .list _ limit token, asked =>
    if fails asked then (none, asked + 1)
    else
      let part := (mailbox.drop (place token)).take (limit.elim size fun n => min size n.toNat)
      let reached := place token + part.length
      let following : Value := if reached < mailbox.length then .int reached else .null
      (some (.object [("messages", .list part), ("nextPageToken", following)]), asked + 1)
  | _, asked => (none, asked + 1)

theorem pages_paged {size : Nat} (hsize : 0 < size) (mailbox : List Value) (fails : Nat → Bool)
    (query : Option String) :
    (paged mailbox size fails).Pages query fun _ token rest => rest =
      mailbox.drop (place token) where
  answer := by
    intro asked token rest limit value next hrest hlimit hanswer
    subst hrest
    dsimp only [paged] at hanswer
    split at hanswer
    · simp at hanswer
    generalize hmost : limit.elim size (fun n => min size n.toNat) = most at hanswer
    have hpositive : 0 < most := by
      cases limit with
      | none => exact hmost ▸ hsize
      | some n =>
        have := hlimit n rfl
        simp only [Option.elim_some] at hmost
        omega
    have hatMost : ∀ n ∈ limit, (most : Int) ≤ n := by
      intro n hn
      rw [Option.mem_def.mp hn, Option.elim_some] at hmost
      have := hlimit n hn
      omega
    obtain ⟨hvalue, -⟩ := Prod.mk.inj hanswer
    obtain rfl := Option.some.inj hvalue
    generalize hreached : place token + ((mailbox.drop (place token)).take most).length = reached
    rw [List.length_take, List.length_drop] at hreached
    have hleft : (mailbox.drop (place token)).drop most = [] ↔ ¬reached < mailbox.length := by
      simp
      omega
    refine ⟨_, (mailbox.drop (place token)).drop most, if reached < mailbox.length then .int reached
      else .null,
      ⟨rfl, (List.take_append_drop _ _).symm, ?_, ?_, ?_⟩, ?_⟩
    · intro hne htake
      simp at hne htake
      omega
    · intro n hn
      have := hatMost n hn
      simp
      omega
    · rw [hleft]
      split
      · next hmore =>
        have hne : reached ≠ 0 := by omega
        simp [Value.isVoid, hne, hmore]
      · next hdone => simpa [Value.isVoid] using hdone
    · intro hne
      have hmore : reached < mailbox.length := not_not.mp (mt hleft.mpr hne)
      rw [if_pos hmore, List.drop_drop, place, Int.toNat_natCast]
      congr 1
      omega

/-- Two messages at a time: the third request fails, and the first two pages are there. -/
theorem exists_listing_twoPages :
    ∃ mailbox : List Value, mailbox.length = 5 ∧
      (paged mailbox 2 (· = 2)).Pages none (fun _ token rest => rest = mailbox.drop (place token)) ∧
      ∃ after exchanges, Listing none (some 5) mailbox (mailbox.take 4) exchanges ∧
        ∀ pages, 5 < pages →
        listAll pages none (some 5) (paged mailbox 2 (· = 2)) 0 =
          (.ok (mailbox.take 4), after) := by
  let mailbox : List Value := ["a", "b", "c", "d", "e"].map .text
  have hpages := pages_paged (by decide : 0 < 2) mailbox (· = 2) none
  obtain ⟨found, after, exchanges, hlisting, hrun⟩ := exists_listing hpages (s := 0) rfl (some 5)
  have hcomputed :
      listAll 6 none (some 5) (paged mailbox 2 (· = 2)) 0 = (.ok (mailbox.take 4), 3) := by rfl
  have hfound : found = mailbox.take 4 :=
    (Except.ok.inj (Prod.mk.inj (hcomputed.symm.trans (hrun 6 (by decide)).1)).1).symm
  subst hfound
  exact ⟨mailbox, rfl, hpages, after, exchanges, hlisting, fun pages h => (hrun pages h).1⟩

end Mailbox

end MailTriage

import MailTriage.Proofs.Number.Sum
import MailTriage.Proofs.Store.Session
import MailTriage.Proofs.Text.Case

/-!
# What deeds leave behind

Points are added to a score, emails are marked, summarized and finished with, in any order, and some
of it is refused. What the store then says is determined by the deeds that it took, and for each
score, marker, summary and email by those among them that are about it: a score is the sum of its
points in their order, and of a summary or a number of fired rules the last one stands. A deed that
is refused leaves nothing behind. When it was refused because it could not be saved, the session
says nothing more until it is rolled back.
-/

namespace MailTriage

open Store

/-- Something that is left behind in the store. -/
inductive Deed
  | score (address : String) (points : Binary64)
  | mark (emailId marker : String)
  | summarize (emailId : String) (summary : Summary)
  | finish (emailId : String) (rulesFired : Int)
  deriving DecidableEq

namespace Deed

/-- What the store says to a deed that it takes. -/
inductive Reply
  | total (score : Binary64)
  | fresh (isFresh : Bool)
  | done
  deriving DecidableEq

/-- What a deed is about. The scores are kept under addresses in lower case. -/
inductive Key
  | score (address : String)
  | mark (emailId marker : String)
  | summary (emailId : String)
  | finish (emailId : String)
  deriving DecidableEq

/-- What the store has under a key. -/
inductive Content
  | score (total : Option Binary64)
  | mark (isMarked : Bool)
  | summary (summary : Option Summary)
  | finish (rulesFired : Option Int)
  deriving DecidableEq

def key : Deed → Key
  | score address _ => .score (Text.lower address)
  | mark emailId marker => .mark emailId marker
  | summarize emailId _ => .summary emailId
  | finish emailId _ => .finish emailId

def perform : Deed → StoreOp Reply
  | score address points => fun session =>
    let (result, session) := adjustScore address points session
    (result.map .total, session)
  | mark emailId marker => fun session =>
    let (result, session) := addMarker emailId marker session
    (result.map .fresh, session)
  | summarize emailId summary => fun session =>
    let (result, session) := saveSummary emailId summary session
    (result.map fun _ => .done, session)
  | finish emailId rulesFired => fun session =>
    let (result, session) := markProcessed emailId rulesFired session
    (result.map fun _ => .done, session)

/-! ## What is to be expected -/

def pointsFor (address : String) (deeds : List Deed) : List Binary64 :=
  deeds.filterMap fun
    | score given points => if Text.lower given = address then some points else none
    | _ => none

def sum (points : List Binary64) : Binary64 := points.foldl Binary64.add Binary64.zero

def scoreOf (address : String) (deeds : List Deed) : Option Binary64 :=
  if pointsFor address deeds = [] then none else some (sum (pointsFor address deeds))

def summaryOf (emailId : String) (deeds : List Deed) : Option Summary :=
  (deeds.filterMap fun
    | summarize given summary => if given = emailId then some summary else none
    | _ => none).getLast?

def rulesFiredOf (emailId : String) (deeds : List Deed) : Option Int :=
  (deeds.filterMap fun
    | finish given rulesFired => if given = emailId then some rulesFired else none
    | _ => none).getLast?

def Key.contentAfter (deeds : List Deed) : Key → Content
  | score address => .score (scoreOf address deeds)
  | mark emailId marker => .mark (.mark emailId marker ∈ deeds)
  | summary emailId => .summary (summaryOf emailId deeds)
  | finish emailId => .finish (rulesFiredOf emailId deeds)

def replyAfter (deeds : List Deed) : Deed → Reply
  | score address points =>
    .total (sum (pointsFor (Text.lower address) (deeds ++ [score address points])))
  | mark emailId marker => .fresh (mark emailId marker ∉ deeds)
  | _ => .done

/-- Whether there is nothing wrong with a deed, unless it is with its points. -/
def isAdmissible : Deed → Bool
  | score address _ => !address.isEmpty
  | finish _ rulesFired => fitsWord rulesFired
  | _ => true

def hasFinitePoints : Deed → Bool
  | score _ points => points.isFinite
  | _ => true

end Deed

namespace Database

def contentAt (data : Database) : Deed.Key → Deed.Content
  | .score address => .score (data.scores.find? address)
  | .mark emailId marker => .mark (data.markers.contains (marker, emailId))
  | .summary emailId => .summary (data.summaries.find? emailId)
  | .finish emailId => .finish (data.processed.find? emailId)

/-- The data have what is to be expected after deeds. -/
structure Reflects (deeds : List Deed) (data : Database) : Prop where
  contents : ∀ key, data.contentAt key = key.contentAfter deeds
  /-- No score has stopped being a number. -/
  numbers : ∀ address total, data.scores.find? address = some total → total.isNaN = false
  distinct : data.markers.Nodup
  /-- Nobody without an address has a score. -/
  named : ∀ points, Deed.score "" points ∉ deeds

end Database

/-! ## One deed -/

theorem Session.apply_ofDatabase {α : Type} (effect : Database → Effect α) (data : Database) :
    Session.apply effect (.ofDatabase data) =
      match effect data with
      | .refuse trouble => (.error trouble, .ofDatabase data)
      | .abort trouble => (.error trouble, (Session.ofDatabase data).abort)
      | .keep result after => (.ok result, { Session.ofDatabase data with current := after })
      | .save result after => (.ok result, .ofDatabase after) := rfl

namespace Deed

variable {deeds : List Deed} {data : Database}

def Taken (data : Database) : Deed → Prop
  | score address points =>
    address ≠ "" ∧ ((scoreBefore (data.scores.find? (Text.lower address))).add points).isNaN = false
  | finish _ rulesFired => fitsWord rulesFired = true
  | _ => True

def replyIn (data : Database) : Deed → Reply
  | score address points =>
    .total ((scoreBefore (data.scores.find? (Text.lower address))).add points)
  | mark emailId marker => .fresh !data.markers.contains (marker, emailId)
  | _ => .done

def leave (data : Database) : Deed → Database
  | score address points =>
    { data with
      scores := data.scores.put (Text.lower address)
        ((scoreBefore (data.scores.find? (Text.lower address))).add points) }
  | mark emailId marker =>
    { data with
      markers := if data.markers.contains (marker, emailId) then data.markers
        else data.markers ++ [(marker, emailId)] }
  | summarize emailId summary => { data with summaries := data.summaries.put emailId summary }
  | finish emailId rulesFired => { data with processed := data.processed.put emailId rulesFired }

/-- A deed is taken and what it leaves is saved, or it is refused and nothing of it is left. -/
theorem perform_cases (deed : Deed) (data : Database) :
    (deed.Taken data ∧ deed.perform (.ofDatabase data) =
      (.ok (deed.replyIn data), .ofDatabase (deed.leave data))) ∨
      (¬deed.Taken data ∧ ∃ trouble after,
        deed.perform (.ofDatabase data) = (.error trouble, after) ∧
        (after = .ofDatabase data ∨ after = (Session.ofDatabase data).abort)) := by
  cases deed with
  | score address points =>
    by_cases haddress : address = ""
    · subst haddress
      exact .inr ⟨fun htaken => htaken.1 rfl, _, _, rfl, .inl rfl⟩
    · have hisEmpty : address.isEmpty = false := by simpa using haddress
      cases hnumber : ((scoreBefore (data.scores.find? (Text.lower address))).add points).isNaN with
      | true =>
        refine .inr ⟨fun htaken => by simp [htaken.2] at hnumber, .violation, _, ?_, .inr rfl⟩
        simp [perform, adjustScore, hisEmpty, Session.apply_ofDatabase, hnumber, Except.map]
      | false =>
        refine .inl ⟨⟨haddress, hnumber⟩, ?_⟩
        simp [perform, adjustScore, hisEmpty, Session.apply_ofDatabase, hnumber, Except.map,
          replyIn, leave]
  | mark emailId marker =>
    refine .inl ⟨trivial, ?_⟩
    cases hmarked : data.markers.contains (marker, emailId) <;>
      simp only [perform, addMarker, Session.apply_ofDatabase, hmarked, Except.map, replyIn,
        leave] <;> rfl
  | summarize emailId summary => exact .inl ⟨trivial, rfl⟩
  | finish emailId rulesFired =>
    by_cases hfits : fitsWord rulesFired = true
    · refine .inl ⟨hfits, ?_⟩
      simp [perform, markProcessed, Session.apply_ofDatabase, hfits, Except.map, replyIn, leave]
    · refine .inr ⟨hfits, .tooLarge, _, ?_, .inr rfl⟩
      simp [perform, markProcessed, Session.apply_ofDatabase, hfits, Except.map]

theorem perform_of_stalled (deed : Deed) {session : Session} (h : session.stalled = true) :
    ∃ trouble, deed.perform session = (.error trouble, session) := by
  cases deed with
  | score address points =>
    by_cases haddress : address.isEmpty = true <;>
      simp [perform, adjustScore, haddress, Session.apply, h, Except.map]
  | mark | summarize | finish =>
    simp [perform, addMarker, saveSummary, markProcessed, Session.apply, h, Except.map]

theorem contentAt_leave_of_ne {deed : Deed} {key : Key} (h : key ≠ deed.key) :
    (deed.leave data).contentAt key = data.contentAt key := by
  cases deed with
  | score address points =>
    cases key with
    | score other =>
      have hother : other ≠ Text.lower address := fun heq => h (congrArg Key.score heq)
      simp [leave, Database.contentAt, Keyed.find?_put_of_ne hother]
    | mark | summary | finish => rfl
  | mark emailId marker =>
    cases key with
    | mark other tag =>
      have hother : (tag, other) ≠ (marker, emailId) := by
        rintro ⟨rfl, rfl⟩
        exact h rfl
      simp only [leave, Database.contentAt]
      split
      · rfl
      · simp [hother]
    | score | summary | finish => rfl
  | summarize emailId summary =>
    cases key with
    | summary other =>
      have hother : other ≠ emailId := fun heq => h (congrArg Key.summary heq)
      simp [leave, Database.contentAt, Keyed.find?_put_of_ne hother]
    | score | mark | finish => rfl
  | finish emailId rulesFired =>
    cases key with
    | finish other =>
      have hother : other ≠ emailId := fun heq => h (congrArg Key.finish heq)
      simp [leave, Database.contentAt, Keyed.find?_put_of_ne hother]
    | score | mark | summary => rfl

/-! ## Sums of points -/

theorem sum_concat (points : List Binary64) (x : Binary64) :
    sum (points ++ [x]) = (sum points).add x :=
  List.foldl_concat ..

theorem sum_ne_negativeZero (points : List Binary64) : sum points ≠ Binary64.ofRank true 0 := by
  induction points using List.reverseRecOn with
  | nil => decide
  | append_singleton points x ih =>
    rw [sum_concat]
    exact Binary64.add_ne_negativeZero ih x

theorem scoreBefore_some {score : Binary64} (h : score ≠ Binary64.ofRank true 0) :
    scoreBefore (some score) = score := by
  cases hzero : score.eq Binary64.zero with
  | true =>
    rw [Binary64.eq_zero_of_eq h hzero]
    decide
  | false => simp [scoreBefore, Option.filter, hzero]

theorem pointsFor_concat (address : String) (deeds : List Deed) (deed : Deed) :
    pointsFor address (deeds ++ [deed]) = pointsFor address deeds ++ pointsFor address [deed] :=
  List.filterMap_append ..

/-- One more deed changes nothing of what is to be expected under other keys. -/
theorem Key.contentAfter_concat_of_ne {deed : Deed} {key : Key} (h : key ≠ deed.key) :
    key.contentAfter (deeds ++ [deed]) = key.contentAfter deeds := by
  cases key with
  | score address =>
    have hnone : pointsFor address [deed] = [] := by
      cases deed with
      | score other points =>
        have hother : Text.lower other ≠ address := fun heq => h (congrArg Key.score heq.symm)
        simp [pointsFor, hother]
      | mark | summarize | finish => rfl
    rw [contentAfter, contentAfter, scoreOf, scoreOf, pointsFor_concat, hnone, List.append_nil]
  | mark emailId marker =>
    have hne : Deed.mark emailId marker ≠ deed := by
      rintro rfl
      exact h rfl
    simp [contentAfter, hne]
  | summary emailId =>
    cases deed with
    | summarize other summary =>
      have hother : other ≠ emailId := fun heq => h (congrArg Key.summary heq.symm)
      simp [contentAfter, summaryOf, hother]
    | score | mark | finish => simp [contentAfter, summaryOf]
  | finish emailId =>
    cases deed with
    | finish other rulesFired =>
      have hother : other ≠ emailId := fun heq => h (congrArg Key.finish heq.symm)
      simp [contentAfter, rulesFiredOf, hother]
    | score | mark | summarize => simp [contentAfter, rulesFiredOf]

end Deed

/-! ## The data after deeds -/

namespace Database.Reflects

open Deed

variable {deeds : List Deed} {data : Database}

theorem scores (h : data.Reflects deeds) (address : String) :
    data.scores.find? address = scoreOf address deeds :=
  Content.score.inj (h.contents (.score address))

theorem marked (h : data.Reflects deeds) (emailId marker : String) :
    data.markers.contains (marker, emailId) = decide (Deed.mark emailId marker ∈ deeds) :=
  Content.mark.inj (h.contents (.mark emailId marker))

theorem summaries (h : data.Reflects deeds) (emailId : String) :
    data.summaries.find? emailId = summaryOf emailId deeds :=
  Content.summary.inj (h.contents (.summary emailId))

theorem processed (h : data.Reflects deeds) (emailId : String) :
    data.processed.find? emailId = rulesFiredOf emailId deeds :=
  Content.finish.inj (h.contents (.finish emailId))

theorem scoreBefore_eq (h : data.Reflects deeds) (address : String) :
    scoreBefore (data.scores.find? address) = sum (pointsFor address deeds) := by
  rw [h.scores, scoreOf]
  split
  · next hnone =>
    rw [hnone]
    rfl
  · exact scoreBefore_some (sum_ne_negativeZero _)

theorem replyIn_eq (h : data.Reflects deeds) (deed : Deed) :
    deed.replyIn data = deed.replyAfter deeds := by
  cases deed with
  | score address points =>
    rw [replyIn, replyAfter, h.scoreBefore_eq, pointsFor_concat, ← sum_concat]
    simp [pointsFor]
  | mark emailId marker => rw [replyIn, replyAfter, h.marked, ← decide_not]
  | summarize | finish => rfl

theorem contentAt_leave_self (h : data.Reflects deeds) (deed : Deed) :
    (deed.leave data).contentAt deed.key = deed.key.contentAfter (deeds ++ [deed]) := by
  cases deed with
  | score address points =>
    have hpoints : pointsFor (Text.lower address) (deeds ++ [score address points]) =
        pointsFor (Text.lower address) deeds ++ [points] := by
      rw [pointsFor_concat]
      simp [pointsFor]
    simp [leave, Database.contentAt, key, Key.contentAfter, scoreOf, hpoints,
      h.scoreBefore_eq, sum_concat]
  | mark emailId marker =>
    simp only [leave, Database.contentAt, key, Key.contentAfter]
    split
    · next hmarked => simp [List.contains_iff_mem.mp hmarked]
    · simp
  | summarize emailId summary => simp [leave, Database.contentAt, key, Key.contentAfter, summaryOf]
  | finish emailId rulesFired =>
    simp [leave, Database.contentAt, key, Key.contentAfter, rulesFiredOf]

theorem leave (h : data.Reflects deeds) {deed : Deed} (htaken : deed.Taken data) :
    (deed.leave data).Reflects (deeds ++ [deed]) := by
  constructor
  · intro key
    by_cases hkey : key = deed.key
    · rw [hkey]
      exact h.contentAt_leave_self deed
    · rw [contentAt_leave_of_ne hkey, Key.contentAfter_concat_of_ne hkey]
      exact h.contents key
  · intro address total hfind
    cases deed with
    | score given points =>
      rw [Deed.leave] at hfind
      by_cases haddress : address = Text.lower given
      · subst haddress
        rw [Keyed.find?_put_self] at hfind
        obtain rfl := Option.some.inj hfind
        exact htaken.2
      · rw [Keyed.find?_put_of_ne haddress] at hfind
        exact h.numbers address total hfind
    | mark | summarize | finish => exact h.numbers address total hfind
  · cases deed with
    | mark emailId marker =>
      rw [Deed.leave]
      dsimp only
      split
      · exact h.distinct
      · next hmarked =>
        refine List.nodup_append.mpr ⟨h.distinct, List.nodup_singleton _, ?_⟩
        rintro pair hpair _ hnew rfl
        rw [List.mem_singleton.mp hnew] at hpair
        exact hmarked (List.contains_iff_mem.mpr hpair)
    | score | summarize | finish => exact h.distinct
  · intro points hmem
    rcases List.mem_append.mp hmem with hearlier | hlast
    · exact h.named points hearlier
    · rw [← List.mem_singleton.mp hlast] at htaken
      exact htaken.1 rfl

theorem taken_iff (h : data.Reflects deeds) {deed : Deed} (hfinite : deed.hasFinitePoints = true) :
    deed.Taken data ↔ deed.isAdmissible = true := by
  cases deed with
  | score address points =>
    have hbefore : (scoreBefore (data.scores.find? (Text.lower address))).isNaN = false := by
      cases hfind : data.scores.find? (Text.lower address) with
      | none => rfl
      | some total =>
        have htotal : total ≠ Binary64.ofRank true 0 := by
          rw [h.scores, scoreOf] at hfind
          split at hfind
          · exact nomatch hfind
          · exact Option.some.inj hfind ▸ sum_ne_negativeZero _
        rw [scoreBefore_some htotal]
        exact h.numbers _ _ hfind
    simp [Taken, isAdmissible, Binary64.isNaN_add hbefore hfinite]
  | mark | summarize => simp [Taken, isAdmissible]
  | finish => rfl

end Database.Reflects

/-! ## Deeds in any order -/

/-- A session says what is to be expected after deeds. -/
structure Session.Tells (deeds : List Deed) (session : Session) : Prop where
  score : ∀ address, (getScore address session).1 = .ok (Deed.scoreOf (Text.lower address) deeds)
  marked : ∀ marker, ∃ emails, (markedEmails marker session).1 = .ok emails ∧ emails.Nodup ∧
    ∀ emailId, emailId ∈ emails ↔ Deed.mark emailId marker ∈ deeds
  summary : ∀ emailId, (getSummary emailId session).1 = .ok (Deed.summaryOf emailId deeds)
  processed : ∀ emailId,
    (isProcessed emailId session).1 = .ok (Deed.rulesFiredOf emailId deeds).isSome
  rulesFired : ∀ emailId, session.current.processed.find? emailId = Deed.rulesFiredOf emailId deeds

namespace Database.Reflects

open Deed

variable {deeds : List Deed} {data : Database}

theorem tells (h : data.Reflects deeds) : (Session.ofDatabase data).Tells deeds where
  score address := by
    by_cases haddress : address = ""
    · subst haddress
      have hnone : pointsFor (Text.lower "") deeds = [] := by
        rw [pointsFor, List.filterMap_eq_nil_iff]
        intro deed hdeed
        cases deed with
        | score given points =>
          have hgiven : Text.lower given ≠ Text.lower "" := by
            intro heq
            obtain rfl := Text.lower_eq_empty heq
            exact h.named points hdeed
          exact if_neg hgiven
        | mark | summarize | finish => rfl
      rw [scoreOf, if_pos hnone]
      rfl
    · have hisEmpty : address.isEmpty = false := by simpa using haddress
      simp [getScore, hisEmpty, Session.look, Session.apply_ofDatabase, h.scores]
  marked marker := by
    refine ⟨_, rfl, ?_, fun emailId => ?_⟩
    · -- Pairs with one marker differ in the email.
      refine (h.distinct.filter _).map_on fun pair hpair other hother heq => Prod.ext ?_ heq
      have hpair := (List.mem_filter.mp hpair).2
      have hother := (List.mem_filter.mp hother).2
      exact (of_decide_eq_true hpair).trans (of_decide_eq_true hother).symm
    · have hmarked := h.marked emailId marker
      rw [Bool.eq_iff_iff, List.contains_iff_mem, decide_eq_true_iff] at hmarked
      rw [← hmarked]
      simp [Session.ofDatabase]
  summary emailId := congrArg Except.ok (h.summaries emailId)
  processed emailId := by
    rw [← h.processed]
    rfl
  rulesFired := h.processed

end Database.Reflects

/-- The deeds that a session took, with what it said to each, and what they made of the session. -/
structure Diary where
  taken : List (Deed × Deed.Reply) := []
  session : Session := .ofDatabase {}

namespace Diary

/-- What a session is asked: to do a deed, or to take back what is not saved. -/
inductive Turn
  | deed (deed : Deed)
  | rollback

def turn (diary : Diary) : Turn → Diary
  | .deed deed =>
    match deed.perform diary.session with
    | (.ok reply, session) => { taken := diary.taken ++ [(deed, reply)], session := session }
    | (.error _, session) => { diary with session := session }
  | .rollback => { diary with session := diary.session.rollback }

def ofTurns (turns : List Turn) : Diary := turns.foldl turn {}

def deeds (diary : Diary) : List Deed := diary.taken.map Prod.fst

/-- The session is what is to be expected after the deeds that it took, unless a deed could not be
saved. -/
structure Kept (diary : Diary) : Prop where
  reflects : diary.session.saved.Reflects diary.deeds
  replies : ∀ before deed reply after, diary.taken = before ++ (deed, reply) :: after →
    reply = deed.replyAfter (before.map Prod.fst)
  session_cases : diary.session = .ofDatabase diary.session.saved ∨
    diary.session = (Session.ofDatabase diary.session.saved).abort

variable {diary : Diary}

/-- A deed is taken by a session that works and leaves what it should, or it is refused and nothing
of it is saved. -/
theorem Kept.perform_cases (h : diary.Kept) (deed : Deed) :
    (deed.Taken diary.session.saved ∧ diary.session.stalled = false ∧
        deed.perform diary.session =
          (.ok (deed.replyAfter diary.deeds), .ofDatabase (deed.leave diary.session.saved))) ∨
      ((diary.session.stalled = false → ¬deed.Taken diary.session.saved) ∧
        ∃ trouble after, deed.perform diary.session = (.error trouble, after) ∧
          (after = .ofDatabase diary.session.saved ∨ after =
            (Session.ofDatabase diary.session.saved).abort)) := by
  rcases h.session_cases with hworks | hstalled
  · rcases deed.perform_cases diary.session.saved with ⟨htaken, hperform⟩ |
      ⟨hrefused, trouble, after, hperform, hafter⟩
    · rw [← hworks, h.reflects.replyIn_eq] at hperform
      exact .inl ⟨htaken, congrArg Session.stalled hworks, hperform⟩
    · rw [← hworks] at hperform
      exact .inr ⟨fun _ => hrefused, trouble, after, hperform, hafter⟩
  · have hstall : diary.session.stalled = true := congrArg Session.stalled hstalled
    obtain ⟨trouble, hperform⟩ := deed.perform_of_stalled hstall
    exact .inr ⟨fun hworks => absurd (hworks.symm.trans hstall) (by decide), trouble, _, hperform,
      .inr hstalled⟩

theorem Kept.tells (h : diary.Kept) (hworks : diary.session.stalled = false) :
    diary.session.Tells diary.deeds := by
  rcases h.session_cases with hsession | hsession
  · rw [hsession]
    exact h.reflects.tells
  · rw [hsession] at hworks
    exact nomatch hworks

theorem Kept.takes (h : diary.Kept) (hworks : diary.session.stalled = false) {deed : Deed}
    (hfinite : deed.hasFinitePoints = true) :
    (deed.perform diary.session).1.toBool = true ↔ deed.isAdmissible = true := by
  rw [← h.reflects.taken_iff hfinite]
  rcases h.perform_cases deed with ⟨htaken, -, hperform⟩ | ⟨hrefused, trouble, after, hperform, -⟩
  · rw [hperform]
    exact ⟨fun _ => htaken, fun _ => rfl⟩
  · rw [hperform]
    simpa [Except.toBool] using hrefused hworks

theorem Kept.works (h : diary.Kept) {deed : Deed}
    (hok : (deed.perform diary.session).1.toBool = true) :
    (deed.perform diary.session).2.stalled = false := by
  rcases h.perform_cases deed with ⟨-, -, hperform⟩ | ⟨-, trouble, after, hperform, -⟩
  · rw [hperform]
    rfl
  · rw [hperform] at hok
    exact nomatch hok

theorem Kept.refuses (h : diary.Kept) {deed : Deed}
    (hrefused : (deed.perform diary.session).1.toBool = false) :
    (deed.perform diary.session).2.saved = diary.session.saved := by
  rcases h.perform_cases deed with ⟨-, -, hperform⟩ | ⟨-, trouble, after, hperform, hafter⟩
  · rw [hperform] at hrefused
    exact nomatch hrefused
  · rw [hperform]
    rcases hafter with rfl | rfl <;> rfl

theorem Kept.apart (h : diary.Kept) {deed : Deed} {key : Deed.Key} (hkey : key ≠ deed.key) :
    (deed.perform diary.session).2.saved.contentAt key = diary.session.saved.contentAt key := by
  rcases h.perform_cases deed with ⟨-, -, hperform⟩ | ⟨-, trouble, after, hperform, hafter⟩
  · rw [hperform]
    exact Deed.contentAt_leave_of_ne hkey
  · rw [hperform]
    rcases hafter with rfl | rfl <;> rfl

theorem Kept.turn (h : diary.Kept) (turn : Turn) : (diary.turn turn).Kept := by
  cases turn with
  | deed deed =>
    rcases h.perform_cases deed with ⟨htaken, -, hperform⟩ | ⟨-, trouble, after, hperform, hafter⟩
    · have hturn : diary.turn (.deed deed) =
          ⟨diary.taken ++ [(deed, deed.replyAfter diary.deeds)],
            .ofDatabase (deed.leave diary.session.saved)⟩ := by
        simp only [Diary.turn, hperform]
      rw [hturn]
      constructor
      · rw [deeds, List.map_append]
        exact h.reflects.leave htaken
      · intro before other reply later hsplit
        rcases List.eq_nil_or_concat later with rfl | ⟨gap, last, rfl⟩
        · obtain ⟨rfl, hpair⟩ := List.append_inj' hsplit rfl
          obtain ⟨rfl, rfl⟩ := Prod.mk.inj (List.singleton_inj.mp hpair)
          rfl
        · have hregroup : diary.taken ++ [(deed, deed.replyAfter diary.deeds)] =
              (before ++ (other, reply) :: gap) ++ [last] := hsplit.trans (by simp)
          exact h.replies before other reply gap (List.append_inj' hregroup rfl).1
      · exact .inl rfl
    · have hturn : diary.turn (.deed deed) = { diary with session := after } := by
        simp only [Diary.turn, hperform]
      have hsaved : after.saved = diary.session.saved := by rcases hafter with rfl | rfl <;> rfl
      rw [hturn]
      constructor
      · rw [hsaved]
        exact h.reflects
      · exact h.replies
      · rw [hsaved]
        exact hafter
  | rollback => exact ⟨h.reflects, h.replies, .inl rfl⟩

theorem kept_ofTurns (turns : List Turn) : (ofTurns turns).Kept := by
  have hempty : Kept {} := by
    constructor
    · constructor
      · intro key
        cases key <;> rfl
      · simp [Session.ofDatabase]
      · simp [Session.ofDatabase]
      · simp [deeds]
    · simp
    · exact .inl rfl
  unfold ofTurns
  generalize ({} : Diary) = diary at hempty
  induction turns generalizing diary with
  | nil => exact hempty
  | cons turn rest ih => exact ih _ (hempty.turn turn)

/-- What is to be expected of the deeds that a store took. -/
structure Faithful (diary : Diary) : Prop where
  /-- To each of them was said what the earlier ones imply. -/
  replies : ∀ before deed reply after, diary.taken = before ++ (deed, reply) :: after →
    reply = deed.replyAfter (before.map Prod.fst)
  tells : diary.session.stalled = false → diary.session.Tells diary.deeds
  tells_rollback : diary.session.rollback.Tells diary.deeds
  /-- A session that works takes every deed that has nothing wrong with it, and works on. -/
  takes : diary.session.stalled = false → ∀ deed : Deed, deed.hasFinitePoints = true →
    ((deed.perform diary.session).1.toBool = true ↔ deed.isAdmissible = true)
  works : ∀ deed : Deed, (deed.perform diary.session).1.toBool = true →
    (deed.perform diary.session).2.stalled = false
  /-- A deed that is refused changes nothing that is saved. -/
  refuses : ∀ deed : Deed, (deed.perform diary.session).1.toBool = false →
    (deed.perform diary.session).2.saved = diary.session.saved
  /-- A deed changes nothing under other keys. -/
  apart : ∀ (deed : Deed) (key : Deed.Key), key ≠ deed.key →
    (deed.perform diary.session).2.saved.contentAt key = diary.session.saved.contentAt key

/-- Whatever deeds a store that was empty was asked to do, and whenever it was rolled back, it is as
the deeds that it took imply. -/
theorem faithful_ofTurns (turns : List Turn) : (ofTurns turns).Faithful := by
  have h := kept_ofTurns turns
  constructor
  · exact h.replies
  · exact h.tells
  · exact h.reflects.tells
  · intro hworks deed hfinite
    exact h.takes hworks hfinite
  · intro deed hok
    exact h.works hok
  · intro deed hrefused
    exact h.refuses hrefused
  · intro deed key hkey
    exact h.apart hkey

/-- Points without an address are refused, and so is a number of rules beyond a word, after which
nothing is taken until the rollback. -/
example :
    (ofTurns [.deed (.score "Ann@x.org" (.ofInt 1)), .deed (.score "" (.ofInt 1)),
      .deed (.score "ann@X.ORG" (.ofInt 2)), .deed (.finish "e" (2 ^ 63)),
        .deed (.mark "e" "m"), .rollback,
      .deed (.mark "e" "m"), .deed (.mark "e" "m")]).taken =
    [(.score "Ann@x.org" (.ofInt 1), .total (.ofInt 1)),
      (.score "ann@X.ORG" (.ofInt 2), .total (.ofInt 3)),
      (.mark "e" "m", .fresh true), (.mark "e" "m", .fresh false)] := by
  decide +kernel

end Diary

end MailTriage

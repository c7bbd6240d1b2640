import MailTriage.Office.Round
import MailTriage.Proofs.Outcome
import MailTriage.Proofs.Triage.Simulation

/-!
# Rounds that go alike

A round reaches the outside through passes, the record of the emails that are done with, the scores,
and requests to the mailbox of which none but those of its passes change anything there. Two rounds
over related states outside are alike when each of these keeps the relation: they end alike, tell
the same, and leave related states.
-/

namespace MailTriage

variable {α β σ τ : Type} {R : σ → τ → Prop}

/-- A request that only reads: the profile, a list of messages, or a message. -/
def MailRequest.IsRead : MailRequest → Prop
  | .profile | .list .. | .get .. => True
  | _ => False

/-! ## Requests that read -/

def MailRequest.IsListing : MailRequest → Prop
  | .profile | .list .. => True
  | _ => False

/-- Services that answer requests of a kind alike. -/
structure MailService.Mirrors (P : MailRequest → Prop) (R : σ → τ → Prop) (service : MailService σ)
    (image : MailService τ) : Prop where
  answer : ∀ {s t}, R s t → ∀ request, P request → Alike R (service request s) (image request t)

namespace MailService.Mirrors

variable {service : MailService σ} {image : MailService τ} {s : σ} {t : τ}

theorem listing (h : MailService.Mirrors MailRequest.IsRead R service image) :
    MailService.Mirrors MailRequest.IsListing R service image where
  answer hs request hlisting := h.answer hs request (by cases request <;> trivial)

variable (h : MailService.Mirrors MailRequest.IsListing R service image)

include h

theorem userEmail (hs : R s t) :
    Alike R (Mailbox.userEmail service s) (Mailbox.userEmail image t) := by
  obtain ⟨answer, s', t', hx, hy, hs'⟩ := (h.answer hs .profile trivial).exists_eq
  unfold Mailbox.userEmail
  rw [hx, hy]
  cases answer with
  | none => exact ⟨rfl, hs'⟩
  | some value => cases value <;> exact ⟨rfl, hs'⟩

theorem listPage (query : Option String) (limit : Option Int) (page : Value) (hs : R s t) :
    Alike R (Mailbox.listPage query limit page service s)
      (Mailbox.listPage query limit page image t) := by
  obtain ⟨answer, s', t', hx, hy, hs'⟩ := (h.answer hs (.list query limit page) trivial).exists_eq
  unfold Mailbox.listPage
  rw [hx, hy]
  cases answer <;> exact ⟨rfl, hs'⟩

theorem listFrom (query : Option String) (wanted : Option Int) (pages : Nat) (found : List Value)
    (page : Value) (hs : R s t) :
    Alike R (Mailbox.listFrom query wanted service pages found page s)
      (Mailbox.listFrom query wanted image pages found page t) := by
  induction pages generalizing found page s t with
  | zero => exact ⟨rfl, hs⟩
  | succ pages ih =>
    unfold Mailbox.listFrom
    split
    · exact ⟨rfl, hs⟩
    · obtain ⟨answer, s', t', hx, hy, hs'⟩ :=
        (h.listPage query (Mailbox.remaining wanted found.length) page hs).exists_eq
      rw [hx, hy]
      cases answer with
      | error fault => exact ⟨rfl, hs'⟩
      | ok part =>
        dsimp only
        cases Resource.items part.messages with
        | error fault => exact ⟨rfl, hs'⟩
        | ok messages =>
          dsimp only
          split
          · exact ⟨rfl, hs'⟩
          · exact ih _ part.next hs'

end MailService.Mirrors

/-! ## Steps of a round -/

/-- Rounds with related desks that have told the same so far. -/
structure Round.Related (R : σ → τ → Prop) (round : Round σ) (image : Round τ) : Prop where
  desk : Desk.Related R round.desk image.desk
  notices : round.notices = image.notices

/-- Steps that go alike from related rounds. -/
structure RoundStep.Mirrors (R : σ → τ → Prop) (step : RoundStep σ α) (image : RoundStep τ α) :
    Prop where
  alike : ∀ {round other}, Round.Related R round other →
    Alike (Round.Related R) (step.run.run round) (image.run.run other)

theorem Round.run_atDesk (f : Desk σ → Except PassFault α × Desk σ) (round : Round σ) :
    (Round.atDesk f).run.run round =
      ((f round.desk).1.mapError RoundFault.pass, { round with desk := (f round.desk).2 }) := by
  have hget : (get : RoundStep σ (Round σ)).run.run round = (.ok round, round) := rfl
  rw [Round.atDesk, run_bind_eq, hget]
  cases hdesk : f round.desk with
  | mk result desk =>
    dsimp only
    rw [hdesk]
    cases result <;> rfl

namespace RoundStep.Mirrors

theorem pure (a : α) : Mirrors R (Pure.pure a) (Pure.pure a) := ⟨fun hround => ⟨rfl, hround⟩⟩

theorem throw (fault : RoundFault) :
    Mirrors R (throwThe RoundFault fault : RoundStep σ α) (throwThe RoundFault fault) :=
  ⟨fun hround => ⟨rfl, hround⟩⟩

theorem bind {step : RoundStep σ α} {image : RoundStep τ α} {next : α → RoundStep σ β}
    {imageNext : α → RoundStep τ β} (h : Mirrors R step image)
    (hnext : ∀ a, Mirrors R (next a) (imageNext a)) :
    Mirrors R (step >>= next) (image >>= imageNext) := by
  refine ⟨fun {round other} hround => ?_⟩
  obtain ⟨result, after, after', hx, hy, hafter⟩ := (h.alike hround).exists_eq
  rw [run_bind_eq, run_bind_eq, hx, hy]
  cases result with
  | error fault => exact ⟨rfl, hafter⟩
  | ok a => exact (hnext a).alike hafter

theorem note (notice : Notice) : Mirrors R (Round.note notice) (Round.note notice) :=
  ⟨fun hround => ⟨rfl, hround.desk, congrArg (· ++ [notice]) hround.notices⟩⟩

theorem lookInto (answer : Except ResourceFault α) :
    Mirrors R (Round.lookInto answer) (Round.lookInto answer) := by
  cases answer with
  | error fault => exact .throw _
  | ok a => exact .pure a

theorem outside {f : σ → α × σ} {g : τ → α × τ} (h : ∀ {s t}, R s t → Alike R (f s) (g t)) :
    Mirrors R (Round.outside f) (Round.outside g) :=
  ⟨fun hround =>
    have hanswer := h hround.desk.outer
    ⟨congrArg Except.ok hanswer.1, ⟨hround.desk.waiting, hround.desk.supply, hanswer.2⟩,
      hround.notices⟩⟩

theorem stored {f : σ → Except Trouble α × σ} {g : τ → Except Trouble α × τ}
    (h : ∀ {s t}, R s t → Alike R (f s) (g t)) : Mirrors R (Round.stored f) (Round.stored g) := by
  refine (outside h).bind fun answer => ?_
  cases answer with
  | error trouble => exact .throw _
  | ok a => exact .pure a

theorem atDesk {f : Desk σ → Except PassFault α × Desk σ} {g : Desk τ → Except PassFault α × Desk τ}
    (h : ∀ {desk other}, Desk.Related R desk other → Alike (Desk.Related R) (f desk) (g other)) :
    Mirrors R (Round.atDesk f) (Round.atDesk g) := by
  refine ⟨fun {round other} hround => ?_⟩
  obtain ⟨result, desk, desk', hx, hy, hdesk⟩ := (h hround.desk).exists_eq
  rw [Round.run_atDesk, Round.run_atDesk, hx, hy]
  exact ⟨rfl, hdesk, hround.notices⟩

theorem clear (emailId : String) :
    Mirrors R (Round.atDesk fun desk => (.ok (), desk.clear emailId))
      (Round.atDesk fun desk => (.ok (), desk.clear emailId)) :=
  atDesk fun hdesk => ⟨rfl, hdesk.clear emailId⟩

end RoundStep.Mirrors

/-! ## Rounds -/

/-- Intakes from which rounds go alike. -/
structure Intake.Mirrors (R : σ → τ → Prop) (intake : Intake σ) (image : Intake τ) : Prop where
  world : World.Mirrors R intake.world image.world
  service : MailService.Mirrors MailRequest.IsRead R intake.service image.service
  isProcessed : ∀ {s t}, R s t → ∀ emailId,
    Alike R (intake.isProcessed emailId s) (image.isProcessed emailId t)
  score : ∀ {s t}, R s t → ∀ address, Alike R (intake.score address s) (image.score address t)
  finish : ∀ {s t}, R s t → ∀ emailId rulesFired,
    Alike R (intake.finish emailId rulesFired s) (image.finish emailId rulesFired t)

namespace Intake.Mirrors

open RoundStep.Mirrors (note outside stored lookInto atDesk clear)

variable {intake : Intake σ} {image : Intake τ} (h : Intake.Mirrors R intake image)

theorem report (id : String) (email : Email) (report : PassReport) :
    RoundStep.Mirrors R (Round.report id email report) (Round.report id email report) := by
  refine (note _).bind fun _ => ?_
  cases report.navigation with
  | none => exact .pure ()
  | some navigation => exact note _

include h

theorem fetch (id format : String) :
    RoundStep.Mirrors R (Round.fetch intake id format) (Round.fetch image id format) :=
  (outside fun hs => h.service.answer hs (.get id format) trivial).bind fun _ => .pure _

theorem pass (id : String) (email : Email) :
    RoundStep.Mirrors R (Round.pass intake id email) (Round.pass image id email) := by
  refine (stored fun hs => h.score hs _).bind fun score => ?_
  refine (atDesk fun hdesk =>
    hdesk.processEmail (h.world.mirrorsAt _) (h.world.enabledRules hdesk.outer)
    email score none).bind fun outcome => ?_
  split
  · exact .pure _
  · refine (h.fetch id "full").bind fun answer => ?_
    cases answer with
    | none => exact (clear id).bind fun _ => .pure _
    | some message =>
      refine (lookInto _).bind fun loaded => ?_
      refine (atDesk fun hdesk => hdesk.processLoaded (h.world.mirrorsAt _)
        (h.world.enabledRules hdesk.outer) id _ _).bind fun resumed => ?_
      cases resumed with
      | none => exact .throw _
      | some outcome => exact .pure _

theorem take (id : String) : RoundStep.Mirrors R (Round.take intake id) (Round.take image id) := by
  refine (h.fetch id "metadata").bind fun answer => ?_
  cases answer with
  | none => exact (note _).bind fun _ => .pure _
  | some message =>
    refine (lookInto _).bind fun email => ?_
    refine (h.pass id email).bind fun result => ?_
    cases result with
    | none => exact (note _).bind fun _ => .pure _
    | some result =>
      exact (report id email result).bind fun _ =>
        (stored fun hs => h.finish hs id _).bind fun _ => .pure _

theorem visit (listed : Value) :
    RoundStep.Mirrors R (Round.visit intake listed) (Round.visit image listed) := by
  refine (lookInto _).bind fun id => ?_
  refine (stored fun hs => h.isProcessed hs id).bind fun done => ?_
  cases done with
  | true => exact (note _).bind fun _ => .pure _
  | false => exact h.take id

theorem visitAll (listed : List Value) :
    RoundStep.Mirrors R (Round.visitAll intake listed) (Round.visitAll image listed) := by
  induction listed with
  | nil => exact .pure 0
  | cons first rest ih => exact (h.visit first).bind fun _ => ih.bind fun _ => .pure _

theorem run (pages : Nat) (maxEmails days : Option Int) :
    RoundStep.Mirrors R (Round.run intake pages maxEmails days)
      (Round.run image pages maxEmails days) := by
  refine (outside fun hs => h.service.listing.userEmail hs).bind fun user => ?_
  split
  · exact note _
  · refine (note _).bind fun _ => (note _).bind fun _ => ?_
    refine (outside fun hs => h.service.listing.listFrom _ maxEmails pages [] .null hs).bind
      fun answer => ?_
    refine (lookInto answer).bind fun listed => (note _).bind fun _ => ?_
    exact (h.visitAll listed).bind fun _ => note _

end Intake.Mirrors

end MailTriage

import MailTriage.Proofs.Triage.Course

/-!
# Passes in worlds that answer alike

What a pass comes to depends on the world only through the replies of the host and of the engine of
scripts, and through the rules that it is given. Two worlds in related states that give equal
replies therefore have equal passes, and go to related states, as long as the relation survives the
recording of firings and the publishing of entries, whatever these answer. A desk adds one question,
which rules are enabled; when the answers are equal, every call is served alike.

The relation is arbitrary. Between a world and itself it may say that the two states are one and
that something holds of it: then what holds before a pass holds after it.
-/

namespace MailTriage

variable {σ τ : Type} {R : σ → τ → Prop}

/-! ## Passes -/

/-- Worlds in which rules at a time go alike. -/
structure World.ActsAlike (R : σ → τ → Prop) (timestamp : Int) (world : World σ) (image : World τ) :
    Prop where
  surroundings : Surroundings.Mirrors R world.toSurroundings image.toSurroundings
  recordFire : ∀ {s t}, R s t → ∀ ruleId,
    R (world.recordFire ruleId timestamp s).2 (image.recordFire ruleId timestamp t).2

/-- Worlds in which passes at a time go alike. -/
structure World.MirrorsAt (R : σ → τ → Prop) (timestamp : Int) (world : World σ) (image : World τ) :
    Prop extends
    World.ActsAlike R timestamp world image where
  publish : ∀ {s t}, R s t → ∀ entry, R (world.publish entry s) (image.publish entry t)

namespace World.ActsAlike

variable {world : World σ} {image : World τ} {s : σ} {t : τ}

theorem recordIfMatched {timestamp : Int} (h : World.ActsAlike R timestamp world image)
    (report : RuleReport) (hs : R s t) :
    R (world.recordIfMatched timestamp report s) (image.recordIfMatched timestamp report t) := by
  unfold World.recordIfMatched
  split
  · exact h.recordFire hs report.ruleId
  · exact hs

theorem runRules {timestamp : Int} (h : World.ActsAlike R timestamp world image) (rules : List Rule)
    (context : Context) (state : PassState) (hs : R s t) :
    Alike (Alike R) (world.runRules context timestamp rules state s)
      (image.runRules context timestamp rules state t) := by
  induction rules generalizing state s t with
  | nil => exact ⟨rfl, rfl, hs⟩
  | cons rule rest ih =>
    obtain ⟨report, x, y, hx, hy, hxy⟩ :=
      (h.surroundings.executeRule hs rule context state).exists_eq
    obtain ⟨state', s', t', rfl, rfl, hs'⟩ := hxy.exists_eq
    have hrecorded := h.recordIfMatched report hs'
    rw [World.runRules, World.runRules, hx, hy]
    dsimp only
    split
    · exact ⟨rfl, rfl, hrecorded⟩
    · obtain ⟨hreports, hrest⟩ := ih state' hrecorded
      exact ⟨congrArg (report :: ·) hreports, hrest⟩

end World.ActsAlike

theorem World.MirrorsAt.pass {world : World σ} {image : World τ} {s : σ} {t : τ} {supply : Supply}
    (h : World.MirrorsAt R supply.now world image) (rules : List Rule) (context : Context)
    (hs : R s t) :
    Alike (Alike R) (world.pass rules context supply s) (image.pass rules context supply t) := by
  obtain ⟨reports, x, y, hx, hy, hxy⟩ :=
    (h.runRules rules context { bindings := context.bindings } hs).exists_eq
  obtain ⟨state, s', t', rfl, rfl, hs'⟩ := hxy.exists_eq
  unfold World.pass
  rw [hx, hy]
  exact ⟨rfl, rfl, h.publish hs' _⟩

/-! ## Desks -/

/-- Desks at which the same contexts wait at the same time, with related states outside. -/
structure Desk.Related (R : σ → τ → Prop) (desk : Desk σ) (image : Desk τ) : Prop where
  waiting : desk.waiting = image.waiting
  supply : desk.supply = image.supply
  outer : R desk.outer image.outer

namespace Desk.Related

variable {world : World σ} {image : World τ} {desk : Desk σ} {other : Desk τ}

theorem clear (hdesk : Desk.Related R desk other) (emailId : String) :
    Desk.Related R (desk.clear emailId) (other.clear emailId) :=
  ⟨congrArg (Keyed.drop emailId) hdesk.waiting, hdesk.supply, hdesk.outer⟩

theorem run (hdesk : Desk.Related R desk other) (h : World.MirrorsAt R desk.supply.now world image)
    (rules : List Rule) (context : Context) :
    Alike (Desk.Related R) (Desk.run world rules context desk)
      (Desk.run image rules context other) := by
  obtain ⟨waiting, supply, s⟩ := desk
  obtain ⟨_, _, t⟩ := other
  obtain ⟨rfl, rfl, hs⟩ := hdesk
  obtain ⟨passEnd, x, y, hx, hy, hxy⟩ := (h.pass rules context hs).exists_eq
  obtain ⟨after, s', t', rfl, rfl, hs'⟩ := hxy.exists_eq
  unfold Desk.run
  dsimp only at hx hy ⊢
  rw [hx, hy]
  exact ⟨rfl, rfl, rfl, hs'⟩

variable (hdesk : Desk.Related R desk other) (h : World.MirrorsAt R desk.supply.now world image)
  (hrules : Alike R (world.enabledRules desk.outer) (image.enabledRules other.outer))

include hdesk h hrules

theorem process (context : Context) :
    Alike (Desk.Related R) (Desk.process world context desk)
      (Desk.process image context other) := by
  obtain ⟨answer, s', t', hx, hy, hs'⟩ := hrules.exists_eq
  unfold Desk.process
  rw [hx, hy]
  cases answer with
  | error trouble => exact ⟨rfl, hdesk.waiting, hdesk.supply, hs'⟩
  | ok rules =>
    have hasked : Desk.Related R { desk with outer := s' } { other with outer := t' } :=
      ⟨hdesk.waiting, hdesk.supply, hs'⟩
    obtain ⟨passEnd, after, after', hx, hy, hafter⟩ := (hasked.run h rules context).exists_eq
    dsimp only
    rw [hx, hy]
    exact ⟨rfl, hafter⟩

theorem processEmail (email : Email) (score : Option Binary64) (links : Option (List Link)) :
    Alike (Desk.Related R) (Desk.processEmail world email score links desk)
      (Desk.processEmail image email score links other) := by
  obtain ⟨answer, s', t', hx, hy, hs'⟩ := hrules.exists_eq
  unfold Desk.processEmail
  cases Context.prepare email score links [] with
  | error fault => exact ⟨rfl, hdesk⟩
  | ok context =>
    dsimp only
    rw [hx, hy]
    cases answer with
    | error trouble => exact ⟨rfl, hdesk.waiting, hdesk.supply, hs'⟩
    | ok rules =>
      have hasked : Desk.Related R { desk with outer := s' } { other with outer := t' } :=
        ⟨hdesk.waiting, hdesk.supply, hs'⟩
      dsimp only
      split
      · exact ⟨rfl, congrArg (Keyed.put email.id context) hdesk.waiting, hdesk.supply, hs'⟩
      · obtain ⟨passEnd, after, after', hx, hy, hafter⟩ := (hasked.run h rules context).exists_eq
        rw [hx, hy]
        exact ⟨rfl, hafter⟩

theorem processLoaded (emailId body : String) (htmlBody : Option String) :
    Alike (Desk.Related R) (Desk.processLoaded world emailId body htmlBody desk)
      (Desk.processLoaded image emailId body htmlBody other) := by
  obtain ⟨waiting, supply, s⟩ := desk
  obtain ⟨_, _, t⟩ := other
  obtain ⟨rfl, rfl, hs⟩ := hdesk
  unfold Desk.processLoaded
  dsimp only
  cases waiting.find? emailId with
  | none => exact ⟨rfl, rfl, rfl, hs⟩
  | some context =>
    have hcleared :
        Desk.Related R ⟨waiting.drop emailId, supply, s⟩ ⟨waiting.drop emailId, supply, t⟩ :=
      ⟨rfl, rfl, hs⟩
    dsimp only
    cases context.load body htmlBody with
    | error fault => exact ⟨rfl, hcleared⟩
    | ok context =>
      obtain ⟨answer, after, after', hx, hy, hafter⟩ :=
        (hcleared.process h hrules context).exists_eq
      dsimp only
      rw [hx, hy]
      cases answer <;> exact ⟨rfl, hafter⟩

end Desk.Related

/-! ## Worlds alike at any time -/

/-- Worlds in which all passes go alike, and which have the same enabled rules. -/
structure World.Mirrors (R : σ → τ → Prop) (world : World σ) (image : World τ) : Prop where
  surroundings : Surroundings.Mirrors R world.toSurroundings image.toSurroundings
  enabledRules : ∀ {s t}, R s t → Alike R (world.enabledRules s) (image.enabledRules t)
  recordFire : ∀ {s t}, R s t → ∀ ruleId timestamp,
    R (world.recordFire ruleId timestamp s).2 (image.recordFire ruleId timestamp t).2
  publish : ∀ {s t}, R s t → ∀ entry, R (world.publish entry s) (image.publish entry t)

theorem World.Mirrors.mirrorsAt {world : World σ} {image : World τ}
    (h : World.Mirrors R world image) (timestamp : Int) :
    World.MirrorsAt R timestamp world image where
  surroundings := h.surroundings
  recordFire hs ruleId := h.recordFire hs ruleId timestamp
  publish := h.publish

/-! ## What a world keeps -/

/-- What is kept by everything that a pass does in a world. -/
structure World.Keeps (I : σ → Prop) (world : World σ) : Prop where
  perform : ∀ {s}, I s → ∀ request, I (world.perform request s).2
  evaluate : ∀ {s}, I s → ∀ run, I (world.evaluate run s).2
  enabledRules : ∀ {s}, I s → I (world.enabledRules s).2
  recordFire : ∀ {s}, I s → ∀ ruleId timestamp, I (world.recordFire ruleId timestamp s).2
  publish : ∀ {s}, I s → ∀ entry, I (world.publish entry s)

/-- Between a world and itself, something that it keeps holds on both sides. -/
theorem World.Keeps.mirrors {I : σ → Prop} {world : World σ} (h : world.Keeps I) :
    World.Mirrors (fun outer other => outer = other ∧ I outer) world world where
  surroundings :=
    { perform := by rintro s _ ⟨rfl, hs⟩ request; exact ⟨rfl, rfl, h.perform hs request⟩
      evaluate := by rintro s _ ⟨rfl, hs⟩ run; exact ⟨rfl, rfl, h.evaluate hs run⟩ }
  enabledRules := by rintro s _ ⟨rfl, hs⟩; exact ⟨rfl, rfl, h.enabledRules hs⟩
  recordFire := by
    rintro s _ ⟨rfl, hs⟩ ruleId timestamp; exact ⟨rfl, h.recordFire hs ruleId timestamp⟩
  publish := by rintro s _ ⟨rfl, hs⟩ entry; exact ⟨rfl, h.publish hs entry⟩

end MailTriage

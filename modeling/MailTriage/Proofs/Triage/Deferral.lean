import MailTriage.Proofs.Triage.Course

/-!
# Putting a pass off

When a rule tests the body and only the headers have been fetched, the pass waits at the desk for
the body. It then runs on the context that was prepared from the headers, into which the body is
put. That context is the one that the complete email would have been given, with one exception:
links that were given as none at all are looked for again. So putting a pass off makes no difference
exactly when this does not happen, or finds nothing.
-/

namespace MailTriage

variable {σ : Type}

/-! ## The two ways to a context -/

/-- An email of which only the headers have been fetched. -/
structure Email.Bare (email : Email) : Prop where
  contentLoaded : email.contentLoaded = false
  body : email.body = none
  htmlBody : email.htmlBody = none

def Email.complete (email : Email) (body htmlBody : Option String) : Email :=
  { email with body := body, htmlBody := htmlBody, contentLoaded := true }

def Context.ofLinks (email : Email) (score : Option Binary64) (links : List Link) : Context :=
  { email := email, sender := Sender.ofHeader email.fromHeader, links := links, score := score }

/-- The links that an email comes with: those given, or else those in its bodies. -/
def Link.givenOr (links : Option (List Link)) (body htmlBody : String) :
    Except LinkFault (List Link) :=
  match links with
  | some links => .ok links
  | none => Link.ofBodies body htmlBody

theorem Context.prepare_eq (email : Email) (score : Option Binary64) (links : Option (List Link)) :
    Context.prepare email score links [] =
      (Link.givenOr links (email.body.getD "") (email.htmlBody.getD "")).map
        (Context.ofLinks email score) := by
  cases links with
  | some links => rfl
  | none =>
    unfold Context.prepare Link.givenOr
    cases Link.ofBodies (email.body.getD "") (email.htmlBody.getD "") <;> rfl

theorem Link.ofBodies_empty : Link.ofBodies "" "" = .ok [] := by rfl

namespace Email.Bare

variable {email : Email} (h : email.Bare)

include h

theorem prepare (score : Option Binary64) (links : Option (List Link)) :
    Context.prepare email score links [] = .ok (Context.ofLinks email score (links.getD [])) := by
  rw [Context.prepare_eq, h.body, h.htmlBody]
  cases links with
  | some links => rfl
  | none => rw [Link.givenOr, Option.getD_none, Link.ofBodies_empty]; rfl

theorem load {body : String} {htmlBody : Option String} (hhtml : htmlBody ≠ some "") :
    email.load body htmlBody = email.complete (some body) htmlBody := by
  unfold Email.load Email.complete
  cases htmlBody with
  | none => rw [h.htmlBody]
  | some html =>
    have hne : html.isEmpty = false := by
      rw [Bool.eq_false_iff]
      intro he
      exact hhtml (by rw [String.isEmpty_iff.mp he])
    simp [hne]

end Email.Bare

/-- The links that are still known when the bodies arrive: those given, unless they are none. -/
def Link.known (links : Option (List Link)) : Option (List Link) :=
  links.filter fun links => !links.isEmpty

/-- Putting the bodies into the context of the headers gives the context of the complete email,
except that links given as none are looked for. -/
theorem Context.load_ofLinks {email : Email} (h : email.Bare) {body : String}
    {htmlBody : Option String} (hhtml : htmlBody ≠ some "") (score : Option Binary64)
    (links : Option (List Link)) :
    (Context.ofLinks email score (links.getD [])).load body htmlBody =
      (Link.givenOr (Link.known links) body (htmlBody.getD "")).map
        (Context.ofLinks (email.complete (some body) htmlBody) score) := by
  have hload : (Context.ofLinks email score (links.getD [])).email.load body htmlBody =
      email.complete (some body) htmlBody := h.load hhtml
  unfold Context.load
  rw [hload]
  match links with
  | none | some [] =>
    change (do
      let links ← Link.ofBodies body (htmlBody.getD "")
      return Context.ofLinks (email.complete (some body) htmlBody) score links) = Except.map _ _
    rw [show Link.givenOr (Link.known _) body (htmlBody.getD "") =
      Link.ofBodies body (htmlBody.getD "") from rfl]
    cases Link.ofBodies body (htmlBody.getD "") <;> rfl
  | some (link :: rest) => rfl

/-- Looking again for links that were given as none makes no difference when there are none. -/
theorem Link.givenOr_known {links : Option (List Link)} {body htmlBody : String}
    (h : links = some [] → Link.ofBodies body htmlBody = .ok []) :
    Link.givenOr (Link.known links) body htmlBody = Link.givenOr links body htmlBody := by
  match links with
  | none => rfl
  | some [] => exact h rfl
  | some (link :: rest) => rfl

/-! ## The two ways to a pass -/

def Desk.runOn (world : World σ) (rules : List Rule) (context : Except LinkFault Context)
    (desk : Desk σ) :
    Except PassFault PassOutcome × Desk σ :=
  match context with
  | .error fault => (.error (.links fault), desk)
  | .ok context =>
    let (passEnd, desk) := Desk.run world rules context desk
    (.ok passEnd.outcome, desk)

section

variable {world : World σ} {email : Email} (score : Option Binary64) (links : Option (List Link))
  {desk : Desk σ} {rules : List Rule}
    (hrules : world.enabledRules desk.outer = (.ok rules, desk.outer))

include hrules

theorem Desk.processEmail_complete (body : String) (htmlBody : Option String) :
    Desk.processEmail world (email.complete (some body) htmlBody) score links desk =
      Desk.runOn world rules ((Link.givenOr links body (htmlBody.getD "")).map
        (Context.ofLinks (email.complete (some body) htmlBody) score)) desk := by
  have hprepare : Context.prepare (email.complete (some body) htmlBody) score links [] =
      (Link.givenOr links body (htmlBody.getD "")).map
        (Context.ofLinks (email.complete (some body) htmlBody) score) := Context.prepare_eq ..
  unfold Desk.processEmail
  rw [hprepare]
  cases Link.givenOr links body (htmlBody.getD "") with
  | error fault => rfl
  | ok links =>
    simp only [Except.map, hrules]
    rfl

/-- A pass on the headers of an email is put off when a rule tests the body. -/
theorem Desk.processEmail_bare (h : email.Bare) (hcontent : readsContent rules = true) :
    Desk.processEmail world email score links desk =
      (.ok .putOff,
        { desk with waiting := desk.waiting.put email.id
                      (.ofLinks email score (links.getD [])) }) := by
  unfold Desk.processEmail
  rw [h.prepare]
  simp [hrules, hcontent, h.contentLoaded]

theorem Desk.processLoaded_put (emailId body : String) (htmlBody : Option String)
    (context : Context) :
    Desk.processLoaded world emailId body htmlBody
        { desk with waiting := desk.waiting.put emailId context } =
      ((Desk.runOn world rules (context.load body htmlBody) desk).1.map some,
        { (Desk.runOn world rules (context.load body htmlBody) desk).2 with
          waiting := desk.waiting.drop emailId }) := by
  unfold Desk.processLoaded Desk.runOn
  rw [Keyed.find?_put_self, Keyed.drop_put_self]
  dsimp only
  cases context.load body htmlBody with
  | error fault => rfl
  | ok context =>
    simp only [Desk.process, hrules]
    rfl

end

/-! ## A rule that tells links -/

def Condition.hasLinks : Condition :=
  { id := "links", kind := "has_links", operator := "equals", value := some (.bool true) }

def Rule.linked : Rule :=
  { id := "linked", name := "Linked", conditions := [.hasLinks], createdAt := 0, lastModified := 0 }

def Rule.texted : Rule :=
  { id := "texted", name := "Texted", createdAt := 0, lastModified := 0
    conditions := [{ id := "text", kind := "content", operator := "exists" }] }

theorem Condition.readsContent_eq {condition : Condition} {subject : Subject}
    (h : Subject.ofKind? condition.kind = some subject) :
    condition.readsContent = subject.isContent := by
  rw [Condition.readsContent, h]

theorem Condition.evaluate_eq {condition : Condition} {context : Context}
    (h : (condition.readsContent && !context.email.contentLoaded) = false) :
    condition.evaluate context =
      match Subject.ofKind? condition.kind with
      | none => .ok (condition.unevaluated ("Unknown condition type: " ++ condition.kind))
      | some subject =>
        match condition.effectiveOperator.apply condition.caseSensitive (context.read? subject)
          condition.expected with
        | .error failure => .error ⟨failure, condition.expected.spelled⟩
        | .ok matched =>
          if Json.isWritable condition.expected && Json.isWritable (context.read? subject) then .ok
            { conditionId := condition.id, kind := condition.kind, matched := matched
              actual := context.read? subject, expected := condition.expected }
          else .error ⟨.numberTooLong, condition.expected.spelled⟩ := by
  have hread : ¬ (condition.readsContent && !context.email.contentLoaded) = true := by simp [h]
  exact if_neg hread

theorem Condition.exists_evaluate {condition : Condition} {context : Context} {subject : Subject}
    {matched : Bool} (hsubject : Subject.ofKind? condition.kind = some subject)
    (hcontent : subject.isContent = false)
    (happly : condition.effectiveOperator.apply condition.caseSensitive (context.read? subject)
      condition.expected = .ok matched)
    (hexpected : Json.isWritable condition.expected = true)
    (hactual : Json.isWritable (context.read? subject) = true) :
    ∃ report, condition.evaluate context = .ok report ∧ report.matched = matched := by
  have hread : (condition.readsContent && !context.email.contentLoaded) = false := by
    rw [Condition.readsContent_eq hsubject, hcontent, Bool.false_and]
  rw [Condition.evaluate_eq hread, hsubject]
  dsimp only
  rw [happly, hexpected, hactual]
  exact ⟨_, rfl, rfl⟩

/-- The condition compares whether there are links with true, whatever the rest of the context. -/
theorem Condition.hasLinks_evaluate (context : Context) :
    ∃ report, Condition.hasLinks.evaluate context = .ok report ∧
      report.matched = !context.links.isEmpty := by
  have hsubject : Subject.ofKind? Condition.hasLinks.kind = some (.field .hasLinks) := by decide
  refine Condition.exists_evaluate hsubject rfl ?_ rfl rfl
  have hoperator : Condition.hasLinks.effectiveOperator = .equals := by decide
  have hsame (b : Bool) :
      Operator.apply .equals Condition.hasLinks.caseSensitive (.bool b)
        Condition.hasLinks.expected =
        .ok b := by
    cases b <;> rfl
  rw [hoperator, Context.read?, hsame]

theorem Logic.combine_singleton (logic : Logic) {context : Context} {condition : Condition}
    {report : ConditionReport} (h : condition.evaluate context = .ok report) :
    logic.combine context [condition] = .ok (report.matched, [report]) := by
  cases logic <;> cases hmatched : report.matched <;>
    simp [Logic.combine, Logic.evaluateAll, Logic.isDecidedBy, h, hmatched, bind, Except.bind]

theorem Rule.execute_matched {world : Surroundings σ} {context : Context} {rule : Rule}
    {condition : Condition} (hrule : rule.conditions = [condition]) {state : PassState}
    {report : ConditionReport}
    (hreport : condition.evaluate { context with bindings := state.bindings } = .ok report)
    (outer : σ) :
    (rule.execute world context state outer).1.matched = report.matched := by
  unfold Rule.execute
  rw [hrule, Logic.combine_singleton rule.logic hreport]
  cases report.matched <;> rfl

theorem Rule.linked_matched (world : Surroundings σ) (context : Context) (state : PassState)
    (outer : σ) :
    (Rule.linked.execute world context state outer).1.matched = !context.links.isEmpty := by
  obtain ⟨report, hreport, hmatched⟩ :=
    Condition.hasLinks_evaluate { context with bindings := state.bindings }
  rw [Rule.execute_matched rfl hreport, hmatched]

theorem World.runRules_head? (world : World σ) (context : Context) (timestamp : Int) (rule : Rule)
    (rest : List Rule) (state : PassState) (outer : σ) :
    (world.runRules context timestamp (rule :: rest) state outer).1.head? =
      some (rule.execute world.toSurroundings context state outer).1 := by
  rw [World.runRules]
  dsimp only
  split <;> rfl

theorem World.pass_rules (world : World σ) (rules : List Rule) (context : Context) (supply : Supply)
    (outer : σ) :
    (world.pass rules context supply outer).1.outcome.report.rules =
      (world.runRules context supply.now rules { bindings := context.bindings } outer).1 := rfl

theorem Desk.runOn_linked (world : World σ) (desk : Desk σ) (rest : List Rule) (context : Context) :
    ∃ outcome, (Desk.runOn world (.linked :: rest) (.ok context) desk).1 = .ok outcome ∧
      outcome.report.rules.head?.map RuleReport.matched = some (!context.links.isEmpty) := by
  refine ⟨(world.pass (.linked :: rest) context desk.supply desk.outer).1.outcome, rfl, ?_⟩
  rw [World.pass_rules, World.runRules_head?, Option.map_some, Rule.linked_matched]

/-! ## Putting off is transparent -/

/-- The pass on an email is put off, and what comes of it once its bodies have arrived is what comes
of a pass on the complete email at that time. -/
structure Desk.Transparent (world : World σ) (email : Email) (score : Option Binary64)
    (links : Option (List Link)) (body : String) (htmlBody : Option String) (desk : Desk σ)
    (later : Supply) : Prop where
  putOff : (Desk.processEmail world email score links desk).1 = .ok .putOff
  resumed : Desk.processLoaded world email.id body htmlBody
      { (Desk.processEmail world email score links desk).2 with supply := later } =
    ((Desk.processEmail world (email.complete (some body) htmlBody) score links
        { desk with supply := later }).1.map some,
      { (Desk.processEmail world (email.complete (some body) htmlBody) score links
          { desk with supply := later }).2 with waiting := desk.waiting.drop email.id })

/-- Both ways come to a pass of the same rules, and only the links in the context can differ. -/
theorem Desk.processLoaded_processEmail {world : World σ} {desk : Desk σ} {email : Email}
    (h : email.Bare) {htmlBody : Option String} (hhtml : htmlBody ≠ some "") {rules : List Rule}
    (hrules : world.enabledRules desk.outer = (.ok rules, desk.outer))
    (hcontent : readsContent rules = true) (score : Option Binary64) (links : Option (List Link))
    (body : String) (later : Supply) :
    Desk.processLoaded world email.id body htmlBody
        { (Desk.processEmail world email score links desk).2 with supply := later } =
      ((Desk.processEmail world (email.complete (some body) htmlBody) score (Link.known links)
          { desk with supply := later }).1.map some,
        { (Desk.processEmail world (email.complete (some body) htmlBody) score (Link.known links)
            { desk with supply := later }).2 with waiting := desk.waiting.drop email.id }) := by
  have hlater : world.enabledRules { desk with supply := later }.outer =
    (.ok rules, { desk with supply := later }.outer) := hrules
  rw [Desk.processEmail_bare score links hrules h hcontent,
    Desk.processEmail_complete score (Link.known links) hlater, ← Context.load_ofLinks h hhtml]
  exact Desk.processLoaded_put hlater email.id body htmlBody _

/-- Putting off is transparent, for every world and at every desk, exactly when links that were
given as none are not in the bodies either. -/
theorem Desk.transparent_iff {email : Email} (h : email.Bare) (score : Option Binary64)
    (links : Option (List Link)) (body : String) {htmlBody : Option String}
    (hhtml : htmlBody ≠ some "") :
    (∀ (σ : Type) (world : World σ) (desk : Desk σ) (later : Supply) (rules : List Rule),
        world.enabledRules desk.outer = (.ok rules, desk.outer) → readsContent rules = true →
        Desk.Transparent world email score links body htmlBody desk later) ↔
      (links = some [] → Link.ofBodies body (htmlBody.getD "") = .ok []) := by
  constructor
  · rintro htransparent rfl
    let world : World Unit := .still [.linked, .texted]
    let desk : Desk Unit := ⟨[], ⟨0, 0⟩, ()⟩
    have hrules : world.enabledRules desk.outer = (.ok [.linked, .texted], desk.outer) := rfl
    have hcontent : readsContent [.linked, .texted] = true := by decide
    have hresumed := (htransparent Unit world desk ⟨0, 0⟩ _ hrules hcontent).resumed
    rw [Desk.processLoaded_processEmail h hhtml hrules hcontent] at hresumed
    have hsame := congrArg Prod.fst hresumed
    dsimp only at hsame
    rw [Desk.processEmail_complete _ _ hrules, Desk.processEmail_complete _ _ hrules] at hsame
    rw [show Link.givenOr (Link.known (some [])) body (htmlBody.getD "") =
      Link.ofBodies body (htmlBody.getD "") from rfl] at hsame
    -- the rule about links tells the two contexts apart
    obtain ⟨direct, hdirect, hnone⟩ :=
      Desk.runOn_linked world desk [.texted]
        (Context.ofLinks (email.complete (some body) htmlBody) score [])
    change _ = (Desk.runOn world [.linked, .texted] (.ok _) desk).1.map some at hsame
    rw [hdirect] at hsame
    cases hfound : Link.ofBodies body (htmlBody.getD "") with
    | error fault =>
      rw [hfound] at hsame
      exact nomatch hsame
    | ok found =>
      obtain ⟨resumed, hrun, htold⟩ :=
        Desk.runOn_linked world desk [.texted]
          (Context.ofLinks (email.complete (some body) htmlBody) score found)
      rw [hfound, Except.map, hrun] at hsame
      obtain rfl : resumed = direct := by simpa [Except.map] using hsame
      have hempty : found.isEmpty = true := by simpa [hnone, Context.ofLinks] using htold
      rw [List.isEmpty_iff.mp hempty]
  · intro hagain σ world desk later rules hrules hcontent
    have hlater : world.enabledRules { desk with supply := later }.outer =
      (.ok rules, { desk with supply := later }.outer) := hrules
    refine ⟨by rw [Desk.processEmail_bare score links hrules h hcontent], ?_⟩
    rw [Desk.processLoaded_processEmail h hhtml hrules hcontent,
      Desk.processEmail_complete _ _ hlater, Desk.processEmail_complete _ _ hlater,
      Link.givenOr_known hagain]

/-- An email of which only the headers have been fetched, with a sender that is not an address. -/
def Email.headersOnly : Email :=
  { id := "m", fromHeader := "Mailer Daemon", contentLoaded := false }

theorem Desk.transparent_iff_headersOnly :
    Email.headersOnly.Bare ∧ (none : Option String) ≠ some "" ∧
      ((∀ (σ : Type) (world : World σ) (desk : Desk σ) (later : Supply) (rules : List Rule),
          world.enabledRules desk.outer = (.ok rules, desk.outer) → readsContent rules = true →
          Desk.Transparent world .headersOnly none none "See you soon" none desk later) ↔
        ((none : Option (List Link)) = some [] → Link.ofBodies "See you soon" "" = .ok [])) :=
  have h : Email.headersOnly.Bare := ⟨rfl, rfl, rfl⟩
  ⟨h, by decide, Desk.transparent_iff h none none "See you soon" (by decide)⟩

end MailTriage

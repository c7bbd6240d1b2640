import MailTriage.Proofs.Link.Readable
import MailTriage.Proofs.Template.Sources

/-!
# Passes on headers alone

A pass on the headers of an email and a pass on the complete email share everything but the bodies,
the links that are found in them, and whatever of these has been saved in variables. A rule is
settled by the headers when its conditions test nothing of the kind and its actions save nothing of
the kind where conditions look for it. Rules that are settled match in both passes alike. Of the
kinds of conditions, those about links and about variables are not settled, and each of them alone
can tell the two passes apart.
-/

namespace MailTriage

variable {σ τ : Type}

/-! ## Settled rules -/

/-- Whether what a condition reads is settled by the headers, given whether there are links in the
bodies and which variables are settled. -/
def Subject.isSettled (linked : Bool) (names : List String) : Subject → Bool
  | .saved name => names.contains name
  | .field .content => false
  | .field .contentRegex => false
  | .field .urlContains => !linked
  | .field .linkDomain => !linked
  | .field .hasLinks => !linked
  | .field _ => true

/-- Whether a condition is settled; nobody knows what one of an unknown kind would read. -/
def Condition.isSettled (linked : Bool) (names : List String) (condition : Condition) : Bool :=
  match Subject.ofKind? condition.kind with
  | none => true
  | some subject => subject.isSettled linked names

def Source.isSettled (linked : Bool) : Source → Bool
  | .subject => true
  | .sender => true
  | .urls => !linked
  | .content => false

def Assignment.searches (assignment : Assignment) : Bool :=
  !(assignment.pattern.getD "").isEmpty && assignment.value.isAbsent

theorem Assignment.evaluate_eq (assignment : Assignment) (context : Context) (bindings : Fields) :
    assignment.evaluate context bindings =
      if assignment.searches then
        Assignment.extract (assignment.pattern.getD "") assignment.group
          (assignment.source.textIn context)
      else
        match assignment.value with
        | .text template => (context.fill bindings template).map Value.text
        | other => .ok other := by
  unfold Assignment.evaluate Assignment.searches
  cases assignment.value <;> rfl

def Assignment.isSettled (linked : Bool) (names : List String) (assignment : Assignment) : Bool :=
  if assignment.searches then assignment.source.isSettled linked
  else
    match assignment.value with
    | .text template => Template.isSettled linked names template.toList
    | _ => true

/-- Whether a step leaves the given variables settled. A script may write any of them. -/
def Step.isSettled (linked : Bool) (names : List String) : Step → Bool
  | .runScript _ => names.isEmpty
  | .saveVariable assignment => !names.contains assignment.name || assignment.isSettled linked names
  | _ => true

def Action.isSettled (linked : Bool) (names : List String) (action : Action) : Bool :=
  match action.step with
  | .ok step => step.isSettled linked names
  | .error _ => true

def Rule.isSettled (linked : Bool) (names : List String) (rule : Rule) : Bool :=
  rule.conditions.all (Condition.isSettled linked names) &&
    rule.actions.all (Action.isSettled linked names)

theorem Condition.readsContent_of_isSettled {linked : Bool} {names : List String}
    {condition : Condition} (h : condition.isSettled linked names = true) :
    condition.readsContent = false := by
  unfold Condition.isSettled at h
  unfold Condition.readsContent
  cases hkind : Subject.ofKind? condition.kind with
  | none => rfl
  | some subject =>
    rw [hkind] at h
    cases subject with
    | saved name => rfl
    | field kind => cases kind <;> first | rfl | exact nomatch h

/-! ## What two passes share -/

/-- Two contexts of one email that differ at most in its bodies, and in the links when there are
any. -/
structure Context.SameHeaders (linked : Bool) (context context' : Context) : Prop where
  email : ∀ key,
    key ∉ Template.bodyKeys → context.email.toFields.get? key = context'.email.toFields.get? key
  subject : context.email.subject = context'.email.subject
  fromHeader : context.email.fromHeader = context'.email.fromHeader
  sender : context.sender = context'.sender
  score : context.score = context'.score
  links : linked = false → context.links = context'.links

/-- Two states of a pass that agree in the direction and on the given variables. -/
structure PassState.SameSaved (names : List String) (state state' : PassState) : Prop where
  navigation : state.navigation = state'.navigation
  saved : ∀ name ∈ names, state.bindings.get? name = state'.bindings.get? name

theorem Fields.get?_cons_of_ne {key other : String} (h : other ≠ key) (value : Value)
    (fields : Fields) :
    Fields.get? other ((key, value) :: fields) = Fields.get? other fields := if_neg h.symm

theorem Fields.get?_cons_congr {key other : String} {value : Value} {fields fields' : Fields}
    (h : Fields.get? other fields = Fields.get? other fields') :
    Fields.get? other ((key, value) :: fields) = Fields.get? other ((key, value) :: fields') := by
  rw [Fields.get?, Fields.get?, h]

section

variable {linked : Bool} {names : List String} {context context' : Context}
  (hcontext : Context.SameHeaders linked context context') {state state' : PassState}
  (hstate : PassState.SameSaved names state state')

include hcontext hstate

theorem Context.SameHeaders.read?_eq {subject : Subject}
    (h : subject.isSettled linked names = true) :
    Context.read? { context with bindings := state.bindings } subject =
      Context.read? { context' with bindings := state'.bindings } subject := by
  cases subject with
  | saved name =>
    rw [Context.read?, Context.read?, hstate.saved name (by simpa [Subject.isSettled] using h)]
  | field kind =>
    cases kind with
    | senderEmail | senderName => rw [Context.read?, Context.read?, hcontext.sender]
    | subject => rw [Context.read?, Context.read?, hcontext.subject]
    | content | contentRegex => simp [Subject.isSettled] at h
    | urlContains | linkDomain | hasLinks =>
      have hlinks := hcontext.links (by simpa [Subject.isSettled] using h)
      simp only [Context.read?, Context.linkUrls, Context.linkDomains, hlinks]
    | senderScore => rw [Context.read?, Context.read?, hcontext.score]
    | customVariable => rfl

theorem Context.SameHeaders.evaluate_eq {condition : Condition}
    (h : condition.isSettled linked names = true) :
    condition.evaluate { context with bindings := state.bindings } =
      condition.evaluate { context' with bindings := state'.bindings } := by
  unfold Condition.evaluate
  rw [Condition.readsContent_of_isSettled h, Bool.false_and, Bool.false_and,
    if_neg Bool.false_ne_true, if_neg Bool.false_ne_true]
  unfold Condition.isSettled at h
  cases hkind : Subject.ofKind? condition.kind with
  | none => rfl
  | some subject =>
    rw [hkind] at h
    dsimp only
    rw [hcontext.read?_eq hstate h]

theorem Context.SameHeaders.combine_eq {logic : Logic} {conditions : List Condition}
    (h : conditions.all (Condition.isSettled linked names) = true) :
    logic.combine { context with bindings := state.bindings } conditions =
      logic.combine { context' with bindings := state'.bindings } conditions := by
  have hall : logic.evaluateAll { context with bindings := state.bindings } conditions =
      logic.evaluateAll { context' with bindings := state'.bindings } conditions := by
    induction conditions with
    | nil => rfl
    | cons condition rest ih =>
      obtain ⟨hcondition, hrest⟩ := Bool.and_eq_true_iff.mp (List.all_cons.symm.trans h)
      rw [Logic.evaluateAll, Logic.evaluateAll, hcontext.evaluate_eq hstate hcondition, ih hrest]
  rw [Logic.combine, Logic.combine, hall]

/-- Two contexts show a template the same view, apart from what is not settled. -/
theorem Context.SameHeaders.sameView :
    Template.SameView linked names (context.view state.bindings)
      (context'.view state'.bindings) where
  email := ⟨_, _, rfl, rfl, hcontext.email⟩
  saved := ⟨_, _, rfl, rfl, hstate.saved⟩
  others := by
    intro root hemail hvariables hlinks
    rw [Context.view, Context.view, Fields.get?_cons_of_ne hemail, Fields.get?_cons_of_ne hemail,
      hcontext.sender, hcontext.score]
    refine Fields.get?_cons_congr ?_
    cases linked with
    | false =>
      rw [hcontext.links rfl]
      refine Fields.get?_cons_congr (Fields.get?_cons_congr ?_)
      rw [Fields.get?_cons_of_ne hvariables, Fields.get?_cons_of_ne hvariables]
    | true =>
      rw [Fields.get?_cons_of_ne (hlinks rfl), Fields.get?_cons_of_ne (hlinks rfl)]
      refine Fields.get?_cons_congr ?_
      rw [Fields.get?_cons_of_ne hvariables, Fields.get?_cons_of_ne hvariables]

theorem Context.SameHeaders.assignment_eq {assignment : Assignment}
    (h : assignment.isSettled linked names = true) :
    assignment.evaluate context state.bindings = assignment.evaluate context' state'.bindings := by
  rw [Assignment.evaluate_eq, Assignment.evaluate_eq]
  unfold Assignment.isSettled at h
  split at h
  · next hsearches =>
    rw [if_pos hsearches, if_pos hsearches]
    have htext : assignment.source.textIn context = assignment.source.textIn context' := by
      cases hsource : assignment.source with
      | subject => exact hcontext.subject
      | sender => exact hcontext.fromHeader
      | urls =>
        rw [hsource] at h
        have hlinks := hcontext.links (by simpa [Source.isSettled] using h)
        simp only [Source.textIn, Context.linkUrls, hlinks]
      | content =>
        rw [hsource] at h
        simp [Source.isSettled] at h
    rw [htext]
  · next hsearches =>
    rw [if_neg hsearches, if_neg hsearches]
    split at h
    · next template hvalue =>
      rw [Context.fill, Context.fill, Context.resolve, Context.resolve,
        (hcontext.sameView hstate).expand_eq h]
    · rfl

end

/-! ## Settled actions -/

def Step.mayWrite (name : String) : Step → Bool
  | .runScript _ => true
  | .saveVariable assignment => assignment.name = name
  | _ => false

theorem Step.perform_get?_of_not_mayWrite {world : Surroundings σ} {context : Context}
    {state : PassState} {outer : σ} {step : Step} {name : String} (h : step.mayWrite name = false) :
    (step.perform world context state outer).2.1.bindings.get? name = state.bindings.get? name := by
  cases step with
  | runScript => exact nomatch h
  | saveVariable assignment =>
    have hne : name ≠ assignment.name := by
      rintro rfl
      simp [Step.mayWrite] at h
    rw [Step.perform]
    split
    · rfl
    · exact Fields.get?_set_of_ne hne _ _
  | openUrl => rw [Step.perform_openUrl_state]
  | notify => rw [Step.perform_notify_state]
  | logMessage | requestSummary =>
    rw [Step.perform]
    split <;> rfl
  | goToNext | goToPrevious => rfl
  | addScore | markEmail | deleteEmail | markAsRead =>
    rw [Step.perform, Step.ask_state]

section

variable {linked : Bool} {names : List String} {context context' : Context}
  (hcontext : Context.SameHeaders linked context context') (world : Surroundings σ)

include hcontext

theorem Context.SameHeaders.perform {state state' : PassState}
    (hstate : PassState.SameSaved names state state') {step : Step}
    (h : step.isSettled linked names = true) (outer outer' : σ) :
    PassState.SameSaved names (step.perform world context state outer).2.1
      (step.perform world context' state' outer').2.1 where
  navigation := by rw [Step.perform_navigation, Step.perform_navigation, hstate.navigation]
  saved := by
    intro name hname
    by_cases hwrite : step.mayWrite name = true
    · cases step with
      | runScript =>
        rw [List.isEmpty_iff.mp h] at hname
        simp at hname
      | saveVariable assignment =>
        obtain rfl : assignment.name = name := by simpa [Step.mayWrite] using hwrite
        have hsettled : assignment.isSettled linked names = true := by
          simpa [Step.isSettled, hname] using h
        rw [Step.perform, Step.perform, hcontext.assignment_eq hstate hsettled]
        cases assignment.evaluate context' state'.bindings with
        | error fault => exact hstate.saved _ hname
        | ok value =>
          dsimp only
          rw [Fields.get?_set_self, Fields.get?_set_self]
      | openUrl | logMessage | addScore | markEmail | notify | deleteEmail | markAsRead
      | requestSummary | goToNext | goToPrevious => simp [Step.mayWrite] at hwrite
    · rw [Bool.not_eq_true] at hwrite
      rw [Step.perform_get?_of_not_mayWrite hwrite, Step.perform_get?_of_not_mayWrite hwrite]
      exact hstate.saved name hname

theorem Context.SameHeaders.execute {state state' : PassState}
    (hstate : PassState.SameSaved names state state') {action : Action}
    (h : action.isSettled linked names = true) (outer outer' : σ) :
    PassState.SameSaved names (action.execute world context state outer).2.1
      (action.execute world context' state' outer').2.1 := by
  unfold Action.isSettled at h
  unfold Action.execute
  cases hstep : action.step with
  | error fault => exact hstate
  | ok step =>
    rw [hstep] at h
    exact hcontext.perform world hstate h outer outer'

theorem Context.SameHeaders.executeAll {state state' : PassState}
    (hstate : PassState.SameSaved names state state') {actions : List Action}
    (h : actions.all (Action.isSettled linked names) = true) (outer outer' : σ) :
    PassState.SameSaved names (Action.executeAll world context actions state outer).2.1
      (Action.executeAll world context' actions state' outer').2.1 := by
  induction actions generalizing state state' outer outer' with
  | nil => exact hstate
  | cons action rest ih =>
    obtain ⟨haction, hrest⟩ := Bool.and_eq_true_iff.mp (List.all_cons.symm.trans h)
    rw [Action.executeAll, Action.executeAll]
    exact ih (hcontext.execute world hstate haction outer outer') hrest _ _

/-- A settled rule matches in both passes or in neither, and keeps them agreed. -/
theorem Context.SameHeaders.executeRule {state state' : PassState}
    (hstate : PassState.SameSaved names state state') {rule : Rule}
    (h : rule.isSettled linked names = true) (outer outer' : σ) :
    (rule.execute world context state outer).1.matched =
      (rule.execute world context' state' outer').1.matched ∧
      PassState.SameSaved names (rule.execute world context state outer).2.1
        (rule.execute world context' state' outer').2.1 := by
  obtain ⟨hconditions, hactions⟩ := Bool.and_eq_true_iff.mp h
  unfold Rule.execute
  rw [hcontext.combine_eq hstate hconditions]
  cases rule.logic.combine { context' with bindings := state'.bindings } rule.conditions with
  | error failure => exact ⟨rfl, hstate⟩
  | ok result =>
    obtain ⟨matched, reports⟩ := result
    cases matched with
    | false => exact ⟨rfl, hstate⟩
    | true =>
      have hactions' := hcontext.executeAll world hstate hactions outer outer'
      dsimp only
      exact ⟨rfl, hactions'⟩

end

/-! ## Passes -/

def RuleReport.flag (report : RuleReport) : String × Bool := (report.ruleId, report.matched)

/-- Settled rules match in both passes alike, and both passes check the same rules. -/
theorem Context.SameHeaders.runRules {linked : Bool} {names : List String}
    {context context' : Context} (hcontext : Context.SameHeaders linked context context')
    (world : World σ) (timestamp : Int) {rules : List Rule}
    (h : rules.all (Rule.isSettled linked names) = true) {state state' : PassState}
    (hstate : PassState.SameSaved names state state') (outer outer' : σ) :
    (world.runRules context timestamp rules state outer).1.map RuleReport.flag =
      (world.runRules context' timestamp rules state' outer').1.map RuleReport.flag := by
  -- the saved variables that settled rules may read stay the same in both passes
  induction rules generalizing state state' outer outer' with
  | nil => rfl
  | cons rule rest ih =>
    obtain ⟨hrule, hrest⟩ := Bool.and_eq_true_iff.mp (List.all_cons.symm.trans h)
    obtain ⟨hmatched, hafter⟩ := hcontext.executeRule world.toSurroundings hstate hrule outer outer'
    have hid := (Rule.execute_answers world.toSurroundings context rule state outer).ruleId
    have hid' := (Rule.execute_answers world.toSurroundings context' rule state' outer').ruleId
    rw [World.runRules, World.runRules]
    generalize rule.execute world.toSurroundings context state outer = executed at *
    generalize rule.execute world.toSurroundings context' state' outer' = executed' at *
    obtain ⟨report, after, outside⟩ := executed
    obtain ⟨report', after', outside'⟩ := executed'
    dsimp only at hmatched hafter hid hid' ⊢
    have hflag : report.flag = report'.flag := by
      rw [RuleReport.flag, RuleReport.flag, hid, hid', hmatched]
    rw [hafter.navigation]
    split
    · rw [List.map_singleton, List.map_singleton, hflag]
    · rw [List.map_cons, List.map_cons, hflag, ih hrest hafter]

/-- A pass that is not put off comes to the outcome of the rules on the prepared context. -/
theorem Desk.processEmail_of_prepare {world : World σ} {desk : Desk σ} {rules : List Rule}
    {outer : σ} (hrules : world.enabledRules desk.outer = (.ok rules, outer)) {email : Email}
    {score : Option Binary64} {links : Option (List Link)} {context : Context}
    (hprepare : Context.prepare email score links [] = .ok context)
    (hready : (!email.contentLoaded && readsContent rules) = false) :
    (Desk.processEmail world email score links desk).1 =
      .ok (world.pass rules context desk.supply outer).1.outcome := by
  unfold Desk.processEmail
  rw [hprepare, hrules]
  dsimp only
  rw [if_neg (by rw [hready]; exact Bool.false_ne_true)]
  rfl

theorem readsContent_eq_false_iff {rules : List Rule} :
    readsContent rules = false ↔
      ∀ rule ∈ rules, ∀ condition ∈ rule.conditions, condition.readsContent = false := by
  simp [readsContent]

theorem readsContent_of_isSettled {linked : Bool} {names : List String} {rules : List Rule}
    (h : rules.all (Rule.isSettled linked names) = true) : readsContent rules = false := by
  refine readsContent_eq_false_iff.mpr fun rule hrule condition hcondition => ?_
  have hsettled := (Bool.and_eq_true_iff.mp (List.all_eq_true.mp h rule hrule)).1
  exact Condition.readsContent_of_isSettled (List.all_eq_true.mp hsettled condition hcondition)

theorem Context.sameHeaders_ofLinks (email : Email) (body htmlBody : Option String)
    (score : Option Binary64) (found : List Link) :
    Context.SameHeaders (!found.isEmpty) (Context.ofLinks email score [])
      (Context.ofLinks (email.complete body htmlBody) score found) where
  email := by
    intro key hkey
    have hne (other : String) (h : other ∈ Template.bodyKeys) : key ≠ other :=
      fun he => hkey (he ▸ h)
    have hbody := hne "body" (by decide)
    have hhtml := hne "htmlBody" (by decide)
    have hloaded := hne "contentLoaded" (by decide)
    -- the other fields are the same and stand in the same order
    unfold Email.toFields Context.ofLinks
    iterate 6 refine Fields.get?_cons_congr ?_
    rw [Fields.get?_cons_of_ne hbody, Fields.get?_cons_of_ne hbody, Fields.get?_cons_of_ne hhtml,
      Fields.get?_cons_of_ne hhtml]
    iterate 3 refine Fields.get?_cons_congr ?_
    rw [Fields.get?_cons_of_ne hloaded, Fields.get?_cons_of_ne hloaded]
  subject := rfl
  fromHeader := rfl
  sender := rfl
  score := rfl
  links := by
    intro hfound
    obtain rfl : found = [] := by simpa using hfound
    rfl

/-- The headers suffice for a pass of some rules: it comes to an outcome at once, and the rules that
it checks and finds to match are those of a pass on the complete email. -/
def Desk.HeadersSuffice (rules : List Rule) (email : Email) (body htmlBody : Option String) :
    Prop :=
  ∀ (σ : Type) (world : World σ) (desk : Desk σ) (outer : σ) (score : Option Binary64),
    world.enabledRules desk.outer = (.ok rules, outer) →
    ∃ early full : PassOutcome,
      (Desk.processEmail world email score none desk).1 = .ok early ∧
      (Desk.processEmail world (email.complete body htmlBody) score none desk).1 = .ok full ∧
      early.report.deferred = false ∧
      early.report.rules.map RuleReport.flag = full.report.rules.map RuleReport.flag

/-- When no rule tests the content, the headers suffice as soon as the rules match alike on the two
contexts. -/
theorem Desk.headersSuffice_iff_flags {email : Email} (h : email.Bare)
    {body htmlBody : Option String} {found : List Link}
    (hfound : Link.ofBodies (body.getD "") (htmlBody.getD "") = .ok found) {rules : List Rule}
    (hcontent : readsContent rules = false) :
    Desk.HeadersSuffice rules email body htmlBody ↔
      ∀ (σ : Type) (world : World σ) (desk : Desk σ) (outer : σ) (score : Option Binary64),
        world.enabledRules desk.outer = (.ok rules, outer) →
        (world.runRules (.ofLinks email score []) desk.supply.now rules {} outer).1.map
          RuleReport.flag =
          (world.runRules (.ofLinks (email.complete body htmlBody) score found)
            desk.supply.now rules {}
            outer).1.map RuleReport.flag := by
  refine forall₅_congr fun σ world desk outer score => forall_congr' fun hlisted => ?_
  have hearly : Context.prepare email score none [] = .ok (Context.ofLinks email score []) :=
    h.prepare score none
  have hfull : Context.prepare (email.complete body htmlBody) score none [] =
      .ok (Context.ofLinks (email.complete body htmlBody) score found) := by
    rw [Context.prepare_eq]
    change (Link.ofBodies (body.getD "") (htmlBody.getD "")).map _ = _
    rw [hfound]
    rfl
  rw [Desk.processEmail_of_prepare hlisted hearly (by rw [hcontent, Bool.and_false]),
    Desk.processEmail_of_prepare hlisted hfull rfl]
  constructor
  · rintro ⟨early, full, hearly', hfull', -, hflags⟩
    rw [← Except.ok.inj hearly', ← Except.ok.inj hfull', World.pass_rules,
      World.pass_rules] at hflags
    exact hflags
  · intro hflags
    refine ⟨_, _, rfl, rfl, rfl, ?_⟩
    rw [World.pass_rules, World.pass_rules]
    exact hflags

theorem Desk.headersSuffice_of_isSettled {email : Email} (h : email.Bare)
    {body htmlBody : Option String} {found : List Link}
    (hfound : Link.ofBodies (body.getD "") (htmlBody.getD "") = .ok found) {names : List String}
    {rules : List Rule} (hrules : rules.all (Rule.isSettled (!found.isEmpty) names) = true) :
    Desk.HeadersSuffice rules email body htmlBody := by
  refine (Desk.headersSuffice_iff_flags h hfound (readsContent_of_isSettled hrules)).mpr ?_
  intro σ world desk outer score hlisted
  have hcontext := Context.sameHeaders_ofLinks email body htmlBody score found
  exact hcontext.runRules world _ hrules ⟨rfl, fun _ _ => rfl⟩ outer outer

end MailTriage

import MailTriage.Proofs.Link.Listed
import MailTriage.Proofs.Triage.Headers

/-!
# Telling passes apart

Conditions about links tell a pass on headers from a pass on the complete email as soon as there are
links, and conditions about a variable tell them apart always, for an earlier rule can save there
whether the bodies have been fetched. So the headers suffice for all rules with conditions of some
kinds exactly when every kind that does not test the content is settled.
-/

namespace MailTriage

variable {σ : Type}

/-! ## Probes -/

def Condition.probe (kind part : String) : Condition :=
  { id := "probe", kind := kind, operator := "contains", value := some (.text part),
    caseSensitive := true }

def Rule.probe (kind part : String) : Rule :=
  { id := "probe", name := "Probe", conditions := [.probe kind part], createdAt := 0,
    lastModified := 0 }

theorem Condition.effectiveOperator_probe (kind part : String) :
    (Condition.probe kind part).effectiveOperator = .contains := by
  have hname : Operator.ofName? "contains" = some .contains := by decide
  unfold Condition.effectiveOperator Condition.probe
  rw [hname]
  cases Catalog.condition? kind with
  | none => rfl
  | some definition =>
    dsimp only
    split <;> rfl

theorem Condition.probe_evaluate {kind : String} {subject : Subject}
    (hkind : Subject.ofKind? kind = some subject) (hcontent : subject.isContent = false)
    {context : Context} (hread : (context.read? subject).isNull = false)
    (hwritable : Json.isWritable (context.read? subject) = true) (part : String) :
    ∃ report, (Condition.probe kind part).evaluate context = .ok report ∧
      report.matched = Text.contains (context.read? subject).spelled part := by
  refine Condition.exists_evaluate hkind hcontent ?_ rfl hwritable
  have hnull :
      ((context.read? subject).isNull || (Condition.probe kind part).expected.isNull) = false := by
    rw [hread]
    rfl
  have hwritten :
      (Json.isWritable (context.read? subject) &&
        Json.isWritable (Condition.probe kind part).expected) =
      true := by
    rw [hwritable]
    rfl
  rw [Condition.effectiveOperator_probe, Operator.apply, hnull]
  · exact if_pos hwritten
  · simp
  · simp

theorem Rule.probe_matched {kind : String} {subject : Subject}
    (hkind : Subject.ofKind? kind = some subject) (hcontent : subject.isContent = false)
    {context : Context} {state : PassState}
    (hread : (Context.read? { context with bindings := state.bindings } subject).isNull = false)
    (hwritable : Json.isWritable
      (Context.read? { context with bindings := state.bindings } subject) = true)
    (part : String) (world : Surroundings σ) (outer : σ) :
    ((Rule.probe kind part).execute world context state outer).1.matched =
      Text.contains
        (Context.read? { context with bindings := state.bindings } subject).spelled part := by
  obtain ⟨report, hreport, hmatched⟩ := Condition.probe_evaluate hkind hcontent hread hwritable part
  rw [Rule.execute_matched rfl hreport, hmatched]

/-! ## Saving whether the bodies have been fetched -/

def fetchedTemplate : String := "$\x7bemail.contentLoaded\x7d"

/-- A rule that saves it in a variable that has no value yet. -/
def Rule.noteFetched (kind name : String) : Rule :=
  { id := "note", name := "Note", createdAt := 0, lastModified := 0
    conditions := [{ id := "unset", kind := kind, operator := "not_exists" }]
    actions := [{ id := "save", kind := "save_variable"
                  parameters := [("name", .text name), ("value", .text fetchedTemplate)] }] }

theorem Context.resolve_fetchedTemplate (context : Context) (bindings : Fields) :
    context.resolve bindings fetchedTemplate =
      .ok (Value.bool context.email.contentLoaded).spelled := by
  have hpieces :
      Template.pieces fetchedTemplate.toList = [.token "email.contentLoaded".toList] := by
    decide +kernel
  have hbars :
      Template.splitBars "email.contentLoaded".toList = ["email.contentLoaded".toList] := by
    decide +kernel
  have htext : Template.alternativeText (context.view bindings) "email.contentLoaded".toList =
      .ok (Value.bool context.email.contentLoaded).spelled.toList := by
    have htrimmed : Text.trimWhere Text.isBlank "email.contentLoaded".toList =
        "email.contentLoaded".toList := by decide +kernel
    have hliteral : Template.literal? "email.contentLoaded".toList = none := by decide +kernel
    unfold Template.alternativeText
    dsimp only
    rw [htrimmed, hliteral]
    rfl
  rw [Context.resolve, Template.expand, hpieces, List.map_singleton, Template.joinTexts_one,
    Template.Piece.render, Template.tokenText, hbars, List.map_singleton, htext]
  cases context.email.contentLoaded <;> decide

theorem Action.step_saveVariable {name : String} (hname : name ≠ "") (id template : String) :
    Action.step { id := id, kind := "save_variable"
                  parameters := [("name", .text name), ("value", .text template)] } =
      .ok (.saveVariable { name := name, value := .text template }) := by
  have hkind : ActionKind.ofName? "save_variable" = some .saveVariable := by decide
  have hsome : Form.someText (.text name) = Form.Gather.of name := by
    have hempty : name.isEmpty = false := by simpa [Bool.eq_false_iff] using hname
    funext supply
    change Form.Gather.ofExcept (if name.isEmpty = true then _ else _) supply = _
    rw [hempty]
    rfl
  have hrequired : Form.required ["name", "variableName"] Form.someText
      [("name", .text name), ("value", .text template)] = (Form.Gather.of name).under "name" := by
    rw [← hsome]
    rfl
  have hfields : (Step.ofFields .saveVariable
      [("name", .text name), ("value", .text template)] ⟨0, 0⟩).1 =
        .ok (.saveVariable { name := name, value := .text template }) := by
    unfold Step.ofFields Step.readAssignment
    dsimp only
    rw [hrequired]
    rfl
  unfold Action.step
  rw [hkind]
  dsimp only
  rw [hfields]

def PassState.noted (name : String) (fetched : Bool) : PassState :=
  { bindings := [(name, .text (Value.bool fetched).spelled)] }

theorem Rule.execute_noteFetched {kind name : String}
    (hkind : Subject.ofKind? kind = some (.saved name)) (hname : name ≠ "") (world : Surroundings σ)
    {context : Context} (outer : σ) :
    ∃ report, (Rule.noteFetched kind name).execute world context {} outer =
        (report, .noted name context.email.contentLoaded, outer) ∧
      report.flag = ("note", true) := by
  let unset : Condition := { id := "unset", kind := kind, operator := "not_exists" }
  have hoperator : unset.effectiveOperator = .absent := by
    have hofName : Operator.ofName? "not_exists" = some .absent := by decide
    have hlisted : (Catalog.condition .customVariable).operators.contains .absent = true := by
      decide
    unfold Condition.effectiveOperator Catalog.condition?
    rw [hkind, hofName, Option.map_some]
    exact if_pos hlisted
  have happly : unset.effectiveOperator.apply unset.caseSensitive
      (Context.read? { context with bindings := [] } (.saved name)) unset.expected = .ok true := by
    rw [hoperator]
    rfl
  obtain ⟨report, hreport, hmatched⟩ := Condition.exists_evaluate hkind rfl happly rfl rfl
  have hstep := Action.step_saveVariable hname "save" fetchedTemplate
  have hevaluate : Assignment.evaluate { name := name, value := .text fetchedTemplate } context [] =
      .ok (.text (Value.bool context.email.contentLoaded).spelled) := by
    have hfill :
        context.fill [] fetchedTemplate = .ok (Value.bool context.email.contentLoaded).spelled := by
      rw [Context.fill, Context.resolve_fetchedTemplate]
      rfl
    rw [Assignment.evaluate_eq, if_neg (by simp [Assignment.searches])]
    exact congrArg (Except.map Value.text) hfill
  unfold Rule.execute
  rw [show (Rule.noteFetched kind name).conditions = [unset] from rfl,
    Logic.combine_singleton (Rule.noteFetched kind name).logic hreport, hmatched]
  dsimp only
  rw [Rule.noteFetched, Action.executeAll, Action.execute, hstep]
  dsimp only
  rw [Step.perform, hevaluate]
  exact ⟨_, rfl, rfl⟩

/-- A probe for the saved value tells whether the bodies have been fetched. -/
theorem Rule.probe_noted {kind name : String} (hkind : Subject.ofKind? kind = some (.saved name))
    (world : Surroundings σ) (context : Context) (fetched : Bool) (outer : σ) :
    ((Rule.probe kind "true").execute world context (.noted name fetched) outer).1.flag =
      ("probe", fetched) := by
  have hread :
      Context.read? { context with bindings := (PassState.noted name fetched).bindings }
        (.saved name) =
      .text (Value.bool fetched).spelled := by
    rw [Context.read?, PassState.noted, Fields.get?, if_pos rfl]
    rfl
  have hmatched :=
    Rule.probe_matched hkind rfl (by rw [hread]; rfl) (by rw [hread]; rfl) "true" world outer
  have hcontains :
      Text.contains (Value.text (Value.bool fetched).spelled).spelled "true" = fetched := by
    cases fetched <;> decide
  rw [hread, hcontains] at hmatched
  rw [RuleReport.flag, hmatched, (Rule.execute_answers world context _ _ outer).ruleId]
  rfl

theorem World.runRules_noteFetched {kind name : String}
    (hkind : Subject.ofKind? kind = some (.saved name)) (hname : name ≠ "") (world : World σ)
    (context : Context) (timestamp : Int) (outer : σ) :
    (world.runRules context timestamp [.noteFetched kind name, .probe kind "true"] {} outer).1.map
      RuleReport.flag = [("note", true), ("probe", context.email.contentLoaded)] := by
  obtain ⟨report, hnoted, hflag⟩ := Rule.execute_noteFetched hkind hname world.toSurroundings outer
  have hprobed := Rule.probe_noted hkind world.toSurroundings context context.email.contentLoaded
    (world.recordIfMatched timestamp report outer)
  rw [World.runRules, hnoted]
  dsimp only
  rw [if_neg (by simp [PassState.noted]), World.runRules]
  dsimp only
  split <;> simp [World.runRules, hflag, hprobed]

/-! ## What the probes tell -/

theorem Text.contains_self (s : String) : Text.contains s s = true := by
  unfold Text.contains
  cases s.toList with
  | nil => rfl
  | cons c rest => simp [Text.occursIn]

theorem Text.eq_empty_of_contains {part : String} (h : Text.contains "" part = true) :
    part = "" := by
  have hpart : part.toList.isEmpty = true := h
  exact String.toList_eq_nil_iff.mp (List.isEmpty_iff.mp hpart)

namespace Desk

variable {email : Email} {body htmlBody : Option String}

theorem HeadersSuffice.exists_ofBodies {rules : List Rule}
    (h : HeadersSuffice rules email body htmlBody) :
    ∃ found, Link.ofBodies (body.getD "") (htmlBody.getD "") = .ok found := by
  obtain ⟨-, full, -, hfull, -⟩ := h Unit (World.still rules) ⟨[], ⟨0, 0⟩, ()⟩ () none rfl
  have hlisted : (World.still rules).enabledRules () = (.ok rules, ()) := rfl
  have hreadable := (exists_processEmail_iff hlisted _ _ _).mp ⟨full, hfull⟩
  exact (Link.exists_ofBodies_iff _ _).mpr (hreadable rfl)

variable (hbare : email.Bare) {found : List Link}
  (hfound : Link.ofBodies (body.getD "") (htmlBody.getD "") = .ok found)

include hbare hfound

theorem HeadersSuffice.flags_eq {rules : List Rule} (hcontent : readsContent rules = false)
    (h : HeadersSuffice rules email body htmlBody) :
    ((World.still rules).runRules (.ofLinks email none []) 0 rules {} ()).1.map RuleReport.flag =
      ((World.still rules).runRules (.ofLinks (email.complete body htmlBody) none found) 0 rules {}
        ()).1.map RuleReport.flag :=
  (headersSuffice_iff_flags hbare hfound hcontent).mp h Unit (World.still rules)
    ⟨[], ⟨0, 0⟩, ()⟩ () none rfl

variable {kind : String} {subject : Subject} (hkind : Subject.ofKind? kind = some subject)
  (hcontent : subject.isContent = false)
  (hsuffice : ∀ rules, readsContent rules = false →
    (∀ rule ∈ rules, ∀ condition ∈ rule.conditions, condition.kind = kind) →
      HeadersSuffice rules email body htmlBody)

include hkind hcontent hsuffice

theorem flags_eq_of_suffices {rules : List Rule}
    (hrules : ∀ rule ∈ rules, ∀ condition ∈ rule.conditions, condition.kind = kind) :
    ((World.still rules).runRules (.ofLinks email none []) 0 rules {} ()).1.map RuleReport.flag =
      ((World.still rules).runRules (.ofLinks (email.complete body htmlBody) none found) 0 rules {}
        ()).1.map RuleReport.flag := by
  have hready : readsContent rules = false := by
    refine readsContent_eq_false_iff.mpr fun rule hrule condition hcondition => ?_
    have hsubject : Subject.ofKind? condition.kind = some subject :=
      hrules rule hrule condition hcondition ▸ hkind
    rw [Condition.readsContent_eq hsubject, hcontent]
  exact (hsuffice rules hready hrules).flags_eq hbare hfound hready

/-- A probe finds its text in both contexts or in neither. -/
theorem contains_eq_of_suffices (part : String)
    (hearly : ((Context.ofLinks email none []).read? subject).isNull = false)
    (hfull :
      ((Context.ofLinks (email.complete body htmlBody) none found).read? subject).isNull = false)
    (hshort : Json.isWritable ((Context.ofLinks email none []).read? subject) = true)
    (hwritable :
      Json.isWritable
        ((Context.ofLinks (email.complete body htmlBody) none found).read? subject) = true) :
    Text.contains ((Context.ofLinks email none []).read? subject).spelled part =
      Text.contains
        ((Context.ofLinks (email.complete body htmlBody) none found).read? subject).spelled
          part := by
  have hrules :
      ∀ rule ∈ [Rule.probe kind part], ∀ condition ∈ rule.conditions, condition.kind = kind := by
    simp [Rule.probe, Condition.probe]
  have hflags := flags_eq_of_suffices hbare hfound hkind hcontent hsuffice hrules
  have hheads := congrArg List.head? hflags
  rw [List.head?_map, List.head?_map, World.runRules_head?, World.runRules_head?] at hheads
  have hmatched := congrArg Prod.snd (Option.some.inj hheads)
  dsimp only [RuleReport.flag] at hmatched
  rw [Rule.probe_matched hkind hcontent hearly hshort,
    Rule.probe_matched hkind hcontent hfull hwritable] at hmatched
  exact hmatched

theorem text_eq_empty_of_suffices {text : String}
    (hearly : (Context.ofLinks email none []).read? subject = .text "")
    (hfull : (Context.ofLinks (email.complete body htmlBody) none found).read? subject =
      .text text) :
    text = "" := by
  have hcontains := contains_eq_of_suffices hbare hfound hkind hcontent hsuffice text
    (by rw [hearly]; rfl) (by rw [hfull]; rfl) (by rw [hearly]; rfl) (by rw [hfull]; rfl)
  rw [hearly, hfull] at hcontains
  exact Text.eq_empty_of_contains (hcontains.trans (Text.contains_self text))

theorem isSettled_of_suffices (hname : subject ≠ .saved "") :
    subject.isSettled (!found.isEmpty) [] = true := by
  have hshown := Link.isShown_of_mem_ofBodies hfound
  cases subject with
  | saved name =>
    have hne : name ≠ "" := fun h => hname (by rw [h])
    have hrules : ∀ rule ∈ [Rule.noteFetched kind name, Rule.probe kind "true"],
        ∀ condition ∈ rule.conditions, condition.kind = kind := by
      simp [Rule.noteFetched, Rule.probe, Condition.probe]
    have hflags := flags_eq_of_suffices hbare hfound hkind hcontent hsuffice hrules
    rw [World.runRules_noteFetched hkind hne, World.runRules_noteFetched hkind hne] at hflags
    change [_, ("probe", email.contentLoaded)] = [_, ("probe", true)] at hflags
    rw [hbare.contentLoaded] at hflags
    exact absurd hflags (by decide)
  | field field =>
    cases field with
    | content | contentRegex => exact nomatch hcontent
    | urlContains =>
      have hempty := text_eq_empty_of_suffices hbare hfound hkind hcontent hsuffice rfl rfl
      cases found with
      | nil => rfl
      | cons link rest =>
        exact absurd hempty (Context.linkUrls_ne_empty (List.cons_ne_nil _ _) hshown)
    | linkDomain =>
      have hempty := text_eq_empty_of_suffices hbare hfound hkind hcontent hsuffice rfl rfl
      cases found with
      | nil => rfl
      | cons link rest =>
        exact absurd hempty (Context.linkDomains_ne_empty (List.cons_ne_nil _ _) hshown)
    | hasLinks =>
      have hcontains :=
        contains_eq_of_suffices hbare hfound hkind hcontent hsuffice "true" rfl rfl rfl rfl
      cases found with
      | nil => rfl
      | cons link rest =>
        change Text.contains "false" "true" = Text.contains "true" "true" at hcontains
        exact absurd hcontains (by decide)
    | _ => rfl

end Desk

/-! ## When the headers suffice -/

/-- When no variable has to stay settled, no action can unsettle a rule. -/
theorem Action.isSettled_nil (linked : Bool) (action : Action) :
    action.isSettled linked [] = true := by
  unfold Action.isSettled
  cases action.step with
  | error fault => rfl
  | ok step => cases step <;> rfl

/-- The headers suffice for rules that are settled. They suffice for all the rules that do not test
the content and have conditions of certain kinds, none of them about a variable without a name,
exactly when the links can be listed and every kind that is not about the content is settled: it is
not about a variable, nor about links unless there are none. -/
theorem Desk.headersSuffice_iff {email : Email} (h : email.Bare) (body htmlBody : Option String) :
    (∀ (found : List Link) (names : List String) (rules : List Rule),
      Link.ofBodies (body.getD "") (htmlBody.getD "") = .ok found →
      rules.all (Rule.isSettled (!found.isEmpty) names) = true →
      Desk.HeadersSuffice rules email body htmlBody) ∧
    ∀ kinds : Set String, (∀ kind ∈ kinds, Subject.ofKind? kind ≠ some (.saved "")) →
      ((∀ rules, readsContent rules = false →
          (∀ rule ∈ rules, ∀ condition ∈ rule.conditions, condition.kind ∈ kinds) →
          Desk.HeadersSuffice rules email body htmlBody) ↔
        ∃ found, Link.ofBodies (body.getD "") (htmlBody.getD "") = .ok found ∧
          ∀ kind ∈ kinds, ∀ subject, Subject.ofKind? kind = some subject →
            subject.isContent = true ∨ subject.isSettled (!found.isEmpty) [] = true) := by
  refine ⟨fun found names rules hfound => Desk.headersSuffice_of_isSettled h hfound,
    fun kinds hnamed => ?_⟩
  constructor
  · intro hsuffice
    obtain ⟨found, hfound⟩ := (hsuffice [] rfl (by simp)).exists_ofBodies
    refine ⟨found, hfound, fun kind hkind subject hsubject => ?_⟩
    cases hcontent : subject.isContent with
    | true => exact .inl rfl
    | false =>
      refine .inr (Desk.isSettled_of_suffices h hfound hsubject hcontent ?_ fun he => ?_)
      · intro rules hready hrules
        refine hsuffice rules hready fun rule hrule condition hcondition => ?_
        rw [hrules rule hrule condition hcondition]
        exact hkind
      · exact hnamed kind hkind (he ▸ hsubject)
  · rintro ⟨found, hfound, hsettled⟩ rules hready hrules
    suffices hall : rules.all (Rule.isSettled (!found.isEmpty) []) = true from
      Desk.headersSuffice_of_isSettled h hfound hall
    rw [List.all_eq_true]
    intro rule hrule
    refine Bool.and_eq_true_iff.mpr
      ⟨?_, List.all_eq_true.mpr fun action _ => Action.isSettled_nil _ action⟩
    rw [List.all_eq_true]
    intro condition hcondition
    unfold Condition.isSettled
    cases hsubject : Subject.ofKind? condition.kind with
    | none => rfl
    | some subject =>
      refine (hsettled _ (hrules rule hrule condition hcondition) subject hsubject).resolve_left
        fun hcontent => ?_
      have hreads : condition.readsContent = true :=
        (Condition.readsContent_eq hsubject).trans hcontent
      rw [readsContent_eq_false_iff.mp hready rule hrule condition hcondition] at hreads
      exact Bool.noConfusion hreads

theorem Desk.headersSuffice_iff_headersOnly :
    Email.headersOnly.Bare ∧ Link.ofBodies "" "" = .ok [] ∧
      Desk.HeadersSuffice [.linked, .skipNameless] .headersOnly none none ∧
      ¬ ∀ rules, readsContent rules = false →
        (∀ rule ∈ rules, ∀ condition ∈ rule.conditions,
          condition.kind ∈ ({"custom_variable_note"} : Set String)) →
        Desk.HeadersSuffice rules .headersOnly none none := by
  have h : Email.headersOnly.Bare := ⟨rfl, rfl, rfl⟩
  have hkind : Subject.ofKind? "custom_variable_note" = some (.saved "note") := by decide
  obtain ⟨hsettled, hkinds⟩ := Desk.headersSuffice_iff h none none
  refine ⟨h, Link.ofBodies_empty, hsettled [] [] _ Link.ofBodies_empty (by decide),
    fun hsuffice => ?_⟩
  have hnamed : ∀ kind ∈ ({"custom_variable_note"} : Set String),
      Subject.ofKind? kind ≠ some (.saved "") := by
    rintro kind rfl
    rw [hkind]
    decide
  obtain ⟨found, -, hall⟩ := (hkinds _ hnamed).mp hsuffice
  simpa [Subject.isContent, Subject.isSettled] using hall _ rfl _ hkind

end MailTriage

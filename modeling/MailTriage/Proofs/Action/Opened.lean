import MailTriage.Action.Execution
import MailTriage.Proofs.Url

/-!
# The addresses that a script asks to open

A script may ask for any texts to be opened. With a host that always opens what it is asked to, the
texts are taken one after another: those that lead to the web are opened, and the others are skipped
and reported. A text that cannot be read as an address ends this. So the action succeeds exactly
when all texts can be read, and otherwise the pages before the first that cannot have been opened.
-/

namespace MailTriage

variable {σ : Type} {world : Surroundings σ}

def Url.isReadable (text : String) : Bool := (Url.parse text).toBool

/-- Whether a text is an address of the web: it begins like one, not counting what is left out when
it is read. -/
def Url.isPage (text : String) : Bool := Url.beginsWeb (Url.cleaned text.toList)

theorem Url.parse_cases (text : String) :
    (∃ url, Url.parse text = .ok url ∧ Url.isReadable text = true ∧ url.isWeb = Url.isPage text) ∨
      ∃ fault, Url.parse text = .error fault ∧ Url.isReadable text = false := by
  unfold Url.isReadable
  cases hparse : Url.parse text with
  | ok url =>
    obtain ⟨rfl, -⟩ := Url.parse_eq_ok_iff.mp hparse
    exact .inl ⟨_, rfl, rfl, Bool.eq_iff_iff.mpr Url.isWeb_shown_iff⟩
  | error fault => exact .inr ⟨fault, rfl, rfl⟩

namespace Surroundings

/-- Whether the host opens every page that it is asked to open. -/
def AlwaysOpens (world : Surroundings σ) : Prop :=
  ∀ url target outer, ∃ value,
    (world.perform (.openUrl url target) outer).1 = .ok value ∧ value ≠ .bool false

/-- Asks the host for pages, one after another, each in a page of its own. -/
def visit (world : Surroundings σ) (urls : List String) (outer : σ) : σ :=
  urls.foldl (fun outer url => (world.perform (.openUrl url "_blank") outer).2) outer

theorem AlwaysOpens.request (h : world.AlwaysOpens) (url target : String) (outer : σ) :
    ∃ value, world.request (.openUrl url target) outer =
      (.ok value, (world.perform (.openUrl url target) outer).2) := by
  obtain ⟨value, hvalue, hdone⟩ := h url target outer
  have hreply : world.perform (.openUrl url target) outer =
      (.ok value, (world.perform (.openUrl url target) outer).2) := by rw [← hvalue]
  refine ⟨value, ?_⟩
  unfold Surroundings.request
  rw [hreply]
  split
  · next heq => exact nomatch heq
  · next heq =>
    cases heq
    exact absurd rfl hdone
  · next heq =>
    cases heq
    rfl

end Surroundings

/-! ## One address after another -/

/-- The pages before the first text that cannot be read are opened, in their order. -/
theorem openAll_outer (h : world.AlwaysOpens) (sofar : OpenedUrls) (urls : List String)
    (outer : σ) :
    (openAll world sofar urls outer).2 =
      world.visit ((urls.takeWhile Url.isReadable).filter Url.isPage) outer := by
  induction urls generalizing sofar outer with
  | nil => rfl
  | cons url rest ih =>
    rw [openAll]
    -- a text that cannot be read ends both the opening and the list of pages
    rcases Url.parse_cases url with ⟨parsed, hparse, hreadable, hweb⟩ | ⟨fault, hparse, hreadable⟩
    · rw [hparse, List.takeWhile_cons_of_pos hreadable]
      dsimp only
      rw [hweb]
      cases hpage : Url.isPage url with
      | true =>
        obtain ⟨value, hrequest⟩ := h.request url "_blank" outer
        rw [if_pos rfl, hrequest, List.filter_cons_of_pos hpage]
        exact ih _ _
      | false =>
        rw [if_neg (by simp), List.filter_cons_of_neg (by simp [hpage])]
        exact ih _ _
    · rw [hparse, List.takeWhile_cons_of_neg (by simp [hreadable])]
      rfl

/-- When all texts can be read, each of them is opened or skipped. -/
theorem openAll_of_readable (h : world.AlwaysOpens) {urls : List String}
    (hurls : ∀ url ∈ urls, Url.isReadable url = true) (sofar : OpenedUrls) (outer : σ) :
    (openAll world sofar urls outer).1 =
      .ok { opened := sofar.opened ++ urls.filter Url.isPage
            skipped := sofar.skipped ++ urls.filter fun url => !Url.isPage url } := by
  induction urls generalizing sofar outer with
  | nil => simp [openAll]
  | cons url rest ih =>
    obtain ⟨hurl, hrest⟩ := List.forall_mem_cons.mp hurls
    rw [openAll]
    rcases Url.parse_cases url with ⟨parsed, hparse, -, hweb⟩ | ⟨fault, -, hunreadable⟩
    · rw [hparse]
      dsimp only
      rw [hweb]
      cases hpage : Url.isPage url with
      | true =>
        obtain ⟨value, hrequest⟩ := h.request url "_blank" outer
        rw [if_pos rfl, hrequest]
        dsimp only
        rw [ih hrest]
        simp [hpage]
      | false =>
        rw [if_neg (by simp), ih hrest]
        simp [hpage]
    · rw [hurl] at hunreadable
      exact nomatch hunreadable

theorem openAll_of_unreadable (h : world.AlwaysOpens) {urls : List String}
    (hurls : ∃ url ∈ urls, Url.isReadable url = false) (sofar : OpenedUrls) (outer : σ) :
    ∃ fault, (openAll world sofar urls outer).1 = .error (.badUrl fault) := by
  induction urls generalizing sofar outer with
  | nil => simp at hurls
  | cons url rest ih =>
    rw [openAll]
    rcases Url.parse_cases url with ⟨parsed, hparse, hreadable, -⟩ | ⟨fault, hparse, -⟩
    · have hrest : ∃ other ∈ rest, Url.isReadable other = false := by simpa [hreadable] using hurls
      rw [hparse]
      dsimp only
      split
      · obtain ⟨value, hrequest⟩ := h.request url "_blank" outer
        rw [hrequest]
        exact ih hrest _ _
      · exact ih hrest _ _
    · rw [hparse]
      exact ⟨fault, rfl⟩

/-! ## The action -/

theorem Step.script_of_outcome {code : String} {context : Context} {state : PassState} {outer : σ}
    {outcome : ScriptOutcome}
    (houtcome : (Script.run world.evaluate code context state.bindings outer).1.outcome =
      .ok outcome)
    (hok : outcome.ok = true) :
    Step.script world code context state outer =
      ((openAll world {} outcome.opened
        (Script.run world.evaluate code context state.bindings outer).2).1.map
          (scriptOutput outcome.result),
        { state with bindings := (Script.run world.evaluate code context state.bindings
                       outer).1.bindings },
        (openAll world {} outcome.opened
          (Script.run world.evaluate code context state.bindings outer).2).2) := by
  unfold Step.script
  dsimp only
  rw [houtcome]
  dsimp only
  rw [hok]
  cases openAll world {} outcome.opened
    (Script.run world.evaluate code context state.bindings outer).2 with
  | mk result after => cases result <;> rfl

/-- What an action puts out that has opened some texts and skipped others. -/
def Action.PutsOut (report : ActionReport) (result : Value) (opened skipped : List String) : Prop :=
  ∃ fields : Fields, report.output = .object fields ∧ fields.get? "result" = some result ∧
    fields.get? "openedUrls" = some (.list (opened.map .text)) ∧
    fields.get? "skippedUrls" = if skipped = [] then none else some (.list (skipped.map .text))

theorem Action.putsOut_scriptOutput (action : Action) (result : Value)
    (opened skipped : List String) :
    Action.PutsOut (action.report (.ok (scriptOutput result ⟨opened, skipped⟩))) result
      opened skipped := by
  refine ⟨_, rfl, rfl, rfl, ?_⟩
  cases skipped with
  | nil => rfl
  | cons url rest => rfl

/-- A script that ran well has the pages before the first text that cannot be read opened, in their
order. The action succeeds exactly when all texts can be read, and then it puts out which of them it
opened and which it skipped. -/
theorem Action.opens_pages {action : Action} {code : String} {context : Context} {state : PassState}
    {outer : σ} {outcome : ScriptOutcome} (hstep : action.step = .ok (.runScript code))
    (houtcome : (Script.run world.evaluate code context state.bindings outer).1.outcome =
      .ok outcome)
    (hok : outcome.ok = true) (hopens : world.AlwaysOpens) :
    (action.execute world context state outer).2.2 =
        world.visit ((outcome.opened.takeWhile Url.isReadable).filter Url.isPage)
          (Script.run world.evaluate code context state.bindings outer).2 ∧
      ((action.execute world context state outer).1.success = true ↔
        ∀ url ∈ outcome.opened, Url.isReadable url = true) ∧
      ((action.execute world context state outer).1.success = true →
        Action.PutsOut (action.execute world context state outer).1 outcome.result
          (outcome.opened.filter Url.isPage)
            (outcome.opened.filter fun url => !Url.isPage url)) := by
  have hexecute : action.execute world context state outer =
      (action.report (Step.script world code context state outer).1,
        (Step.script world code context state outer).2) := by
    unfold Action.execute
    rw [hstep]
    rfl
  rw [hexecute, Step.script_of_outcome houtcome hok]
  dsimp only
  generalize (Script.run world.evaluate code context state.bindings outer).2 = before
  refine ⟨openAll_outer hopens {} outcome.opened before, ?_⟩
  by_cases hreadable : ∀ url ∈ outcome.opened, Url.isReadable url = true
  · rw [openAll_of_readable hopens hreadable]
    refine ⟨iff_of_true rfl hreadable, ?_⟩
    intro _
    exact Action.putsOut_scriptOutput action outcome.result _ _
  · have hunreadable : ∃ url ∈ outcome.opened, Url.isReadable url = false := by
      simpa using hreadable
    obtain ⟨fault, hfault⟩ := openAll_of_unreadable hopens hunreadable {} before
    rw [hfault]
    exact ⟨iff_of_false (by simp [Action.report, Except.map]) hreadable, nofun⟩

/-- A host that opens every page and notes what it is asked, and an engine whose script asks for two
pages with a text between them that cannot be read. -/
def Surroundings.browsing : Surroundings (List Request) :=
  { perform := fun request asked => (.ok .null, asked ++ [request])
    evaluate := fun _ asked =>
      (.collected (Json.line (.object [("logs", .list []), ("opened", .list
        [.text "https://a.example/", .text "http://[", .text "https://b.example/"])])), asked) }

def Action.browse : Action :=
  { id := "browse", kind := "javascript_code", parameters := [("code", .text "browse")] }

theorem Action.opens_pages_browse :
    (Action.browse.execute .browsing { email := { id := "m" } } {} []).2.2 =
      [.openUrl "https://a.example/" "_blank"] ∧
      (Action.browse.execute .browsing { email := { id := "m" } } {} []).1.success = false := by
  have hstep : Action.browse.step = .ok (.runScript "browse") := rfl
  have hopens : Surroundings.browsing.AlwaysOpens := by
    intro url target asked
    exact ⟨.null, rfl, nofun⟩
  let run := Script.run Surroundings.browsing.evaluate "browse" { email := { id := "m" } }
    ({} : PassState).bindings []
  have hran : run.1.outcome.toOption.map (fun outcome => (outcome.ok, outcome.opened)) =
      some (true, ["https://a.example/", "http://[", "https://b.example/"]) := by decide +kernel
  cases houtcome : run.1.outcome with
  | error fault =>
    rw [houtcome] at hran
    exact nomatch hran
  | ok outcome =>
    rw [houtcome] at hran
    obtain ⟨hok, hopened⟩ := Prod.mk.inj (Option.some.inj hran)
    obtain ⟨hasked, hsuccess, -⟩ := Action.opens_pages hstep houtcome hok hopens
    have hpages :
        (outcome.opened.takeWhile Url.isReadable).filter Url.isPage = ["https://a.example/"] := by
      rw [hopened]
      decide +kernel
    constructor
    · rw [hasked, hpages]
      rfl
    · rw [← Bool.not_eq_true, hsuccess, hopened]
      decide +kernel

end MailTriage

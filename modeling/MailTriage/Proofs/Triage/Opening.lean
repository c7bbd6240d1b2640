import Mathlib.Data.List.ReduceOption
import MailTriage.Proofs.Triage.Containment
import MailTriage.Proofs.Triage.Interchange
import MailTriage.Proofs.Triage.Record
import MailTriage.Proofs.Url

/-!
# Pages that passes open

Before a host is asked to open a page, the address is read and has to be one of the web. A guard in
front of the host that lets no other address through would therefore have nothing to stop, in no
pass and whatever templates, scripts and emails come to. But the address is handed over as it is
written: it begins with a web scheme exactly when reading it has left nothing out before the
authority.
-/

namespace MailTriage

variable {σ : Type}

/-- Whether a request to open a page is one for an address of the web; other requests are all let
through. -/
def Request.staysOnWeb : Request → Bool
  | .openUrl url _ =>
    match Url.parse url with
    | .ok parsed => parsed.isWeb
    | .error _ => false
  | _ => true

theorem Request.staysOnWeb_openUrl_iff {url target : String} :
    (Request.openUrl url target).staysOnWeb = true ↔
      ∃ parsed, Url.parse url = .ok parsed ∧ parsed.isWeb = true := by
  rw [staysOnWeb]
  cases Url.parse url <;> simp

/-! ## A guard that has nothing to stop -/

/-- Surroundings in which the host is not asked for a page that is not one of the web. -/
def Surroundings.guarded (world : Surroundings σ) : Surroundings σ :=
  { world with
    perform := fun request outer => if request.staysOnWeb then world.perform request outer
      else (.ok .null, outer) }

def World.guarded (world : World σ) : World σ :=
  { world with toSurroundings := world.toSurroundings.guarded }

namespace Surroundings

variable (world : Surroundings σ) (context : Context)

theorem request_guarded {request : Request} (h : request.staysOnWeb = true) :
    world.guarded.request request = world.request request := by
  funext outer
  simp [Surroundings.request, guarded, h]

theorem openPage_guarded : world.guarded.openPage = world.openPage := by
  funext url target outer
  unfold openPage
  cases hparse : Url.parse url with
  | error fault => rfl
  | ok parsed =>
    dsimp only
    split
    · next hweb =>
      rw [request_guarded world (Request.staysOnWeb_openUrl_iff.mpr ⟨parsed, hparse, hweb⟩)]
    · rfl

theorem openAll_guarded (urls : List String) (sofar : OpenedUrls) (outer : σ) :
    openAll world.guarded sofar urls outer = openAll world sofar urls outer := by
  induction urls generalizing sofar outer with
  | nil => rfl
  | cons url rest ih =>
    unfold openAll
    cases hparse : Url.parse url with
    | error fault => rfl
    | ok parsed =>
      dsimp only
      split
      · next hweb =>
        rw [request_guarded world (Request.staysOnWeb_openUrl_iff.mpr ⟨parsed, hparse, hweb⟩)]
        split
        · rfl
        · exact ih _ _
      · exact ih _ _

theorem ask_guarded {request : Request} (h : request.staysOnWeb = true) (output : Value) :
    Step.ask world.guarded request output = Step.ask world request output := by
  funext state outer
  rw [Step.ask, request_guarded world h]
  rfl

theorem perform_guarded (step : Step) (state : PassState) (outer : σ) :
    step.perform world.guarded context state outer = step.perform world context state outer := by
  cases step with
  | runScript code =>
    simp only [Step.perform, Step.script, openAll_guarded]
    rfl
  | openUrl url target => simp only [Step.perform, openPage_guarded]
  | requestSummary =>
    have hstays : (Request.requestSummary context.email context.sender).staysOnWeb = true := rfl
    simp only [Step.perform, request_guarded world hstays]
  | saveVariable | logMessage | goToNext | goToPrevious => rfl
  | notify title body =>
    have hstays (title body : String) : (Request.notify title body).staysOnWeb = true := rfl
    simp only [Step.perform, ask_guarded world (hstays _ _)]
  | addScore | markEmail | deleteEmail | markAsRead =>
    simp only [Step.perform]
    rw [ask_guarded world rfl]

theorem execute_guarded (action : Action) (state : PassState) (outer : σ) :
    action.execute world.guarded context state outer =
      action.execute world context state outer := by
  unfold Action.execute
  split
  · rfl
  · rw [perform_guarded]

theorem executeAll_guarded (actions : List Action) (state : PassState) (outer : σ) :
    Action.executeAll world.guarded context actions state outer =
      Action.executeAll world context actions state outer := by
  induction actions generalizing state outer with
  | nil => rfl
  | cons action rest ih => simp only [Action.executeAll, execute_guarded, ih]

theorem executeRule_guarded (rule : Rule) (state : PassState) (outer : σ) :
    rule.execute world.guarded context state outer = rule.execute world context state outer := by
  unfold Rule.execute
  split
  · rfl
  · rfl
  · rw [executeAll_guarded]

end Surroundings

namespace World

variable (world : World σ)

theorem runRules_guarded (context : Context) (timestamp : Int) (rules : List Rule)
    (state : PassState) (outer : σ) :
    world.guarded.runRules context timestamp rules state outer =
      world.runRules context timestamp rules state outer := by
  induction rules generalizing state outer with
  | nil => rfl
  | cons rule rest ih =>
    have hrule := world.toSurroundings.executeRule_guarded context rule state outer
    change rule.execute world.guarded.toSurroundings context state outer = _ at hrule
    simp only [runRules, hrule, ih]
    rfl

theorem pass_guarded : world.guarded.pass = world.pass := by
  funext rules context supply outer
  unfold pass
  rw [runRules_guarded]
  rfl

end World

namespace Desk

variable (world : World σ)

theorem process_guarded : process world.guarded = process world := by
  funext context desk
  unfold process run
  rw [world.pass_guarded]
  rfl

theorem processEmail_guarded : processEmail world.guarded = processEmail world := by
  funext email score links desk
  unfold processEmail run
  rw [world.pass_guarded]
  rfl

theorem serve_guarded : serve world.guarded = serve world := by
  funext call desk
  cases call with
  | email | context =>
    simp only [serve, processEmail_guarded, process_guarded]
  | loaded => simp only [serve, processLoaded, process_guarded]
  | clear => rfl

theorem serveAll_guarded (calls : List (Int × Call)) (desk : Desk σ) :
    serveAll world.guarded calls desk = serveAll world calls desk := by
  induction calls generalizing desk with
  | nil => rfl
  | cons timed rest ih => simp only [serveAll, serveAt, serve_guarded, ih]

end Desk

/-! ## Pages on record -/

def Request.page? : Request → Option (String × String)
  | .openUrl url target => some (url, target)
  | _ => none

def World.recordingPages (world : World σ) : World (σ × List (Option (String × String))) :=
  world.recorded Request.page? fun _ => none

/-- The pages that a host is asked to open while a desk serves calls. -/
def Desk.pagesOpened (world : World σ) (calls : List (Int × Call)) (desk : Desk σ) :
    List (String × String) :=
  ((serveAll world.recordingPages calls ⟨desk.waiting, desk.supply,
    (desk.outer, [])⟩).2.outer.2).reduceOption

def OnWeb (outer : σ × List (Option (String × String))) : Prop :=
  ∀ url target, some (url, target) ∈ outer.2 → (Request.openUrl url target).staysOnWeb = true

theorem World.keeps_onWeb (world : World σ) : world.recordingPages.guarded.Keeps OnWeb where
  perform {s} h request := by
    change OnWeb (if request.staysOnWeb then world.recordingPages.perform request s
      else (.ok .null, s)).2
    split
    · next hstays =>
      intro url target hmem
      rcases List.mem_append.mp hmem with hearlier | hlast
      · exact h url target hearlier
      · cases request with
        | openUrl given aim =>
          obtain ⟨rfl, rfl⟩ := Prod.mk.inj (Option.some.inj (List.mem_singleton.mp hlast))
          exact hstays
        | adjustScore | markEmail | notify | deleteEmail | markAsRead | requestSummary =>
          exact nomatch List.mem_singleton.mp hlast
    · exact h
  evaluate h _ := h
  enabledRules h := h
  recordFire h _ _ := h
  publish {s} h entry := by
    intro url target hmem
    rcases List.mem_append.mp hmem with hearlier | hlast
    · exact h url target hearlier
    · exact nomatch List.mem_singleton.mp hlast

/-- Whatever a desk is asked, and in whatever world: a page that the host is asked to open has an
address of the web. It begins like one exactly when reading it has left nothing out before the
authority. -/
theorem Desk.pagesOpened_beginWeb_iff (world : World σ) (calls : List (Int × Call)) (desk : Desk σ)
    {url target : String} (hopened : (url, target) ∈ pagesOpened world calls desk) :
    ∃ parsed, Url.parse url = .ok parsed ∧ parsed.isWeb = true ∧
      (Url.beginsWeb url.toList = true ↔ parsed.opening url.toList =
        parsed.opening (Url.cleaned url.toList)) := by
  have hstart : OnWeb (desk.outer, []) := by
    intro url target hmem
    exact nomatch hmem
  have hend : OnWeb
      (serveAll world.recordingPages.guarded calls ⟨desk.waiting, desk.supply,
        (desk.outer, [])⟩).2.outer :=
    world.keeps_onWeb.serveAll hstart calls
  rw [serveAll_guarded] at hend
  obtain ⟨parsed, hparse, hweb⟩ :=
    Request.staysOnWeb_openUrl_iff.mp (hend url target (List.reduceOption_mem_iff.mp hopened))
  exact ⟨parsed, hparse, hweb, Url.beginsWeb_iff_of_isWeb hparse hweb⟩

def Rule.opening (url : String) : Rule :=
  { id := "r1", name := "Shop",
    conditions := [{ id := "c1", kind := "subject", value := some (.text "sale") }]
    actions := [{ id := "a1", kind := "open_url", parameters := [("url", .text url)] }]
    createdAt := 0, lastModified := 0 }

/-- The address of this page has a line break in its scheme. -/
theorem Desk.pagesOpened_beginWeb_iff_lineBreak :
    pagesOpened (World.broken [.opening "ht\ntps://shop.example/a"])
        [(0, .email { id := "m1", subject := "Big sale", body := some "" } none (some []))] ⟨[],
          { now := 0 }, ()⟩ =
      [("ht\ntps://shop.example/a", "_blank")] ∧
    Url.beginsWeb "ht\ntps://shop.example/a".toList = false ∧
    ∃ parsed, Url.parse "ht\ntps://shop.example/a" = .ok parsed ∧ parsed.isWeb = true ∧
      parsed.opening "ht\ntps://shop.example/a".toList ≠
        parsed.opening (Url.cleaned "ht\ntps://shop.example/a".toList) := by
  have hpages : pagesOpened (World.broken [.opening "ht\ntps://shop.example/a"])
        [(0, .email { id := "m1", subject := "Big sale", body := some "" } none (some []))]
          ⟨[], { now := 0 }, ()⟩ =
      [("ht\ntps://shop.example/a", "_blank")] := by
    decide +kernel
  have hbegins : Url.beginsWeb "ht\ntps://shop.example/a".toList = false := by decide
  refine ⟨hpages, hbegins, ?_⟩
  obtain ⟨parsed, hparse, hweb, hiff⟩ :=
    pagesOpened_beginWeb_iff (World.broken [.opening "ht\ntps://shop.example/a"])
      [(0, .email { id := "m1", subject := "Big sale", body := some "" } none (some []))]
        ⟨[], { now := 0 }, ()⟩
      (hpages ▸ List.mem_singleton_self _)
  exact ⟨parsed, hparse, hweb, fun hsame => Bool.noConfusion (hbegins.symm.trans (hiff.mpr hsame))⟩

end MailTriage

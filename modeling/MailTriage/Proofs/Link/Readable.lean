import MailTriage.Proofs.Link.PlainText
import MailTriage.Proofs.Markup.Reference
import MailTriage.Proofs.Triage.Deferral

/-!
# Emails whose links can be listed

A plain text never keeps the links of an email from being listed; an anchor of HTML can. It does so
when a number in it has more digits than are read, or when its address leads to the web but its
authority cannot be read. Nothing else about an email can keep a context from being prepared or a
pass from coming to an outcome.
-/

namespace MailTriage

open Text

namespace Link

/-! ## Anchors -/

/-- The anchors of HTML: the address of each, and what it encloses. -/
def anchors (markup : String) : List (String × String) :=
  let cs := markup.toList.toArray
  (anchorPattern.allMatches cs).map fun hit =>
    ((hit.group? cs 1).getD "", (hit.group? cs 2).getD "")

def leadsToWeb (url : String) : Bool :=
  beginsWith (lower url) "http://" || beginsWith (lower url) "https://"

/-- An address with the secure scheme before it, unless it has one. -/
def withScheme (url : String) : String :=
  if (schemeOnly.matchAt? url.toList.toArray 0).isSome then url else "https://" ++ url

/-- An anchor that does not keep links from being listed: the references in its address can be
replaced, and if the address then leads to the web, it can be read and the references in the text
can be replaced too. -/
structure Readable (address inner : String) : Prop where
  bounded : ¬ Markup.Oversized (strip address).toList
  web : ∀ url, decoded (strip address).toList = .ok url → leadsToWeb url = true →
    ¬ Markup.Oversized (without tagPattern inner) ∧ ∃ parsed,
      Url.parse (withScheme url) = .ok parsed

theorem exists_make_iff (url text : String) :
    (∃ link, make url text = .ok link) ↔ ∃ parsed, Url.parse (withScheme url) = .ok parsed := by
  unfold make withScheme
  dsimp only
  generalize (if (schemeOnly.matchAt? url.toList.toArray 0).isSome then url
    else "https://" ++ url) = full
  cases Url.parse full <;> simp

theorem exists_decoded_iff {cs : List Char} :
    (∃ text, decoded cs = .ok text) ↔ ¬ Markup.Oversized cs := by
  rw [← Markup.exists_decode_eq_ok_iff, decoded]
  cases Markup.decode cs <;> simp

/-- The link of an anchor can be worked out, or found to lead elsewhere, exactly when the anchor is
readable. -/
theorem exists_ofAnchor_iff {address inner : String} :
    (∃ link, ofAnchor address inner = .ok link) ↔ Readable address inner := by
  unfold ofAnchor
  cases hurl : decoded (strip address).toList with
  | error fault =>
    have hover : Markup.Oversized (strip address).toList := by
      rw [← not_not (a := Markup.Oversized _), ← exists_decoded_iff, hurl]
      simp
    exact iff_of_false (by simp [bind, Except.bind]) fun h => h.bounded hover
  | ok url =>
    have hbounded : ¬ Markup.Oversized (strip address).toList := exists_decoded_iff.mp ⟨url, hurl⟩
    have hreadable : Readable address inner ↔ (leadsToWeb url = true →
        ¬ Markup.Oversized (without tagPattern inner) ∧
          ∃ parsed, Url.parse (withScheme url) = .ok parsed) := by
      refine ⟨fun h => h.web url hurl, fun h => ⟨hbounded, fun url' hurl' => ?_⟩⟩
      rw [hurl] at hurl'
      exact Except.ok.inj hurl' ▸ h
    rw [hreadable]
    simp only [bind, Except.bind]
    split
    · next hlower =>
      have hweb : leadsToWeb url = true := hlower
      rw [← exists_decoded_iff]
      cases htext : decoded (without tagPattern inner) with
      | error fault => simp [hweb]
      | ok text =>
        rw [← exists_make_iff url (if (strip text).isEmpty then url else strip text)]
        dsimp only
        generalize make url (if (strip text).isEmpty then url else strip text) = made
        cases made <;> simp [hweb, pure, Except.pure]
    · next hlower => exact iff_of_true ⟨none, rfl⟩ fun hweb => absurd hweb hlower

/-! ## Bodies -/

def AllReadable (markup : String) : Prop := ∀ anchor ∈ anchors markup, Readable anchor.1 anchor.2

theorem ofHtml_eq (markup : String) :
    ofHtml markup =
      ((anchors markup).mapM fun anchor => ofAnchor anchor.1 anchor.2).map (List.filterMap id) := by
  unfold ofHtml anchors
  rw [List.mapM_map]
  rfl

theorem exists_ofHtml_iff {markup : String} :
    (∃ links, ofHtml markup = .ok links) ↔ AllReadable markup := by
  rw [ofHtml_eq, exists_map_eq_ok_iff, exists_mapM_eq_ok_iff]
  exact forall₂_congr fun anchor _ => exists_ofAnchor_iff

/-- The links of an email can be listed exactly when the anchors of its HTML are readable. -/
theorem exists_ofBodies_iff (body htmlBody : String) :
    (∃ links, ofBodies body htmlBody = .ok links) ↔ AllReadable htmlBody := by
  rw [← exists_ofHtml_iff]
  unfold ofBodies
  cases ofHtml htmlBody with
  | error fault => simp [bind, Except.bind]
  | ok links =>
    refine iff_of_true ?_ ⟨links, rfl⟩
    cases links with
    | nil =>
      obtain ⟨found, hfound⟩ := exists_ofText body
      exact ⟨distinct found, by simp [hfound, bind, Except.bind, Functor.map, Except.map]⟩
    | cons link rest => exact ⟨distinct (link :: rest), rfl⟩

theorem not_allReadable_openBracket : ¬ AllReadable "<a href=\"http://[\">x</a>" := by
  have hanchors : anchors "<a href=\"http://[\">x</a>" = [("http://[", "x")] := by decide +kernel
  have hstrip : strip "http://[" = "http://[" := by decide +kernel
  have hdecoded : decoded (strip "http://[").toList = .ok "http://[" := by
    rw [hstrip, decoded, Markup.decode_of_not_mem (by decide)]
    rfl
  have hfault : (Url.parse (withScheme "http://[")).toOption = none := by decide +kernel
  intro h
  have hreadable : Readable "http://[" "x" := h ("http://[", "x") (by rw [hanchors]; simp)
  obtain ⟨-, parsed, hparsed⟩ := hreadable.web _ hdecoded (by decide +kernel)
  rw [hparsed] at hfault
  exact nomatch hfault

end Link

/-! ## Contexts and passes -/

theorem Context.exists_prepare_iff (email : Email) (score : Option Binary64)
    (links : Option (List Link)) (bindings : Fields) :
    (∃ context, Context.prepare email score links bindings = .ok context) ↔
      (links = none → Link.AllReadable (email.htmlBody.getD "")) := by
  cases links with
  | some links => exact iff_of_true ⟨_, rfl⟩ (by simp)
  | none =>
    simp only [true_imp_iff, ← Link.exists_ofBodies_iff (email.body.getD "")]
    unfold Context.prepare
    dsimp only
    cases Link.ofBodies (email.body.getD "") (email.htmlBody.getD "") <;>
      simp [bind, Except.bind, pure, Except.pure]

theorem Desk.exists_processEmail_iff {σ : Type} {world : World σ} {desk : Desk σ}
    {rules : List Rule} {outer : σ} (hrules : world.enabledRules desk.outer = (.ok rules, outer))
    (email : Email) (score : Option Binary64) (links : Option (List Link)) :
    (∃ outcome, (Desk.processEmail world email score links desk).1 = .ok outcome) ↔
      (links = none → Link.AllReadable (email.htmlBody.getD "")) := by
  rw [← Context.exists_prepare_iff email score links []]
  unfold Desk.processEmail
  cases Context.prepare email score links [] with
  | error fault => simp
  | ok context =>
    rw [hrules]
    dsimp only
    refine iff_of_true ?_ ⟨context, rfl⟩
    split <;> exact ⟨_, rfl⟩

/-- Links can be listed, a context prepared and an outcome reached exactly when every anchor in the
HTML of the email is readable, or its links are given; the plain body, the subject and the sender
have no part in it. -/
theorem Desk.exists_outcome_iff {σ : Type} {world : World σ} {desk : Desk σ} {rules : List Rule}
    {outer : σ} (hrules : world.enabledRules desk.outer = (.ok rules, outer))
    (body htmlBody : String) (email : Email) (score : Option Binary64) (links : Option (List Link))
    (bindings : Fields) :
    ((∃ found, Link.ofBodies body htmlBody = .ok found) ↔ Link.AllReadable htmlBody) ∧
    ((∃ context, Context.prepare email score links bindings = .ok context) ↔
      (links = none → Link.AllReadable (email.htmlBody.getD ""))) ∧
    ((∃ outcome, (Desk.processEmail world email score links desk).1 = .ok outcome) ↔
      (links = none → Link.AllReadable (email.htmlBody.getD ""))) :=
  ⟨Link.exists_ofBodies_iff body htmlBody, Context.exists_prepare_iff email score links bindings,
    Desk.exists_processEmail_iff hrules email score links⟩

def Email.openBracket : Email := { id := "m", body := some "See http://[" }

theorem Desk.exists_outcome_openBracket :
    (World.still []).enabledRules (⟨[], ⟨0, 0⟩, ()⟩ : Desk Unit).outer = (.ok [], ()) ∧
      (∃ outcome, (Desk.processEmail (World.still []) .openBracket none none ⟨[], ⟨0, 0⟩, ()⟩).1 =
        .ok outcome) ∧
      ¬ ∃ found, Link.ofBodies "" "<a href=\"http://[\">x</a>" = .ok found := by
  have hrules : (World.still []).enabledRules (⟨[], ⟨0, 0⟩, ()⟩ : Desk Unit).outer = (.ok [], ()) :=
    rfl
  obtain ⟨hnone, -, houtcome⟩ := Desk.exists_outcome_iff hrules "" "" .openBracket none none []
  obtain ⟨hanchor, -⟩ :=
    Desk.exists_outcome_iff hrules "" "<a href=\"http://[\">x</a>" .openBracket none none []
  refine ⟨hrules, houtcome.mpr fun _ => hnone.mp ⟨[], Link.ofBodies_empty⟩, ?_⟩
  rw [hanchor]
  exact Link.not_allReadable_openBracket

end MailTriage

import MailTriage.Proofs.Link.PlainText

/-!
# Listed links

Every link that is listed shows an address and a domain: the address has a scheme, and a host that
is empty is replaced by a word for it. So an email with links never looks like one without links,
neither in the addresses of its links nor in their domains.
-/

namespace MailTriage

namespace Link

open Text

/-! ## What a link shows -/

/-- A link with an address and with a domain. -/
structure IsShown (link : Link) : Prop where
  url : link.url ≠ ""
  domain : link.domain ≠ ""

theorem isShown_of_make {url text : String} {link : Link} (h : make url text = .ok link) :
    link.IsShown := by
  unfold make at h
  dsimp only at h
  split at h
  · exact nomatch h
  · next parsed hparsed =>
    cases h
    constructor
    · dsimp only
      split
      · next hscheme =>
        obtain ⟨name, rest, hurl, -⟩ := exists_of_schemeOnly hscheme
        rintro rfl
        simp at hurl
      · simp
    · dsimp only
      cases hhost : parsed.host? with
      | none => decide
      | some host =>
        rintro rfl
        exact parsed.host?_ne_empty hhost

theorem isShown_of_ofAnchor {address inner : String} {link : Link}
    (h : ofAnchor address inner = .ok (some link)) : link.IsShown := by
  unfold ofAnchor at h
  obtain ⟨url, -, h⟩ := exists_of_bind_eq_ok h
  split at h
  · obtain ⟨text, -, h⟩ := exists_of_bind_eq_ok h
    obtain ⟨made, hmade, h⟩ := exists_of_bind_eq_ok h
    cases h
    exact isShown_of_make hmade
  · exact nomatch Except.ok.inj h

/-! ## Lists of links -/

theorem mem_of_mem_distinct {links : List Link} {link : Link} (h : link ∈ distinct links) :
    link ∈ links := by
  have hfold (kept : List Link) : ∀ link ∈ links.foldl
      (fun kept link => if kept.any (·.url = link.url) then kept else kept ++ [link]) kept,
      link ∈ kept ∨ link ∈ links := by
    clear h
    induction links generalizing kept with
    | nil => exact fun link hlink => .inl hlink
    | cons first rest ih =>
      intro link hlink
      rw [List.foldl_cons] at hlink
      rcases ih _ link hlink with hkept | hrest
      · split at hkept
        · exact .inl hkept
        · rcases List.mem_append.mp hkept with hkept | hfirst
          · exact .inl hkept
          · exact .inr (by simp [List.mem_singleton.mp hfirst])
      · exact .inr (List.mem_cons_of_mem _ hrest)
  exact (hfold [] link h).resolve_left (List.not_mem_nil)

theorem isShown_of_mem_ofText {text : String} {links : List Link} (h : ofText text = .ok links) :
    ∀ link ∈ links, link.IsShown :=
  forall_mem_of_mapM_eq_ok (fun _ _ => isShown_of_make) h

theorem isShown_of_mem_ofHtml {markup : String} {links : List Link}
    (h : ofHtml markup = .ok links) :
    ∀ link ∈ links, link.IsShown := by
  unfold ofHtml at h
  obtain ⟨found, hfound, h⟩ := exists_of_bind_eq_ok h
  cases h
  intro link hlink
  obtain ⟨link?, hmem, hsome⟩ := List.mem_filterMap.mp hlink
  have hanchor : ∀ link? ∈ found, ∀ link, link? = some link → IsShown link := by
    refine forall_mem_of_mapM_eq_ok ?_ hfound
    rintro hit _ hof link rfl
    exact isShown_of_ofAnchor hof
  exact hanchor link? hmem link hsome

theorem isShown_of_mem_ofBodies {body htmlBody : String} {links : List Link}
    (h : ofBodies body htmlBody = .ok links) : ∀ link ∈ links, link.IsShown := by
  intro link hlink
  unfold ofBodies at h
  obtain ⟨anchors, hhtml, h⟩ := exists_of_bind_eq_ok h
  cases anchors with
  | nil =>
    cases htext : ofText body with
    | error fault =>
      rw [htext] at h
      exact nomatch h
    | ok found =>
      rw [htext] at h
      cases h
      exact isShown_of_mem_ofText htext link (mem_of_mem_distinct hlink)
  | cons first rest =>
    cases h
    exact isShown_of_mem_ofHtml hhtml link (mem_of_mem_distinct hlink)

end Link

/-! ## What an email shows of its links -/

theorem intercalate_cons_ne_empty {first : String} (h : first ≠ "") (separator : String)
    (rest : List String) :
    separator.intercalate (first :: rest) ≠ "" := by
  rw [Ne, ← String.toList_eq_nil_iff, String.toList_intercalate]
  cases rest <;> simp [h]

namespace Context

variable {context : Context} (hne : context.links ≠ [])
  (hshown : ∀ link ∈ context.links, link.IsShown)

include hne hshown

theorem linkUrls_ne_empty : context.linkUrls ≠ "" := by
  obtain ⟨link, rest, hlinks⟩ := List.exists_cons_of_ne_nil hne
  rw [linkUrls, hlinks, List.map_cons]
  exact intercalate_cons_ne_empty (hshown link (by simp [hlinks])).url _ _

theorem linkDomains_ne_empty : context.linkDomains ≠ "" := by
  obtain ⟨link, rest, hlinks⟩ := List.exists_cons_of_ne_nil hne
  rw [linkDomains, hlinks, List.map_cons]
  exact intercalate_cons_ne_empty (hshown link (by simp [hlinks])).domain _ _

end Context

end MailTriage

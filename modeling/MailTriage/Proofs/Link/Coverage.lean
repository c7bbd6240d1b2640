import MailTriage.Proofs.Link.Readable
import MailTriage.Proofs.Matching.Texts

/-!
# Which sites of a plain text are listed

The links of a plain text are the addresses found with a scheme and those bare sites that are not
written within an address found before them. A site within an address need not be the host of it, so
a domain that a text mentions can be missing from its links. This is so exactly when no address with
a scheme has that domain and every bare site of it is written within an address of another domain.
-/

namespace MailTriage.Link

open Pattern Text

/-! ## The addresses that are kept -/

theorem contains_trans {first second third : String} (h : contains first second = true)
    (h' : contains second third = true) : contains first third = true :=
  contains_iff.mpr ((contains_iff.mp h').trans (contains_iff.mp h))

theorem exists_cons_eq_append_iff {α : Type} {P : List α → Prop} {first item : α} {rest : List α} :
    (∃ before after, first :: rest = before ++ item :: after ∧ P before) ↔
      first = item ∧ P [] ∨ ∃ before after, rest = before ++ item :: after ∧
        P (first :: before) := by
  constructor
  · rintro ⟨before, after, heq, hP⟩
    cases before with
    | nil => exact .inl ⟨(List.cons.inj heq).1, hP⟩
    | cons c before =>
      obtain ⟨rfl, hrest⟩ := List.cons.inj heq
      exact .inr ⟨before, after, hrest, hP⟩
  · rintro (⟨rfl, hP⟩ | ⟨before, after, rfl, hP⟩)
    · exact ⟨[], rest, rfl, hP⟩
    · exact ⟨first :: before, after, rfl, hP⟩

theorem mem_addSites_iff {addresses sites : List String} {url : String} :
    url ∈ addSites addresses sites ↔
      url ∈ addresses ∨ ∃ before after, sites = before ++ url :: after ∧
        ∀ address ∈ addresses ++ before, contains address url = false := by
  induction sites generalizing addresses with
  | nil => simp [addSites]
  | cons site rest ih =>
    rw [addSites, exists_cons_eq_append_iff]
    split
    · next hwithin =>
      obtain ⟨address, haddress, hcontains⟩ := List.any_eq_true.mp hwithin
      -- a site within a kept address changes nothing later: what it contains is contained there,
      -- too
      have hadded (before : List String) :
          (∀ address ∈ addresses ++ site :: before, contains address url = false) ↔
          ∀ address ∈ addresses ++ before, contains address url = false := by
        constructor
        · intro h other hother
          exact h other (by simp only [List.mem_append, List.mem_cons] at hother ⊢; tauto)
        · intro h other hother
          simp only [List.mem_append, List.mem_cons] at hother
          rcases hother with hother | rfl | hother
          · exact h other (by simp [hother])
          · by_contra hsite
            have hurl := contains_trans hcontains (Bool.not_eq_false _ ▸ hsite)
            rw [h address (by simp [haddress])] at hurl
            exact Bool.noConfusion hurl
          · exact h other (by simp [hother])
      simp only [ih, hadded]
      refine or_congr_right (iff_or_self.mpr ?_)
      rintro ⟨rfl, h⟩
      rw [h address (by simp [haddress])] at hcontains
      exact Bool.noConfusion hcontains
    · next hwithin =>
      have hnone : ∀ address ∈ addresses, contains address site = false := by
        intro address haddress
        by_contra hcontains
        exact hwithin (List.any_eq_true.mpr ⟨address, haddress, by simpa using hcontains⟩)
      rw [ih]
      simp only [List.mem_append, List.mem_singleton, List.append_assoc, List.singleton_append,
        List.append_nil, or_assoc]
      refine or_congr_right (or_congr_left ?_)
      constructor
      · rintro rfl
        exact ⟨rfl, hnone⟩
      · rintro ⟨rfl, -⟩
        rfl

theorem ofText_eq_nil_iff {text : String} :
    ofText text = .ok [] ↔ found schemePattern text = [] ∧ found barePattern text = [] := by
  constructor
  · intro h
    have hlength := length_of_mapM_eq_ok h
    have hnone : addSites (found schemePattern text) (found barePattern text) = [] := by
      simpa using hlength.symm
    have hkept (url : String) :
        url ∉ addSites (found schemePattern text) (found barePattern text) := by
      rw [hnone]
      exact List.not_mem_nil
    simp only [mem_addSites_iff, not_or] at hkept
    have hscheme : found schemePattern text = [] :=
      List.eq_nil_iff_forall_not_mem.mpr fun url => (hkept url).1
    refine ⟨hscheme, ?_⟩
    cases hbare : found barePattern text with
    | nil => rfl
    | cons site rest =>
      exact absurd ⟨[], rest, hbare, by simp [hscheme]⟩ (hkept site).2
  · rintro ⟨hscheme, hbare⟩
    rw [ofText, hscheme, hbare]
    rfl

/-! ## The domains that are listed -/

/-- The domain of an address: its host, after the secure scheme when it has no scheme of its own. -/
def domainOf (address : String) : String :=
  ((Url.parse (withScheme address)).toOption.bind Url.host?).getD "invalid-url"

theorem domain_of_make {url text : String} {link : Link} (h : make url text = .ok link) :
    link.domain = domainOf url := by
  unfold make at h
  unfold domainOf withScheme
  dsimp only at h
  generalize (if (schemeOnly.matchAt? url.toList.toArray 0).isSome then url
    else "https://" ++ url) = full at *
  split at h
  · exact nomatch h
  · next parsed hparsed =>
    cases h
    rw [hparsed]
    rfl

theorem exists_domain_iff {text : String} {links : List Link} (h : ofText text = .ok links)
    {domain : String} :
    (∃ link ∈ links, link.domain = domain) ↔
      ∃ url ∈ addSites (found schemePattern text) (found barePattern text), domainOf url =
        domain := by
  obtain ⟨hlinks, hurls⟩ := mem_of_mapM_eq_ok h
  constructor
  · rintro ⟨link, hlink, rfl⟩
    obtain ⟨url, hurl, hmake⟩ := hurls link hlink
    exact ⟨url, hurl, (domain_of_make hmake).symm⟩
  · rintro ⟨url, hurl, rfl⟩
    obtain ⟨link, hlink, hmake⟩ := hlinks url hurl
    exact ⟨link, hlink, domain_of_make hmake⟩

/-- A domain that only sites within addresses of other domains have: no address with a scheme has
it, and whenever a bare site has it, an address of another domain, found before the site, has the
site written in it. -/
structure IsHidden (text domain : String) : Prop where
  scheme : ∀ address ∈ found schemePattern text, domainOf address ≠ domain
  bare : ∀ before site after,
    found barePattern text = before ++ site :: after → domainOf site = domain →
    ∃ address ∈ found schemePattern text ++ before,
      contains address site = true ∧ domainOf address ≠ domain

/-- When every site of a domain is contained in some address before it, then in one of another
domain too: the address that is found first has nothing before it that could contain it. -/
theorem exists_other_domain {addresses sites : List String} {domain : String}
    (hscheme : ∀ address ∈ addresses, domainOf address ≠ domain)
    (hbare : ∀ before site after, sites = before ++ site :: after → domainOf site = domain →
      ∃ address ∈ addresses ++ before, contains address site = true)
    {before after : List String} {site : String} (hsites : sites = before ++ site :: after)
    (hdomain : domainOf site = domain) :
    ∃ address ∈ addresses ++ before, contains address site = true ∧ domainOf address ≠ domain := by
  obtain ⟨n, hn⟩ : ∃ n, before.length < n := ⟨_, Nat.lt_succ_self _⟩
  induction n generalizing before after site with
  | zero => omega
  | succ n ih =>
    obtain ⟨address, haddress, hcontains⟩ := hbare before site after hsites hdomain
    by_cases hother : domainOf address = domain
    · -- it is a bare site itself, and comes earlier
      have hmem : address ∈ before :=
        (List.mem_append.mp haddress).resolve_left fun h => hscheme address h hother
      obtain ⟨front, back, rfl⟩ := List.append_of_mem hmem
      rw [List.length_append, List.length_cons] at hn
      have hearlier : sites = front ++ address :: (back ++ site :: after) := by
        rw [hsites, List.append_assoc, List.cons_append]
      obtain ⟨outer, houter, hinside, hdomain'⟩ := ih hearlier hother (by omega)
      refine ⟨outer, ?_, contains_trans hinside hcontains, hdomain'⟩
      rcases List.mem_append.mp houter with houter | houter
      · exact List.mem_append_left _ houter
      · exact List.mem_append_right _ (List.mem_append_left _ houter)
    · exact ⟨address, haddress, hcontains, hother⟩

/-- The links of a plain text have the domain of every address found with a scheme. They have the
domain of a bare site exactly when it is not hidden: when some address with a scheme has it, or some
site that is not written within an address of another domain found before it. -/
theorem exists_ofText_domains (text : String) :
    ∃ links, ofText text = .ok links ∧
      (∀ address ∈ found schemePattern text, ∃ link ∈ links, link.domain = domainOf address) ∧
      ∀ site ∈ found barePattern text,
        (∃ link ∈ links, link.domain = domainOf site) ↔ ¬ IsHidden text (domainOf site) := by
  obtain ⟨links, hlinks⟩ := exists_ofText text
  refine ⟨links, hlinks, fun address haddress => ?_, fun site _ => ?_⟩
  · exact (exists_domain_iff hlinks).mpr ⟨address, mem_addSites_iff.mpr (.inl haddress), rfl⟩
  · rw [exists_domain_iff hlinks]
    simp only [mem_addSites_iff]
    constructor
    · rintro ⟨url, hscheme | ⟨before, after, hbare, hnone⟩, hdomain⟩ hhidden
      · exact hhidden.scheme url hscheme hdomain
      · obtain ⟨address, haddress, hcontains, -⟩ := hhidden.bare before url after hbare hdomain
        rw [hnone address haddress] at hcontains
        exact Bool.noConfusion hcontains
    · intro hhidden
      by_contra hmissing
      have hscheme : ∀ address ∈ found schemePattern text, domainOf address ≠ domainOf site :=
        fun address haddress hdomain => hmissing ⟨address, .inl haddress, hdomain⟩
      refine hhidden ⟨hscheme, fun before other after hsites hdomain => ?_⟩
      refine exists_other_domain hscheme (fun before other after hsites hdomain => ?_)
        hsites hdomain
      by_contra hnone
      refine hmissing ⟨other, .inr ⟨before, after, hsites, fun address haddress => ?_⟩, hdomain⟩
      by_contra hcontains
      exact hnone ⟨address, haddress, by simpa using hcontains⟩

end MailTriage.Link

import MailTriage.Proofs.Link.Coverage
import MailTriage.Proofs.Link.Listed
import MailTriage.Proofs.Link.Sites

/-!
# The links of an email are distinct and well formed

An email has the links of the anchors in its HTML that lead to the web, and when there is no such
anchor those of its plain body. Of several links with one address the first is kept, in its place,
with its text and its domain, and no address gets lost. Each address that is listed begins with a
scheme, in whichever case, and each domain is named.
-/

namespace MailTriage.Link

open Pattern Text

/-! ## Schemes -/

def schemes : List String := ["http://", "https://", "ftp://"]

theorem sameButCase_of_literalTakes {sign c : Char}
    (h : flags.literalTakes sign.toNat c.toNat = true) :
    SameButCase sign c := by
  unfold Flags.literalTakes at h
  split at h
  · simpa [SameButCase, Flags.lowered] using h
  · exact .inl (congrArg lowerCode (beq_iff_eq.mp h))

theorem forall₂_of_mem_prod_chars {signs word : List Char}
    (h : word ∈ (signs.map fun c => (char c).language flags).prod) :
    List.Forall₂ SameButCase signs word := by
  induction signs generalizing word with
  | nil =>
    obtain rfl : word = [] := h
    exact .nil
  | cons sign signs ih =>
    rw [List.map_cons, List.prod_cons] at h
    obtain ⟨_, ⟨c, rfl, hc⟩, rest, hrest, rfl⟩ := h
    exact .cons (sameButCase_of_literalTakes (by simpa using hc)) (ih hrest)

theorem exists_scheme_of_mem {word : List Char} (h : word ∈ scheme.language flags) :
    ∃ name ∈ schemes, List.Forall₂ SameButCase name.toList word := by
  have hspelled (s : String) {word : List Char} (h : word ∈ (Node.ofText s).language flags) :
      List.Forall₂ SameButCase s.toList word := forall₂_of_mem_prod_chars (ofText_language s ▸ h)
  rcases h with hweb | hfiles
  · rw [Node.ofList_language] at hweb
    obtain ⟨web, hweb, _, ⟨secure, hsecure, _, ⟨slashes, hslashes, _, rfl, rfl⟩, rfl⟩, rfl⟩ := hweb
    have hword {letter : List Char} (hletter : List.Forall₂ SameButCase letter secure) :
        List.Forall₂ SameButCase ("http".toList ++ (letter ++ ("://".toList ++ [])))
          (web ++ (secure ++ (slashes ++ []))) :=
      List.rel_append (hspelled _ hweb)
        (List.rel_append hletter (List.rel_append (hspelled _ hslashes) .nil))
    rcases mem_maybe hsecure with rfl | hsecure
    · exact ⟨"http://", by decide, hword .nil⟩
    · have hletter : List.Forall₂ SameButCase ['s'] secure :=
        forall₂_of_mem_prod_chars (by rwa [List.map_singleton, List.prod_singleton])
      exact ⟨"https://", by decide, hword hletter⟩
  · exact ⟨"ftp://", by decide, hspelled _ hfiles⟩

theorem exists_beginsCaseless_of_schemeOnly {url : String}
    (h : (schemeOnly.matchAt? url.toList.toArray 0).isSome = true) :
    ∃ name ∈ schemes, BeginsCaseless url name := by
  obtain ⟨found, hfound⟩ := Option.isSome_iff_exists.mp h
  obtain ⟨hfirst, hword⟩ := matchAt?_mem_language hfound
  obtain ⟨name, hname, hspelled⟩ := exists_scheme_of_mem hword
  obtain ⟨rest, hrest⟩ := slice_zero_prefix url.toList found.last
  exact ⟨name, hname, _, rest, hrest.symm, hfirst ▸ hspelled⟩

theorem exists_beginsCaseless_withScheme (url : String) :
    ∃ name ∈ schemes, BeginsCaseless (withScheme url) name := by
  unfold withScheme
  split
  · next h => exact exists_beginsCaseless_of_schemeOnly h
  · exact ⟨"https://", by decide, "https://".toList, url.toList, String.toList_append,
      List.forall₂_same.mpr fun c _ => .inl rfl⟩

/-- A character is taken for its lower case, when this is a letter or a sign of schemes. -/
theorem literalTakes_of_lowerCode {sign c : Char} (hsign : sign.toNat ∈ ownLowerCodes)
    (h : lowerCode c.toNat = sign.toNat) : flags.literalTakes sign.toNat c.toNat = true := by
  have hself : ∀ code ∈ ownLowerCodes, lowerCode code = code := by decide +kernel
  have huncased : ∀ n < 128, isCasedCode (lowerCode n) = false → lowerCode n = n := by
    decide +kernel
  cases hcased : isCasedCode sign.toNat with
  | true => simp [Flags.literalTakes, Flags.isCased, Flags.lowered, hcased, h, hself _ hsign]
  | false =>
    have hcode : c.toNat = sign.toNat := by
      rcases lt_or_eq_of_lowerCode (h ▸ hsign) with hlt | heq
      · exact (huncased _ hlt (h ▸ hcased)).symm.trans h
      · exact heq.trans h
    simp [Flags.literalTakes, Flags.isCased, hcased, hcode]

theorem mem_prod_chars {signs front : List Char}
    (hsigns : ∀ sign ∈ signs, sign.toNat ∈ ownLowerCodes)
    (h : List.Forall₂ (fun sign c => lowerCode c.toNat = sign.toNat) signs front) :
    front ∈ (signs.map fun c => (char c).language flags).prod := by
  induction h with
  | nil => exact rfl
  | @cons sign c signs front hlower hfront ih =>
    obtain ⟨hsign, hrest⟩ := List.forall_mem_cons.mp hsigns
    rw [List.map_cons, List.prod_cons]
    exact ⟨[c], ⟨c, rfl, by simpa using literalTakes_of_lowerCode hsign hlower⟩, front,
      ih hrest, rfl⟩

theorem mem_scheme_of_web {name web slashes : List Char}
    (hname : name = "http".toList ∨ name = "https".toList)
    (hweb : web ∈ (name.map fun c => (char c).language flags).prod)
    (hslashes : slashes ∈ ("://".toList.map fun c => (char c).language flags).prod) :
    web ++ slashes ∈ scheme.language flags := by
  have hparts :
      ∃ plain ∈ (Node.ofText "http").language flags, ∃ letter ∈ (maybe (char 's')).language flags,
      web = plain ++ letter := by
    rcases hname with rfl | rfl
    · exact ⟨web, ofText_language _ ▸ hweb, [], mem_maybe_iff.mpr (.inl rfl),
        (List.append_nil web).symm⟩
    · have hsplit : "https".toList = "http".toList ++ ['s'] := by decide
      rw [hsplit, List.map_append, List.prod_append, List.map_singleton,
        List.prod_singleton] at hweb
      obtain ⟨plain, hplain, letter, hletter, rfl⟩ := hweb
      exact ⟨plain, ofText_language _ ▸ hplain, letter, mem_maybe_iff.mpr (.inr hletter), rfl⟩
  obtain ⟨plain, hplain, letter, hletter, rfl⟩ := hparts
  have hlast : slashes ∈ (Node.ofText "://").language flags := ofText_language _ ▸ hslashes
  left
  rw [Node.ofList_language]
  exact ⟨plain, hplain, letter ++ slashes,
    ⟨letter, hletter, slashes, ⟨slashes, hlast, [], rfl, by simp⟩, rfl⟩,
    by simp⟩

theorem withScheme_of_leadsToWeb {url : String} (h : leadsToWeb url = true) :
    withScheme url = url := by
  have hbegins : ∃ name, (name = "http".toList ∨ name = "https".toList) ∧
      name ++ "://".toList <+: lowerFrom [] url.toList := by
    rcases Bool.or_eq_true_iff.mp h with h | h
    · exact ⟨_, .inl rfl, by simpa [beginsWith, lower] using h⟩
    · exact ⟨_, .inr rfl, by simpa [beginsWith, lower] using h⟩
  obtain ⟨name, hname, hbegins⟩ := hbegins
  have hsigns : ∀ sign ∈ name ++ "://".toList, sign.toNat ∈ ownLowerCodes := by
    have hall : (name ++ "://".toList).all (fun sign => ownLowerCodes.contains sign.toNat) =
        true := by
      rcases hname with rfl | rfl <;> decide +kernel
    exact fun sign hsign => List.contains_iff_mem.mp (List.all_eq_true.mp hall sign hsign)
  obtain ⟨front, back, hurl, hfront⟩ := exists_of_lowerFrom hbegins hsigns
  have hfront := mem_prod_chars hsigns hfront
  rw [List.map_append, List.prod_append] at hfront
  obtain ⟨web, hweb, slashes, hslashes, rfl⟩ := hfront
  have hfinds :
      Step.Finds url.toList.toArray (scheme.language flags) (scheme.run url.toList.toArray flags) :=
    Node.run_finds (by decide)
  have hmatch : (schemeOnly.matchAt? url.toList.toArray 0).isSome = true := by
    rw [isSome_matchAt?]
    refine (hfinds _ _ (Nat.zero_le _)).mpr ⟨(web ++ slashes).length, Nat.zero_le _, ?_, ?_, rfl⟩
    · simp [hurl]
    · rw [hurl, slice_eq_take_drop, List.drop_zero, Nat.sub_zero, List.take_left]
      exact mem_scheme_of_web hname hweb hslashes
  rw [withScheme, if_pos hmatch]

/-! ## First occurrences -/

/-- The first link of each address in a list: no address twice, none missing, in the order in which
the addresses occur for the first time. -/
structure FirstOfEach (source links : List Link) : Prop where
  distinct : (links.map Link.url).Nodup
  first : ∀ link ∈ links, source.find? (·.url = link.url) = some link
  ordered : links.Pairwise fun a b =>
    source.findIdx (·.url = a.url) < source.findIdx (·.url = b.url)
  complete : ∀ link ∈ source, ∃ kept ∈ links, kept.url = link.url

/-- The links that are kept are followed by what the rest adds to them: links of other addresses. -/
theorem foldl_distinct (links kept : List Link) :
    links.foldl (fun kept link => if kept.any (·.url = link.url) then kept
      else kept ++ [link]) kept =
      kept ++ (distinct links).filter fun link => !kept.any (·.url = link.url) := by
  induction links generalizing kept with
  | nil => simp [distinct]
  | cons link rest ih =>
    have hdistinct :
        distinct (link :: rest) = link :: (distinct rest).filter (·.url ≠ link.url) := by
      rw [distinct, List.foldl_cons, if_neg (by simp), List.nil_append, ih]
      simp [eq_comm]
    rw [List.foldl_cons, ih, hdistinct]
    split
    · next h =>
      rw [List.filter_cons_of_neg (by simp [h]), List.filter_filter]
      congr 1
      refine List.filter_congr fun other _ => ?_
      by_cases hsame : other.url = link.url <;> simp [hsame, h]
    · next h =>
      rw [List.filter_cons_of_pos (by simpa using h), List.filter_filter, List.append_assoc,
        List.singleton_append]
      congr 2
      refine List.filter_congr fun other _ => ?_
      by_cases hsame : other.url = link.url <;> simp [hsame, eq_comm]

theorem distinct_cons (link : Link) (rest : List Link) :
    distinct (link :: rest) = link :: (distinct rest).filter (·.url ≠ link.url) := by
  rw [distinct, List.foldl_cons, if_neg (by simp), List.nil_append, foldl_distinct]
  simp [eq_comm]

theorem firstOfEach_distinct (source : List Link) : FirstOfEach source (distinct source) := by
  induction source with
  | nil => exact ⟨.nil, by simp [distinct], .nil, by simp⟩
  | cons link rest ih =>
    rw [distinct_cons]
    have hother : ∀ other ∈ (distinct rest).filter (·.url ≠ link.url),
        other ∈ distinct rest ∧ other.url ≠ link.url := by
      intro other hmem
      simpa using List.mem_filter.mp hmem
    constructor
    · rw [List.map_cons, List.nodup_cons]
      constructor
      · intro hmem
        obtain ⟨other, hmem, hurl⟩ := List.mem_map.mp hmem
        exact (hother other hmem).2 hurl
      · exact ih.distinct.sublist (List.filter_sublist.map _)
    · intro kept hkept
      rcases List.mem_cons.mp hkept with rfl | hkept
      · simp
      · obtain ⟨hmem, hne⟩ := hother kept hkept
        rw [List.find?_cons_of_neg (by simpa using hne.symm)]
        exact ih.first kept hmem
    -- the first link stands before all others, and these keep their order behind it
    · refine List.pairwise_cons.mpr ⟨fun other hmem => ?_, ?_⟩
      · have hne := (hother other hmem).2
        simp [List.findIdx_cons, hne.symm]
      · refine (List.Pairwise.filter _ ih.ordered).imp_of_mem fun ha hb hlt => ?_
        have hne := (hother _ ha).2
        have hne' := (hother _ hb).2
        simpa [List.findIdx_cons, hne.symm, hne'.symm] using hlt
    · intro other hmem
      by_cases hsame : other.url = link.url
      · exact ⟨link, List.mem_cons_self, hsame.symm⟩
      · have hrest : other ∈ rest := (List.mem_cons.mp hmem).resolve_left fun he => hsame (he ▸ rfl)
        obtain ⟨kept, hkept, hurl⟩ := ih.complete other hrest
        exact ⟨kept,
          List.mem_cons_of_mem _ (List.mem_filter.mpr ⟨hkept, by simpa [hurl] using hsame⟩), hurl⟩

/-! ## Anchors that lead to the web -/

def webAddress? (anchor : String × String) : Option String :=
  (decoded (strip anchor.1).toList).toOption.filter leadsToWeb

def webAnchors (markup : String) : List (String × String) :=
  (anchors markup).filter fun anchor => (webAddress? anchor).isSome

/-- A link shows an anchor: where it leads, what it encloses without tags and blanks, or else the
address again, and the host of the address. -/
structure Shows (anchor : String × String) (link : Link) : Prop where
  url : webAddress? anchor = some link.url
  text : ∃ inner, decoded (without tagPattern anchor.2) = .ok inner ∧
    link.text = if (strip inner).isEmpty then link.url else strip inner
  domain : link.domain = domainOf link.url

theorem eq_of_make {url text : String} {link : Link} (h : make url text = .ok link) :
    link = ⟨withScheme url, text, domainOf url⟩ := by
  have hdomain := domain_of_make h
  unfold make at h
  dsimp only at h
  split at h
  · exact nomatch h
  · cases h
    rw [← hdomain]
    rfl

theorem shows_of_ofAnchor {anchor : String × String} {link : Link}
    (h : ofAnchor anchor.1 anchor.2 = .ok (some link)) : Shows anchor link := by
  unfold ofAnchor at h
  obtain ⟨url, hurl, h⟩ := exists_of_bind_eq_ok h
  split at h
  · next hweb =>
    obtain ⟨inner, hinner, h⟩ := exists_of_bind_eq_ok h
    obtain ⟨made, hmade, h⟩ := exists_of_bind_eq_ok h
    obtain rfl : made = link := Option.some.inj (Except.ok.inj h)
    have hweb : leadsToWeb url = true := hweb
    have hlink := eq_of_make hmade
    rw [withScheme_of_leadsToWeb hweb] at hlink
    have haddress : webAddress? anchor = some url := by
      simp [webAddress?, hurl, Except.toOption, hweb]
    exact ⟨by rw [haddress, hlink], ⟨inner, hinner, by rw [hlink]⟩, by rw [hlink]⟩
  · exact nomatch Except.ok.inj h

theorem webAddress?_of_ofAnchor {anchor : String × String}
    (h : ofAnchor anchor.1 anchor.2 = .ok none) :
    webAddress? anchor = none := by
  unfold ofAnchor at h
  obtain ⟨url, hurl, h⟩ := exists_of_bind_eq_ok h
  split at h
  · obtain ⟨inner, hinner, h⟩ := exists_of_bind_eq_ok h
    obtain ⟨made, hmade, h⟩ := exists_of_bind_eq_ok h
    exact nomatch Except.ok.inj h
  · next hweb =>
    have hnot : leadsToWeb url = false := Bool.not_eq_true _ ▸ hweb
    simp [webAddress?, hurl, Except.toOption, hnot]

/-- Of the anchors that are made links, those that lead to the web are shown, one by one. -/
theorem forall₂_shows_of_mapM {items : List (String × String)} {found : List (Option Link)}
    (h : items.mapM (fun anchor => ofAnchor anchor.1 anchor.2) = .ok found) :
    List.Forall₂ Shows (items.filter fun anchor => (webAddress? anchor).isSome)
      (found.filterMap id) := by
  induction items generalizing found with
  | nil =>
    obtain rfl : [] = found := Except.ok.inj h
    exact .nil
  | cons anchor rest ih =>
    obtain ⟨first, others, hfirst, hothers, rfl⟩ := mapM_cons_eq_ok_iff.mp h
    cases first with
    | none =>
      rw [List.filter_cons_of_neg (by simp [webAddress?_of_ofAnchor hfirst]),
        List.filterMap_cons_none rfl]
      exact ih hothers
    | some link =>
      have hshows : Shows anchor link := shows_of_ofAnchor hfirst
      rw [List.filter_cons_of_pos (by simp [hshows.url]), List.filterMap_cons_some (f := id) rfl]
      exact .cons hshows (ih hothers)

theorem forall₂_shows_of_ofHtml {markup : String} {links : List Link}
    (h : ofHtml markup = .ok links) :
    List.Forall₂ Shows (webAnchors markup) links := by
  rw [ofHtml_eq] at h
  obtain ⟨found, hfound, rfl⟩ := map_eq_ok_iff.mp h
  exact forall₂_shows_of_mapM hfound

/-! ## The links of an email -/

/-- The links that an email has before those of one address are put together: one for each anchor of
its HTML that leads to the web, or those of its plain body when there is no such anchor. -/
structure IsSource (body htmlBody : String) (source : List Link) : Prop where
  anchored : webAnchors htmlBody ≠ [] → List.Forall₂ Shows (webAnchors htmlBody) source
  plain : webAnchors htmlBody = [] → ofText body = .ok source

theorem exists_isSource {body htmlBody : String} {links : List Link}
    (h : ofBodies body htmlBody = .ok links) :
    ∃ source, IsSource body htmlBody source ∧ links = distinct source := by
  unfold ofBodies at h
  obtain ⟨found, hfound, h⟩ := exists_of_bind_eq_ok h
  have hshows := forall₂_shows_of_ofHtml hfound
  cases found with
  | nil =>
    have hnone : webAnchors htmlBody = [] := List.forall₂_nil_right_iff.mp hshows
    obtain ⟨source, hsource⟩ := exists_ofText body
    refine ⟨source, ⟨fun hsome => absurd hnone hsome, fun _ => hsource⟩, ?_⟩
    rw [hsource] at h
    exact (Except.ok.inj h).symm
  | cons first rest =>
    have hsome : webAnchors htmlBody ≠ [] := fun hnone => by simp [hnone] at hshows
    exact ⟨first :: rest, ⟨fun _ => hshows, fun hnone => absurd hnone hsome⟩,
      (Except.ok.inj h).symm⟩

theorem exists_shows_of_mem {anchors : List (String × String)} {links : List Link}
    (h : List.Forall₂ Shows anchors links) {link : Link} (hlink : link ∈ links) :
    ∃ anchor, Shows anchor link := by
  induction h with
  | nil => exact absurd hlink List.not_mem_nil
  | @cons anchor first _ _ hfirst _ ih =>
    rcases List.mem_cons.mp hlink with rfl | hrest
    · exact ⟨anchor, hfirst⟩
    · exact ih hrest

theorem exists_scheme_of_mem_source {body htmlBody : String} {source : List Link}
    (h : IsSource body htmlBody source) {link : Link} (hlink : link ∈ source) :
    ∃ name ∈ schemes, BeginsCaseless link.url name := by
  by_cases hnone : webAnchors htmlBody = []
  · obtain ⟨url, -, hmake⟩ := (mem_of_mapM_eq_ok (h.plain hnone)).2 link hlink
    rw [eq_of_make hmake]
    exact exists_beginsCaseless_withScheme url
  · obtain ⟨anchor, hshows⟩ := exists_shows_of_mem (h.anchored hnone) hlink
    obtain ⟨-, hweb⟩ := Option.filter_eq_some_iff.mp hshows.url
    rw [← withScheme_of_leadsToWeb hweb]
    exact exists_beginsCaseless_withScheme link.url

/-- A link with an address that begins with a scheme, and with a domain. -/
structure WellFormed (link : Link) : Prop where
  scheme : ∃ name ∈ schemes, BeginsCaseless link.url name
  domain : link.domain ≠ ""

/-- Of the anchors of its HTML that lead to the web, or else of the links in its plain body, an
email has the first of each address, in their order, and each begins with a scheme and has a
domain. -/
theorem ofBodies_firstOfEach {body htmlBody : String} {links : List Link}
    (h : ofBodies body htmlBody = .ok links) :
    ∃ source, IsSource body htmlBody source ∧ FirstOfEach source links ∧
      ∀ link ∈ links, link.WellFormed := by
  obtain ⟨source, hsource, rfl⟩ := exists_isSource h
  refine ⟨source, hsource, firstOfEach_distinct source, fun link hlink => ?_⟩
  have hscheme := exists_scheme_of_mem_source hsource (mem_of_mem_distinct hlink)
  exact ⟨hscheme, (isShown_of_mem_ofBodies h link hlink).domain⟩

/-- Two of these anchors lead to one address, and one does not lead to the web. -/
def repeatedAnchors : String :=
  "<a href='HTTP://A.example'>One</a><a href='ftp://b.example'>No</a>" ++
    "<a href='HTTP://A.example'>Two</a>"

def repeatedLink : Link := ⟨"HTTP://A.example", "One", "a.example"⟩

theorem ofBodies_firstOfEach_repeatedAnchors :
    ofBodies "See https://c.example" repeatedAnchors = .ok [repeatedLink] ∧
      ∃ source, IsSource "See https://c.example" repeatedAnchors source ∧
        FirstOfEach source [repeatedLink] ∧
        ∀ link ∈ [repeatedLink], link.WellFormed := by
  have hhtml :
      ofHtml repeatedAnchors = .ok [repeatedLink, ⟨"HTTP://A.example", "Two", "a.example"⟩] := by
    decide +kernel
  have hlinks : ofBodies "See https://c.example" repeatedAnchors = .ok [repeatedLink] := by
    rw [ofBodies, hhtml]
    decide +kernel
  exact ⟨hlinks, ofBodies_firstOfEach hlinks⟩

end MailTriage.Link

import PodAttach.Proofs.Target.Addresses
import PodAttach.Proofs.Url.Authorities

/-!
# Where a page is served from

An address may be given with its scheme and its host or without them. The two are read in different ways, the one as a
URL of its own and the other on the local page; but what stands behind the host is the same text in both, and all the
schemes of the web read it alike. So the fields of a page do not depend on where it is served from.
-/

namespace PodAttach

open Text Url

namespace Page

/-- The fields of a page are read from its path and its query. -/
theorem fieldsOf_congr {url other : Url} (hpath : url.path = other.path) (hquery : url.query = other.query)
    (style : AddressStyle) : fieldsOf style url = fieldsOf style other := by
  have hsegments : url.pathSegments = other.pathSegments := by rw [pathSegments, pathSegments, hpath]
  have hfields : queryFields url = queryFields other := by
    rw [queryFields, queryFields, queryPairs, queryPairs, hquery]
  cases style with
  | query => exact hfields
  | path => rw [fieldsOf, fieldsOf, hsegments, hfields]

section

variable {address host : String} {rest : List Char}

/-! ### Without a host -/

theorem head?_settled_of_head?_filter {P : Char → Prop}
    (hnext : ∀ c ∈ (rest.filter fun c => c != '\t' && c != '\n' && c != '\r').head?, P c) :
    ∀ c ∈ (settled rest).head?, P c := by
  intro c hc
  obtain ⟨more, hmore⟩ := settled_prefix rest
  apply hnext
  rw [← hmore, List.head?_append, Option.mem_def.1 hc]
  rfl

theorem read_relative (hroot : address.toList = '/' :: rest)
    (hnext : ∀ c ∈ (rest.filter fun c => c != '\t' && c != '\n' && c != '\r').head?, c ≠ '/' ∧ c ≠ '\\')
    (style : AddressStyle) :
    ∃ url, read style address = .ok ⟨none, false, fieldsOf style url⟩ ∧
      url.path = rootedPath .http [] (pathText ('/' :: settled rest)) ∧
      url.query = (tail .http ('/' :: settled rest)).1 := by
  have hfront : address.toList = ['/'] ++ rest := hroot
  apply read_slash (clean_trim_of_ends hfront (by simp) (by simp [isBlank]) (by simp) (by simp))
  intro c hc
  exact (Scheme.isSlash_eq_false_iff rfl c).2 (head?_settled_of_head?_filter hnext c hc)

/-! ### With a host -/

/-- A text that is accepted as the host of a URL, with a port or without. -/
structure IsHostText (host : String) : Prop where
  isBlank_eq : ∀ c ∈ host.toList, isBlank c = false
  ne_mark : ∀ c ∈ host.toList, c ≠ '/' ∧ c ≠ '\\' ∧ c ≠ '?' ∧ c ≠ '#'
  exists_url : ∃ url, Url.read ("http://" ++ host ++ "/") = .ok url

/-- The scheme and the host of an address, up to the first slash of its path. -/
def originText (scheme : Scheme) (host : String) : List Char := scheme.name.toList ++ [':', '/', '/'] ++ host.toList ++ ['/']

section

variable {scheme : Scheme} (hscheme : scheme ∈ Scheme.web)
include hscheme

theorem isBlank_originText (h : IsHostText host) : ∀ c ∈ originText scheme host, isBlank c = false := by
  have hname : ∀ c ∈ scheme.name.toList ++ [':', '/', '/'], isBlank c = false := by
    simp only [Scheme.web, List.mem_cons, List.not_mem_nil, or_false] at hscheme
    rcases hscheme with rfl | rfl | rfl | rfl <;> simp [Scheme.name, isBlank]
  rw [originText, List.forall_mem_append, List.forall_mem_append]
  exact ⟨⟨hname, h.isBlank_eq⟩, by simp [isBlank]⟩

theorem not_le_of_mem_head?_originText (host : String) : ∀ c ∈ (originText scheme host).head?, ¬c ≤ ' ' := by
  simp only [Scheme.web, List.mem_cons, List.not_mem_nil, or_false] at hscheme
  rcases hscheme with rfl | rfl | rfl | rfl <;> simp [originText, Scheme.name]

omit hscheme in
theorem not_le_of_mem_getLast?_originText (host : String) : ∀ c ∈ (originText scheme host).getLast?, ¬c ≤ ' ' := by
  intro c hc
  rw [originText, List.getLast?_concat] at hc
  obtain rfl := Option.some.inj hc
  decide

end

theorem IsHostText.endsAuthority_eq {scheme : Scheme} (hscheme : scheme ∈ Scheme.web) (h : IsHostText host) :
    ∀ c ∈ host.toList, scheme.endsAuthority c = false := by
  intro c hc
  exact (endsAuthority_eq_false_iff (Scheme.isSpecial_of_mem_web hscheme) c).2 (h.ne_mark c hc)

theorem IsHostText.ne_nil (h : IsHostText host) : host.toList ≠ [] := by
  intro hnil
  obtain rfl : host = "" := by simpa using hnil
  obtain ⟨url, hurl⟩ := h.exists_url
  have hempty : Url.read ("http://" ++ "" ++ "/") = .error .emptyHost := by rfl
  rw [hempty] at hurl
  contradiction

theorem IsHostText.exists_authority (h : IsHostText host) :
    ∃ authority, Authority.read .http (host.toList ++ ['/']) = .ok authority := by
  have hhttp : Scheme.http ∈ Scheme.web := by decide
  have htext : ("http://" ++ host ++ "/").toList = originText .http host := by simp [originText, Scheme.name]
  have hclean : clean ("http://" ++ host ++ "/").toList = originText .http host := by
    rw [htext, clean_eq_filter (not_le_of_mem_head?_originText hhttp host) (not_le_of_mem_getLast?_originText host),
      filter_eq_self_of_isBlank (isBlank_originText hhttp h)]
  have hstart : clean ("http://" ++ host ++ "/").toList = "http".toList ++ ':' :: '/' :: '/' :: (host.toList ++ ['/']) := by
    rw [hclean]
    simp [originText, Scheme.name]
  obtain ⟨url, hurl⟩ := h.exists_url
  rw [read_of_clean hhttp h.ne_nil (h.endsAuthority_eq hhttp) hstart] at hurl
  cases hauthority : Authority.read .http (host.toList ++ ['/']) with
  | error fault =>
    rw [hauthority] at hurl
    contradiction
  | ok authority => exact ⟨authority, rfl⟩

theorem read_absolute {scheme : Scheme} (hscheme : scheme ∈ Scheme.web) (h : IsHostText host)
    (hroot : address.toList = '/' :: rest) (style : AddressStyle) :
    ∃ url, read style (scheme.name ++ "://" ++ host ++ address) =
        .ok ⟨url.hostPort?, scheme.isSecure, fieldsOf style url⟩ ∧
      url.hostPort?.isSome ∧ url.path = rootedPath scheme [] (pathText ('/' :: settled rest)) ∧
      url.query = (tail scheme ('/' :: settled rest)).1 := by
  have hspecial := Scheme.isSpecial_of_mem_web hscheme
  have hends := h.endsAuthority_eq hscheme
  have htext : (scheme.name ++ "://" ++ host ++ address).toList = originText scheme host ++ rest := by
    simp [originText, hroot]
  have hclean := clean_trim_of_ends htext (by simp [originText]) (isBlank_originText hscheme h)
    (not_le_of_mem_head?_originText hscheme host) (not_le_of_mem_getLast?_originText host)
  have hstart : originText scheme host ++ settled rest =
      scheme.name.toList ++ ':' :: '/' :: '/' :: (host.toList ++ '/' :: settled rest) := by
    simp [originText]
  have hread := read_of_clean hscheme h.ne_nil hends (hclean.trans hstart)
  -- the host was accepted with nothing but a slash behind it, under another scheme
  obtain ⟨_, hfirst⟩ := h.exists_authority
  obtain ⟨authority, hauthority, -⟩ :=
    (Authority.read_agree rfl hspecial ⟨'/', by simp, rfl⟩ (settled rest)).exists_ok hfirst
  rw [List.append_assoc, List.singleton_append] at hauthority
  have hempty := isEmpty_read hspecial _ authority hauthority
  have hrest : authority.rest = '/' :: settled rest := by
    rw [rest_of_read hspecial _ authority hauthority, (cut_authority hends _).2]
  rw [hauthority] at hread
  have hhost : (authority.toUrl scheme).host? = some authority.host := by
    simp [Url.host?, Authority.toUrl, hempty]
  refine ⟨authority.toUrl scheme, ?_, ?_, ?_, ?_⟩
  · rw [read, locate, hread]
    simp only [Except.map, hhost]
    rfl
  · rw [Url.hostPort?, hhost]
    rfl
  · rw [← hrest]
    rfl
  · rw [← hrest]
    rfl

/-! ### Both -/

/-- The fields of a page are those of its address alone, whatever scheme and host are put in front of it; these are what
its host and its security are taken from. -/
theorem read_served (hroot : address.toList = '/' :: rest)
    (hnext : ∀ c ∈ (rest.filter fun c => c != '\t' && c != '\n' && c != '\r').head?, c ≠ '/' ∧ c ≠ '\\')
    (hhost : IsHostText host) {scheme : Scheme} (hscheme : scheme ∈ Scheme.web) (style : AddressStyle) :
    ∃ page served, read style address = .ok page ∧
      read style (scheme.name ++ "://" ++ host ++ address) = .ok served ∧ page.fields = served.fields ∧
      page.host = none ∧ page.secure = false ∧ served.host.isSome ∧
      (served.secure = true ↔ scheme = .https ∨ scheme = .wss) ∧
      ∀ mode, (resolve address style mode).map Prod.fst =
        (resolve (scheme.name ++ "://" ++ host ++ address) style mode).map Prod.fst := by
  obtain ⟨url, hread, hpath, hquery⟩ := read_relative hroot hnext style
  obtain ⟨other, hserved, hsome, hotherPath, hotherQuery⟩ := read_absolute hscheme hhost hroot style
  have hhttp : Scheme.http ∈ Scheme.web := by decide
  have hspecial := Scheme.isSpecial_of_mem_web hhttp
  have hother := Scheme.isSpecial_of_mem_web hscheme
  have hfields : fieldsOf style url = fieldsOf style other := by
    apply fieldsOf_congr
    · rw [hpath, hotherPath, rootedPath_congr hspecial hother (Scheme.ne_file_of_mem_web hhttp)
        (Scheme.ne_file_of_mem_web hscheme)]
    · rw [hquery, hotherQuery, tail_congr hspecial hother]
  have hsecure : scheme.isSecure = true ↔ scheme = .https ∨ scheme = .wss := by
    cases scheme <;> simp [Scheme.isSecure]
  refine ⟨_, _, hread, hserved, hfields, rfl, rfl, hsome, hsecure, ?_⟩
  intro mode
  rw [resolve, resolve, hread, hserved]
  simp only [bind, Except.bind, hfields]
  cases Target.resolve (fieldsOf style other) mode <;> rfl

end

/-- An address with a tab, dot segments, an escaped letter, a fragment and blanks at its end. -/
def untidyAddress : String := "/\tnamespaces/shop/./pods/x/../web-0?container=%61pp&tail=5#top \n"

theorem read_served_bracketed :
    IsHostText "[::1]:8443" ∧ Scheme.wss ∈ Scheme.web ∧
      ∃ page served, read .path untidyAddress = .ok page ∧
        read .path (Scheme.wss.name ++ "://" ++ "[::1]:8443" ++ untidyAddress) = .ok served ∧
        page.fields = served.fields ∧ page.host = none ∧ served.host.isSome ∧ served.secure = true := by
  have hroot : untidyAddress.toList = '/' :: untidyAddress.toList.tail := by rfl
  have hnext : ∀ c ∈ (untidyAddress.toList.tail.filter fun c => c != '\t' && c != '\n' && c != '\r').head?,
      c ≠ '/' ∧ c ≠ '\\' := by
    intro c hc
    obtain rfl : 'n' = c := Option.some.inj hc
    decide
  have hhost : IsHostText "[::1]:8443" := ⟨by simp [isBlank], by simp, _, rfl⟩
  have hscheme : Scheme.wss ∈ Scheme.web := by decide
  obtain ⟨page, served, hpage, hserved, hfields, hnone, -, hsome, hsecure, -⟩ :=
    read_served hroot hnext hhost hscheme .path
  exact ⟨hhost, hscheme, page, served, hpage, hserved, hfields, hnone, hsome, hsecure.2 (.inr rfl)⟩

end Page

end PodAttach

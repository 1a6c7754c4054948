import PodAttach.Proofs.Target.Gathering
import PodAttach.Proofs.Url.Names

/-!
# Addresses without a host

An address that starts with a slash is read on the local page. It leads to a page of no known host, and the fields of
that page are those of its path and its query alone.
-/

namespace PodAttach.Page

open Text Url

variable {address : String} {path rest : List Char}

/-- The query pairs that a text behind a question mark holds, up to a fragment. -/
def pairsOf (rest : List Char) : List (String × String) :=
  formPairs (percentEncode specialQuerySet (rest.takeWhile (· != '#')))

section

variable {form : List Char} (h : ∀ c ∈ form, IsPlain c)
include h

theorem pairsOf_eq_formPairs : pairsOf form = formPairs form := by
  have hmark : form.takeWhile (· != '#') = form := takeWhile_ne_eq_self fun hmem => (h '#' hmem).ne_mark.2 rfl
  rw [pairsOf, hmark, percentEncode_eq_self fun c hc => (h c hc).querySet_eq]

theorem pairsOf_append (rest : List Char) : pairsOf (form ++ '&' :: rest) = formPairs form ++ pairsOf rest := by
  have hmark : ∀ c ∈ form ++ ['&'], (c != '#') = true := by
    rw [List.forall_mem_append, List.forall_mem_singleton]
    exact ⟨fun c hc => by simpa using (h c hc).ne_mark.2, by decide⟩
  have hset : ∀ c ∈ form ++ ['&'], specialQuerySet c = false := by
    rw [List.forall_mem_append, List.forall_mem_singleton]
    exact ⟨fun c hc => (h c hc).querySet_eq, by decide⟩
  rw [pairsOf, pairsOf, List.append_cons, List.takeWhile_append_of_pos hmark, percentEncode_append,
    percentEncode_eq_self hset, List.append_assoc, List.singleton_append, formPairs_append]

end

/-- The page of an address that starts with one slash. -/
theorem read_slash {cs : List Char} (hclean : clean (trim address).toList = '/' :: cs)
    (hfirst : ∀ c ∈ cs.head?, Scheme.http.isSlash c = false) (style : AddressStyle) :
    ∃ url, read style address = .ok ⟨none, false, fieldsOf style url⟩ ∧
      url.path = rootedPath .http [] (pathText ('/' :: cs)) ∧ url.query = (tail .http ('/' :: cs)).1 := by
  have hrelative : Url.read (trim address) = .error .relative := by
    rw [Url.read, hclean]
    rfl
  obtain ⟨url, hread, hpath, hquery⟩ : ∃ url, localPage.readOn (trim address) = .ok url ∧
      url.path = rootedPath .http [] (pathText ('/' :: cs)) ∧ url.query = (tail .http ('/' :: cs)).1 :=
    ⟨_, readOn_root hclean hfirst, rfl, rfl⟩
  refine ⟨url, ?_, hpath, hquery⟩
  rw [read, locate, hrelative]
  simp only [hread]
  rfl

/-- The page of an address that is a path from the root and a query. -/
theorem read_root (hclean : clean (trim address).toList = '/' :: path ++ '?' :: rest)
    (hpath : ∀ c ∈ path, c ≠ '?' ∧ c ≠ '#') (hfirst : ∀ c ∈ path.head?, Scheme.http.isSlash c = false)
    (style : AddressStyle) :
    ∃ url, read style address = .ok ⟨none, false, fieldsOf style url⟩ ∧
      url.pathSegments = (segmentsOn .http [] path).map String.ofList ∧ url.queryPairs = pairsOf rest := by
  have hroot : ∀ c ∈ '/' :: path, c ≠ '?' ∧ c ≠ '#' := List.forall_mem_cons.2 ⟨by decide, hpath⟩
  have hsecond : ∀ c ∈ (path ++ '?' :: rest).head?, Scheme.http.isSlash c = false := by
    cases path with
    | nil => simp [Scheme.isSlash]
    | cons first more => exact hfirst
  have hstart : clean (trim address).toList = '/' :: (path ++ '?' :: rest) := hclean
  obtain ⟨url, hread, hurlPath, hurlQuery⟩ := read_slash hstart hsecond style
  refine ⟨url, hread, ?_, ?_⟩
  · rw [← List.cons_append, pathText_append hroot, rootedPath_cons rfl] at hurlPath
    rw [Url.pathSegments, hurlPath]
  · rw [← List.cons_append, tail_append hroot] at hurlQuery
    simp only [Url.queryPairs, hurlQuery, String.toList_ofList]
    rfl

end PodAttach.Page

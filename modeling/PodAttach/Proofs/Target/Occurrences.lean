import PodAttach.Proofs.Target.Gathering

/-!
# Which occurrence of a key counts

An address may name a key more than once. Of the occurrences in a query the first one counts that is not empty. Of those in
a path the last one counts, before any in the query. So an address is read from left to right, with the first occurrence
winning, exactly if its path does not contradict itself about the key.
-/

namespace PodAttach.Page

/-! ### Keys in a path -/

/-- The key that the segment in a place bears the name of. -/
def nameAt? (segments : List String) (n : Nat) : Option String := segments[n]?.bind segmentKey?

/-- A segment is a key if it bears the name of one, unless it is the value of the segment before it. -/
def isKeyAt (segments : List String) : Nat → Bool
  | 0 => (nameAt? segments 0).isSome
  | n + 1 => (nameAt? segments (n + 1)).isSome && !isKeyAt segments n

/-- The key in a place with the value behind it. -/
def pairAt? (segments : List String) (n : Nat) : Option (String × String) :=
  if isKeyAt segments n then
    (nameAt? segments n).bind fun key => segments[n + 1]?.map fun value => (key, value)
  else none

/-- The keys of a path with their values, from left to right. -/
def keyedPairs (segments : List String) : List (String × String) :=
  (List.range segments.length).filterMap (pairAt? segments)

section

variable {segment value key : String} {rest : List String}

/-- A segment that is no key leaves those behind it as they are without it. -/
theorem isKeyAt_cons_of_none (h : segmentKey? segment = none) (n : Nat) :
    isKeyAt (segment :: rest) (n + 1) = isKeyAt rest n := by
  induction n with
  | zero => simp [isKeyAt, nameAt?, h]
  | succ n ih =>
    rw [isKeyAt, ih]
    rfl

theorem pairAt?_cons_of_none (h : segmentKey? segment = none) (n : Nat) :
    pairAt? (segment :: rest) (n + 1) = pairAt? rest n := by
  rw [pairAt?, pairAt?, isKeyAt_cons_of_none h]
  rfl

/-- Whatever the value of a key is, the segments behind it start anew. -/
theorem isKeyAt_cons_of_some (h : segmentKey? segment = some key) (n : Nat) :
    isKeyAt (segment :: value :: rest) (n + 2) = isKeyAt rest n := by
  induction n with
  | zero => simp [isKeyAt, nameAt?, h]
  | succ n ih =>
    rw [isKeyAt, ih]
    rfl

theorem pairAt?_cons_of_some (h : segmentKey? segment = some key) (n : Nat) :
    pairAt? (segment :: value :: rest) (n + 2) = pairAt? rest n := by
  rw [pairAt?, pairAt?, isKeyAt_cons_of_some h]
  rfl

theorem keyedPairs_cons_of_none (h : segmentKey? segment = none) :
    keyedPairs (segment :: rest) = keyedPairs rest := by
  have hfirst : pairAt? (segment :: rest) 0 = none := by simp [pairAt?, isKeyAt, nameAt?, h]
  have hlater : pairAt? (segment :: rest) ∘ Nat.succ = pairAt? rest := funext fun n => pairAt?_cons_of_none h n
  rw [keyedPairs, List.length_cons, List.range_succ_eq_map, List.filterMap_cons_none hfirst, List.filterMap_map, hlater,
    keyedPairs]

theorem keyedPairs_cons_of_some (h : segmentKey? segment = some key) :
    keyedPairs (segment :: value :: rest) = (key, value) :: keyedPairs rest := by
  have hfirst : pairAt? (segment :: value :: rest) 0 = some (key, value) := by simp [pairAt?, isKeyAt, nameAt?, h]
  have hsecond : (pairAt? (segment :: value :: rest) ∘ Nat.succ) 0 = none := by simp [pairAt?, isKeyAt, nameAt?, h]
  have hlater : (pairAt? (segment :: value :: rest) ∘ Nat.succ) ∘ Nat.succ = pairAt? rest :=
    funext fun n => pairAt?_cons_of_some h n
  rw [keyedPairs, List.length_cons, List.length_cons, List.range_succ_eq_map, List.filterMap_cons_some hfirst,
    List.filterMap_map, List.range_succ_eq_map, List.filterMap_cons_none hsecond, List.filterMap_map, hlater, keyedPairs]

theorem keyedPairs_singleton : keyedPairs [segment] = [] := by
  have hnone : pairAt? [segment] 0 = none := by simp [pairAt?]
  exact List.filterMap_cons_none hnone

end

/-- Reading a path segment by segment finds its keys. -/
theorem segmentFields_eq_keyedPairs (segments : List String) : segmentFields segments = keyedPairs segments := by
  induction segments using segmentFields.induct with
  | case1 => rfl
  | case2 segment => rw [segmentFields, keyedPairs_singleton]
  | case3 segment value rest key hkey ih => rw [segmentFields, hkey, ih, keyedPairs_cons_of_some hkey]
  | case4 segment value rest hkey ih => rw [segmentFields, hkey, ih, keyedPairs_cons_of_none hkey]

/-! ### Occurrences -/

/-- The pairs of an address that are in its path. -/
def pathPairs (style : AddressStyle) (url : Url) : List (String × String) :=
  match style with
  | .query => []
  | .path => keyedPairs (url.pathSegments.filter (· ≠ ""))

theorem get?_fieldsOf (style : AddressStyle) (url : Url) (key : String) :
    (fieldsOf style url).get? key =
      ((pathPairs style url).reverse.lookup key).or ((url.queryPairs.filter notEmpty).lookup key) := by
  cases style with
  | query => rw [fieldsOf, get?_queryFields, pathPairs, List.reverse_nil, List.lookup_nil, Option.none_or]
  | path => rw [fieldsOf, Fields.get?_foldl_insert, get?_queryFields, pathPairs, segmentFields_eq_keyedPairs]

theorem lookup_reverse_eq_none_iff {pairs : List (String × String)} {key : String} :
    pairs.reverse.lookup key = none ↔ pairs.lookup key = none := by
  simp only [List.lookup_eq_none_iff, List.mem_reverse]

/-- Before further pairs, the first pair of a key stands for the last one only if they say the same. -/
theorem lookup_reverse_or_eq_iff {pairs more : List (String × String)} {key : String} :
    (pairs.reverse.lookup key).or (more.lookup key) = (pairs ++ more).lookup key ↔
      pairs.reverse.lookup key = pairs.lookup key := by
  rw [List.lookup_append]
  cases hlast : pairs.reverse.lookup key with
  | none =>
    rw [lookup_reverse_eq_none_iff.1 hlast]
    exact iff_of_true rfl rfl
  | some last =>
    have hsome : pairs.lookup key ≠ none := by
      intro hnone
      rw [lookup_reverse_eq_none_iff.2 hnone] at hlast
      cases hlast
    obtain ⟨first, hfirst⟩ := Option.ne_none_iff_exists'.1 hsome
    simp [hfirst]

/-- The value of a key is the one of its last occurrence in the path, or else of its first in the query that is not
empty. That is its first occurrence from left to right exactly if the path says the same of the key first and last. -/
theorem get?_read {address : String} {style : AddressStyle} {page : Page} (h : read style address = .ok page)
    (key : String) :
    ∃ url isAbsolute, locate address = .ok (url, isAbsolute) ∧
      (page.fields.get? key =
        ((pathPairs style url).reverse.lookup key).or ((url.queryPairs.filter notEmpty).lookup key)) ∧
      (page.fields.get? key = (pathPairs style url ++ url.queryPairs.filter notEmpty).lookup key ↔
        (pathPairs style url).reverse.lookup key = (pathPairs style url).lookup key) := by
  rw [read] at h
  split at h
  · cases h
  · next url isAbsolute hlocate =>
    obtain rfl := Except.ok.inj h
    refine ⟨url, isAbsolute, hlocate, get?_fieldsOf style url key, ?_⟩
    rw [get?_fieldsOf]
    exact lookup_reverse_or_eq_iff

/-- A path that says the same of the pod twice. The segment between that bears a key's name is a value. -/
def twiceNamed : Url :=
  { localPage with
    path := .segments ["pods", "web-1", "container", "pod", "pod", "web-1"]
    query := some "pod=web-2" }

theorem get?_read_twice :
    read .path "/pods/web-1/container/pod/pod/web-1?pod=web-2" =
        .ok ⟨none, false, ⟨[("pod", "web-1"), ("container", "pod")]⟩⟩ ∧
      (⟨[("pod", "web-1"), ("container", "pod")]⟩ : Fields).get? "pod" =
        (pathPairs .path twiceNamed ++ twiceNamed.queryPairs.filter notEmpty).lookup "pod" := by
  have hplace : locate "/pods/web-1/container/pod/pod/web-1?pod=web-2" = .ok (twiceNamed, false) := by rfl
  have hread : read .path "/pods/web-1/container/pod/pod/web-1?pod=web-2" =
      .ok ⟨none, false, ⟨[("pod", "web-1"), ("container", "pod")]⟩⟩ := by
    rw [read, hplace]
    rfl
  obtain ⟨url, isAbsolute, hlocate, -, hfirst⟩ := get?_read hread "pod"
  obtain rfl : twiceNamed = url := congrArg Prod.fst (Except.ok.inj (hplace.symm.trans hlocate))
  exact ⟨hread, hfirst.2 (by rfl)⟩

/-- The pod of a path that names two is the second one. -/
theorem get?_read_of_two :
    (read .path "/pods/web-1/pod/web-2").map (fun page => page.fields.get? "pod") = .ok (some "web-2") ∧
      (locate "/pods/web-1/pod/web-2").map
        (fun place => (pathPairs .path place.1 ++ place.1.queryPairs.filter notEmpty).lookup "pod") =
          .ok (some "web-1") :=
  ⟨by rfl, by rfl⟩

end PodAttach.Page

import PodAttach.Proofs.Target.Addresses

/-!
# The two styles of an address

A page address names its container in the path or at the front of the query. Whatever follows in the query is read alike:
in the one style the names replace it, in the other it comes behind them and is passed over where they have spoken. So
both addresses describe the same target, or have the same fault.
-/

namespace PodAttach.Page

open Text Url

/-! ### The names -/

def named (ns pod container : String) : List (String × String) :=
  [("namespace", ns), ("pod", pod), ("container", container)]

/-- The fields hold the names, and behind them what the rest of a query says. -/
def Describes (fields : Fields) (ns pod container query : String) : Prop :=
  ∀ key, fields.get? key =
    ((named ns pod container).lookup key).or (((pairsOf (settled query.toList)).filter notEmpty).lookup key)

theorem get?_foldl_named (ns pod container : String) (fields : Fields) (key : String) :
    ((named ns pod container).foldl (fun fields (key, value) => fields.insert key value) fields).get? key =
      ((named ns pod container).lookup key).or (fields.get? key) := by
  have hnodup : ((named ns pod container).map Prod.fst).Nodup := by simp [named]
  rw [Fields.get?_foldl_insert, lookup_reverse hnodup]

section

variable {ns pod container : String} (hns : IsName ns) (hpod : IsName pod) (hcontainer : IsName container)
include hns hpod hcontainer

theorem isName_named : ∀ pair ∈ named ns pod container, IsName pair.1 ∧ IsName pair.2 := by
  simp only [named, List.forall_mem_cons, List.not_mem_nil, false_implies, implies_true, and_true]
  exact ⟨⟨by decide, hns⟩, ⟨by decide, hpod⟩, by decide, hcontainer⟩

theorem filter_named : (named ns pod container).filter notEmpty = named ns pod container := by
  rw [List.filter_eq_self]
  intro pair hpair
  simpa [notEmpty] using (isName_named hns hpod hcontainer pair hpair).2.ne_empty

/-! ### In the query -/

/-- The address of a page that names its container at the front of the query. -/
def queryAddress (ns pod container query : String) : String := "/x?" ++ formOf (named ns pod container) ++ "&" ++ query

theorem formPairs_named : formPairs (formOf (named ns pod container)).toList = named ns pod container := by
  have hnames := isName_named hns hpod hcontainer
  rw [formPairs_eq_map fun pair hpair => ⟨(hnames pair hpair).1.isFormText, (hnames pair hpair).2.isFormText⟩]
  have hsame : ∀ pair ∈ named ns pod container, (formText pair.1.toList, formText pair.2.toList) = id pair := by
    intro pair hpair
    rw [(hnames pair hpair).1.formText_eq, (hnames pair hpair).2.formText_eq]
    rfl
  exact (List.map_congr_left hsame).trans (List.map_id _)

theorem read_queryAddress (query : String) :
    ∃ fields, read .query (queryAddress ns pod container query) = .ok ⟨none, false, fields⟩ ∧
      Describes fields ns pod container query := by
  have hnames := isName_named hns hpod hcontainer
  have hform : ∀ c ∈ (formOf (named ns pod container)).toList, IsPlain c :=
    isPlain_of_mem_formOf fun pair hpair => ⟨(hnames pair hpair).1.isFormText, (hnames pair hpair).2.isFormText⟩
  have htext : (queryAddress ns pod container query).toList =
      (['/', 'x', '?'] ++ (formOf (named ns pod container)).toList ++ ['&']) ++ query.toList := by
    simp [queryAddress, String.toList_append]
  have hvisible : ∀ c ∈ ['/', 'x', '?'] ++ (formOf (named ns pod container)).toList ++ ['&'], IsVisible c := by
    simp only [List.forall_mem_append, List.forall_mem_cons, List.not_mem_nil, false_implies, implies_true, and_true]
    exact ⟨⟨⟨⟨by decide, by decide⟩, ⟨by decide, by decide⟩, ⟨by decide, by decide⟩⟩,
      fun c hc => (hform c hc).toIsVisible⟩, ⟨by decide, by decide⟩⟩
  have hclean := clean_trim htext (by simp) hvisible
  have hshape : clean (trim (queryAddress ns pod container query)).toList = '/' :: ['x'] ++
      '?' :: ((formOf (named ns pod container)).toList ++ '&' :: settled query.toList) := by
    rw [hclean]
    simp
  obtain ⟨url, hread, -, hpairs⟩ := read_root hshape (by simp) (by simp [Scheme.isSlash]) .query
  refine ⟨_, hread, fun key => ?_⟩
  rw [pairsOf_append hform, formPairs_named hns hpod hcontainer] at hpairs
  rw [fieldsOf, get?_queryFields, hpairs, List.filter_append, List.lookup_append, filter_named hns hpod hcontainer]

example : queryAddress "shop" "web-0" "app" "tail=5" = "/x?namespace=shop&pod=web-0&container=app&tail=5" := by decide

/-! ### In the path -/

/-- The address of a page that names its container in the path, each name behind its key. -/
def pathAddress (nsKey ns podKey pod containerKey container query : String) : String :=
  "/" ++ "/".intercalate [nsKey, ns, podKey, pod, containerKey, container] ++ "?" ++ query

variable {nsKey podKey containerKey : String} (hnsKey : nsKey ∈ ["namespaces", "namespace"])
  (hpodKey : podKey ∈ ["pods", "pod"]) (hcontainerKey : containerKey ∈ ["containers", "container"])
include hnsKey hpodKey hcontainerKey

theorem isName_segments : ∀ segment ∈ [nsKey, ns, podKey, pod, containerKey, container], IsName segment := by
  have hkeys : ∀ key ∈ ["namespaces", "namespace"] ++ ["pods", "pod"] ++ ["containers", "container"], IsName key := by
    decide
  simp only [List.forall_mem_append] at hkeys
  simp only [List.forall_mem_cons, List.not_mem_nil, false_implies, implies_true, and_true]
  exact ⟨hkeys.1.1 nsKey hnsKey, hns, hkeys.1.2 podKey hpodKey, hpod, hkeys.2 containerKey hcontainerKey, hcontainer⟩

theorem segmentFields_eq_named :
    segmentFields ([nsKey, ns, podKey, pod, containerKey, container].filter (· ≠ "")) = named ns pod container := by
  have hsegments := isName_segments hns hpod hcontainer hnsKey hpodKey hcontainerKey
  have hkept : [nsKey, ns, podKey, pod, containerKey, container].filter (· ≠ "") = _ :=
    List.filter_eq_self.2 fun segment hsegment => by simpa using (hsegments segment hsegment).ne_empty
  obtain ⟨hns?, hpod?, hcontainer?⟩ : segmentKey? nsKey = some "namespace" ∧ segmentKey? podKey = some "pod" ∧
      segmentKey? containerKey = some "container" := by
    have hkeys : (∀ key ∈ ["namespaces", "namespace"], segmentKey? key = some "namespace") ∧
        (∀ key ∈ ["pods", "pod"], segmentKey? key = some "pod") ∧
        ∀ key ∈ ["containers", "container"], segmentKey? key = some "container" := by decide
    exact ⟨hkeys.1 nsKey hnsKey, hkeys.2.1 podKey hpodKey, hkeys.2.2 containerKey hcontainerKey⟩
  rw [hkept]
  simp only [segmentFields, hns?, hpod?, hcontainer?]
  rfl

theorem read_pathAddress (query : String) :
    ∃ fields, read .path (pathAddress nsKey ns podKey pod containerKey container query) = .ok ⟨none, false, fields⟩ ∧
      Describes fields ns pod container query := by
  have hsegments := isName_segments hns hpod hcontainer hnsKey hpodKey hcontainerKey
  let path := ['/'].intercalate ([nsKey, ns, podKey, pod, containerKey, container].map String.toList)
  have htext : (pathAddress nsKey ns podKey pod containerKey container query).toList =
      ('/' :: path ++ ['?']) ++ query.toList := by
    have hslash : "/".toList = ['/'] := by decide
    have hmark : "?".toList = ['?'] := by decide
    simp only [pathAddress, path, String.toList_append, String.toList_intercalate, hslash, hmark, List.singleton_append]
  have hvisible : ∀ c ∈ '/' :: path ++ ['?'], IsVisible c := by
    rw [List.forall_mem_append, List.forall_mem_cons, List.forall_mem_singleton]
    have hslash : IsVisible '/' := ⟨by decide, by decide⟩
    exact ⟨⟨hslash, forall_mem_path hsegments hslash fun c hc => hc.toIsVisible⟩, ⟨by decide, by decide⟩⟩
  have hclean := clean_trim htext (by simp) hvisible
  rw [List.append_assoc, List.singleton_append] at hclean
  have hpath : ∀ c ∈ path, c ≠ '?' ∧ c ≠ '#' := forall_mem_path hsegments (by decide) fun c hc => hc.ne_mark
  have hfirst : ∀ c ∈ path.head?, Scheme.http.isSlash c = false := by
    have hkey := hsegments nsKey List.mem_cons_self
    have hhead : path.head? = nsKey.toList.head? := by
      have hne : nsKey.toList ≠ [] := by simpa using hkey.ne_empty
      simp [path, List.intercalate_cons_cons, List.head?_append_of_ne_nil _ hne]
    rw [hhead]
    exact fun c hc => (hkey.isPlain_of_mem c (List.mem_of_mem_head? hc)).isSlash_eq
  obtain ⟨url, hread, hpathSegments, hpairs⟩ := read_root hclean hpath hfirst .path
  refine ⟨_, hread, fun key => ?_⟩
  rw [segmentsOn_names hsegments (by simp)] at hpathSegments
  rw [fieldsOf, hpathSegments, segmentFields_eq_named hns hpod hcontainer hnsKey hpodKey hcontainerKey,
    get?_foldl_named, get?_queryFields, hpairs]

example : pathAddress "namespaces" "shop" "pods" "web-0" "container" "app" "tail=5" =
    "/namespaces/shop/pods/web-0/container/app?tail=5" := by decide

/-! ### Both styles -/

/-- Both addresses are read, as pages of no known host with the same fields, so they describe the same target or have the
same fault. -/
theorem read_styles (query : String) :
    ∃ byPath byQuery,
      read .path (pathAddress nsKey ns podKey pod containerKey container query) = .ok byPath ∧
      read .query (queryAddress ns pod container query) = .ok byQuery ∧
      byPath.host = none ∧ byQuery.host = none ∧ byPath.secure = false ∧ byQuery.secure = false ∧
      (∀ key, byPath.fields.get? key = byQuery.fields.get? key) ∧
      (∀ pair ∈ named ns pod container, byQuery.fields.get? pair.1 = some pair.2) ∧
      ∀ mode, (resolve (pathAddress nsKey ns podKey pod containerKey container query) .path mode).map Prod.fst =
        (resolve (queryAddress ns pod container query) .query mode).map Prod.fst := by
  obtain ⟨pathFields, hpath, hpathFields⟩ :=
    read_pathAddress hns hpod hcontainer hnsKey hpodKey hcontainerKey query
  obtain ⟨queryFields, hquery, hqueryFields⟩ := read_queryAddress hns hpod hcontainer query
  have hsame : ∀ key, pathFields.get? key = queryFields.get? key := fun key =>
    (hpathFields key).trans (hqueryFields key).symm
  refine ⟨_, _, hpath, hquery, rfl, rfl, rfl, rfl, hsame, ?_, fun mode => ?_⟩
  · intro pair hpair
    have hlookup : ∀ pair ∈ named ns pod container, (named ns pod container).lookup pair.1 = some pair.2 := by
      simp [named, List.lookup_cons]
    rw [hqueryFields, hlookup pair hpair, Option.some_or]
  · have htarget := Target.resolve_congr (fun key => congrArg Fields.usable (hsame key)) mode
    rw [resolve, resolve, hpath, hquery]
    simp only [bind, Except.bind, htarget]
    cases Target.resolve queryFields mode <;> rfl

end

/-- Names that are keys as well, and a query that contradicts them. -/
theorem read_styles_keys :
    IsName "pods" ∧ IsName "namespace" ∧ IsName "container" ∧ "namespaces" ∈ ["namespaces", "namespace"] ∧
      "pod" ∈ ["pods", "pod"] ∧ "containers" ∈ ["containers", "container"] ∧
      ∀ mode, (resolve (pathAddress "namespaces" "pods" "pod" "namespace" "containers" "container" "pod=x&tail=%2B9#end")
          .path mode).map Prod.fst =
        (resolve (queryAddress "pods" "namespace" "container" "pod=x&tail=%2B9#end") .query mode).map Prod.fst := by
  have hns : IsName "pods" := by decide
  have hpod : IsName "namespace" := by decide
  have hcontainer : IsName "container" := by decide
  have hnsKey : "namespaces" ∈ ["namespaces", "namespace"] := by decide
  have hpodKey : "pod" ∈ ["pods", "pod"] := by decide
  have hcontainerKey : "containers" ∈ ["containers", "container"] := by decide
  obtain ⟨_, _, -, -, -, -, -, -, -, -, hresolve⟩ :=
    read_styles hns hpod hcontainer hnsKey hpodKey hcontainerKey "pod=x&tail=%2B9#end"
  exact ⟨hns, hpod, hcontainer, hnsKey, hpodKey, hcontainerKey, hresolve⟩

end PodAttach.Page

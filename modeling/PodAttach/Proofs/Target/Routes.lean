import PodAttach.Proofs.Target.Pieces
import PodAttach.Proofs.Url.Authorities
import PodAttach.Proofs.Url.Names

/-!
# The route of a connection URL

What a URL reader makes of the path of a connection URL. A coordinate holds nothing that ends a path, and no slash; but
under a scheme of the web a backslash cuts a path as well, and segments of one dot or two are taken out of it. So a target
is found again in the path of its URL exactly if none of its coordinates is a dot segment or holds a backslash.
-/

namespace PodAttach

open Text Url

/-! ### Segments -/

/-- A text that stands in a path as one segment, if it holds no slash. -/
structure IsSegment (s : String) : Prop where
  ne_dot : s ≠ "."
  ne_dots : s ≠ ".."
  backslash_not_mem : '\\' ∉ s.toList

instance (s : String) : Decidable (IsSegment s) :=
  decidable_of_iff (s ≠ "." ∧ s ≠ ".." ∧ '\\' ∉ s.toList)
    ⟨fun ⟨hdot, hdots, hbackslash⟩ => ⟨hdot, hdots, hbackslash⟩, fun h => ⟨h.ne_dot, h.ne_dots, h.backslash_not_mem⟩⟩

/-- The text that a segment of a path was encoded from. -/
def segmentText? (segment : String) : Option String :=
  (Utf8.decode? (percentDecode segment.toList)).map String.ofList

theorem segmentText?_percentEncode {cs : List Char} (h : '%' ∉ cs) :
    segmentText? (String.ofList (percentEncode pathSet cs)) = some (String.ofList cs) := by
  rw [segmentText?, String.toList_ofList, percentDecode_percentEncode pathSet h, Utf8.decode?_encode]
  rfl

namespace Target

variable {target : Target}

/-- The segments that the URL of a target is made of. -/
def route (target : Target) : List String :=
  ["ws", target.ns, target.pod, target.container, target.mode.pathSegment]

def routeText (target : Target) : List Char := ['/'].intercalate (target.route.map String.toList)

theorem toList_path_eq_cons (target : Target) : (AttachUrl.path target).toList = '/' :: target.routeText := by
  rw [Pieces.toList_path, List.intercalate_cons_cons]
  rfl

theorem Sound.isCoordinate_of_mem_route (h : target.Sound) : ∀ s ∈ target.route, IsCoordinate s := by
  have hws : IsCoordinate "ws" := ⟨by decide, by simp [IsSafe, isUnsafe, isBlank]⟩
  have hmode : IsCoordinate target.mode.pathSegment := by
    cases target.mode <;> exact ⟨by decide, by simp [IsSafe, Mode.pathSegment, isUnsafe, isBlank]⟩
  simp only [route, List.forall_mem_cons, List.not_mem_nil, false_implies, implies_true, and_true]
  exact ⟨hws, h.ns, h.pod, h.container, hmode⟩

theorem Sound.forall_mem_routeText (h : target.Sound) {P : Char → Prop} (hslash : P '/')
    (hsafe : ∀ c, isUnsafe c = false → P c) : ∀ c ∈ target.routeText, P c := by
  refine forall_mem_intercalate hslash fun part hpart c hc => ?_
  obtain ⟨s, hs, rfl⟩ := List.mem_map.1 hpart
  exact hsafe c ((h.isCoordinate_of_mem_route s hs).isSafe c hc)

theorem Sound.not_mem_routeText (h : target.Sound) {c : Char} (hc : isUnsafe c = true) (hslash : c ≠ '/') :
    c ∉ target.routeText := by
  intro hmem
  refine h.forall_mem_routeText (P := (· ≠ c)) hslash.symm ?_ c hmem rfl
  rintro _ hsafe rfl
  rw [hsafe] at hc
  contradiction

theorem IsCoordinate.not_mem {s : String} (h : IsCoordinate s) {c : Char} (hc : isUnsafe c = true) : c ∉ s.toList :=
  Pieces.ne_of_isSafe h.isSafe hc

/-! ### The path that is read -/

section

variable {scheme : Scheme} (hspecial : scheme.isSpecial = true) (hfile : scheme ≠ .file)
include hspecial hfile

theorem Sound.isSegment_of_segments_eq (h : target.Sound)
    (hroute : ((segmentsOn scheme [] target.routeText).map String.ofList).map segmentText? = target.route.map some) :
    ∀ s ∈ target.route, IsSegment s := by
  intro s hs
  have hsign : '%' ∉ target.routeText := h.not_mem_routeText (by decide) (by decide)
  obtain ⟨kept, hkept, htext⟩ : ∃ kept ∈ segmentsOn scheme [] target.routeText,
      segmentText? (String.ofList kept) = some s := by
    have hmem : some s ∈ target.route.map some := List.mem_map_of_mem hs
    rw [← hroute, List.map_map] at hmem
    exact List.mem_map.1 hmem
  rcases mem_segmentsOn hfile target.routeText hkept with rfl | ⟨part, hpart, hdot, rfl⟩
  · exact absurd (Option.some.inj htext).symm (h.isCoordinate_of_mem_route s hs).ne_empty
  · have hcut := of_mem_splitOnP hpart
    have hpartSign : '%' ∉ part := fun hmem => hsign (hcut '%' hmem).1
    rw [segmentText?_percentEncode hpartSign] at htext
    obtain rfl := Option.some.inj htext
    rw [← String.toList_ofList (l := part)] at hdot hpartSign
    obtain ⟨hdot, hdots⟩ := (isDotSegment_toList_iff hpartSign).1 hdot
    refine ⟨hdot, hdots, fun hmem => ?_⟩
    rw [String.toList_ofList] at hmem
    exact ((Scheme.isSlash_eq_false_iff hspecial '\\').1 (hcut '\\' hmem).2).2 rfl

theorem Sound.segments_eq_of_isSegment (h : target.Sound) (hsegments : ∀ s ∈ target.route, IsSegment s) :
    ((segmentsOn scheme [] target.routeText).map String.ofList).map segmentText? = target.route.map some := by
  have hslash : ∀ part ∈ target.route.map String.toList, ∀ c ∈ part, scheme.isSlash c = false := by
    intro part hpart c hc
    obtain ⟨s, hs, rfl⟩ := List.mem_map.1 hpart
    rw [Scheme.isSlash_eq_false_iff hspecial]
    exact ⟨fun heq => (h.isCoordinate_of_mem_route s hs).not_mem (by decide) (heq ▸ hc),
      fun heq => (hsegments s hs).backslash_not_mem (heq ▸ hc)⟩
  have hdots : ∀ part ∈ target.route.map String.toList, isDotSegment part = false := by
    intro part hpart
    obtain ⟨s, hs, rfl⟩ := List.mem_map.1 hpart
    rw [isDotSegment_toList_iff ((h.isCoordinate_of_mem_route s hs).not_mem (by decide))]
    exact ⟨(hsegments s hs).ne_dot, (hsegments s hs).ne_dots⟩
  have htext : ∀ s ∈ target.route, segmentText? (String.ofList (percentEncode pathSet s.toList)) = some s := by
    intro s hs
    rw [segmentText?_percentEncode ((h.isCoordinate_of_mem_route s hs).not_mem (by decide)), String.ofList_toList]
  rw [routeText, segmentsOn_intercalate hfile (by simp [route]) hslash hdots]
  simp only [List.map_map, Function.comp_def]
  exact List.map_congr_left htext

end

end Target

/-! ### The scheme and the host that are read -/

namespace Endpoint

variable (endpoint : Endpoint)

def urlScheme : Scheme := if endpoint.secure then .wss else .ws

theorem urlScheme_mem_web : endpoint.urlScheme ∈ Scheme.web := by
  unfold urlScheme
  split <;> decide

theorem isSpecial_urlScheme : endpoint.urlScheme.isSpecial = true := Scheme.isSpecial_of_mem_web endpoint.urlScheme_mem_web

theorem urlScheme_ne_file : endpoint.urlScheme ≠ .file := Scheme.ne_file_of_mem_web endpoint.urlScheme_mem_web

theorem name_urlScheme : endpoint.urlScheme.name = endpoint.scheme := by
  unfold urlScheme scheme
  split <;> rfl

theorem cutScheme?_append (rest : List Char) :
    cutScheme? (endpoint.scheme.toList ++ ':' :: rest) = some (endpoint.urlScheme, rest) := by
  rw [← name_urlScheme]
  exact Scheme.cutScheme?_of_mem_web endpoint.urlScheme_mem_web rest

theorem ofScheme_urlScheme (cs : List Char) :
    ofScheme endpoint.urlScheme cs =
      onAuthority endpoint.urlScheme (cs.dropWhile endpoint.urlScheme.isSlash) :=
  Scheme.ofScheme_of_mem_web endpoint.urlScheme_mem_web cs

/-- The host as a URL reader finds it. -/
def hostChars : List Char :=
  (trim endpoint.host).toList.filter fun c => c != '\t' && c != '\n' && c != '\r'

end Endpoint

namespace AttachUrl

variable {endpoint : Endpoint} {target : Target} {url : AttachUrl}

/-! ### The text of the query -/

theorem isFormText_of_mem_optionPairs : ∀ pair ∈ optionPairs target, IsFormText pair.1 ∧ IsFormText pair.2 := by
  have hwords : ∀ word ∈ ["tail", "follow", "true", "false", "all"], IsName word := by decide
  simp only [List.forall_mem_cons, List.not_mem_nil, false_implies, implies_true, and_true] at hwords
  obtain ⟨htailKey, hfollowKey, htrue, hfalse, hall⟩ := hwords
  have htail : ∀ tail : Tail, IsFormText tail.render := by
    intro tail
    cases tail with
    | all => exact hall.isFormText
    | lines count =>
      intro c hc
      rw [Tail.toList_render_lines] at hc
      have hdigit := Nat.isDigit_of_mem_toDigits (b := 10) (by decide) (by decide) hc
      exact .inl (by simp [isNameChar, Char.isAlphanum, hdigit])
  intro pair hpair
  simp only [optionPairs, List.mem_append, Option.mem_toList, Option.map_eq_some_iff] at hpair
  rcases hpair with ⟨tail, -, rfl⟩ | ⟨follow, -, rfl⟩
  · exact ⟨htailKey.isFormText, htail tail⟩
  · cases follow
    · exact ⟨hfollowKey.isFormText, hfalse.isFormText⟩
    · exact ⟨hfollowKey.isFormText, htrue.isFormText⟩

theorem toList_query_cases (target : Target) :
    (query target).toList = [] ∨ ∃ form, (query target).toList = '?' :: form ∧ ∀ c ∈ form, IsPlain c := by
  unfold query
  split
  · exact .inl rfl
  · exact .inl rfl
  · refine .inr ⟨(formOf (optionPairs target)).toList, ?_, isPlain_of_mem_formOf isFormText_of_mem_optionPairs⟩
    rw [String.toList_append]
    rfl

theorem isVisible_of_mem_query : ∀ c ∈ (query target).toList, IsVisible c := by
  rcases toList_query_cases target with hquery | ⟨form, hquery, hform⟩
  · simp [hquery]
  · rw [hquery, List.forall_mem_cons]
    exact ⟨⟨by decide, by decide⟩, fun c hc => (hform c hc).toIsVisible⟩

/-! ### The text that is read -/

/-- The text that the URL of a target is built from. -/
def textOf (endpoint : Endpoint) (target : Target) : String :=
  endpoint.scheme ++ "://" ++ trim endpoint.host ++ path target ++ query target

theorem toList_textOf (endpoint : Endpoint) (target : Target) :
    (textOf endpoint target).toList = endpoint.scheme.toList ++ [':', '/', '/'] ++
      ((trim endpoint.host).toList ++ ('/' :: target.routeText ++ (query target).toList)) := by
  have hseparator : "://".toList = [':', '/', '/'] := by decide
  simp only [textOf, String.toList_append, Target.toList_path_eq_cons, hseparator, List.append_assoc]

theorem not_le_of_mem_head? (endpoint : Endpoint) (target : Target) :
    ∀ c ∈ (textOf endpoint target).toList.head?, ¬c ≤ ' ' := by
  rw [toList_textOf]
  unfold Endpoint.scheme
  split <;> simp

/-- A connection URL ends with the mode or with an option. -/
theorem not_le_of_mem_getLast? (endpoint : Endpoint) (target : Target) :
    ∀ c ∈ (textOf endpoint target).toList.getLast?, ¬c ≤ ' ' := by
  obtain ⟨front, hfront⟩ : ∃ front, target.routeText = front ++ target.mode.pathSegment.toList := by
    refine ⟨['/'].intercalate ["ws".toList, target.ns.toList, target.pod.toList, target.container.toList] ++ ['/'], ?_⟩
    simp [Target.routeText, Target.route, List.intercalate_cons_cons]
  have hback : target.mode.pathSegment.toList ++ (query target).toList ≠ [] := by
    cases target.mode <;> simp [Mode.pathSegment]
  have hvisible : ∀ c ∈ target.mode.pathSegment.toList ++ (query target).toList, IsVisible c := by
    have hmodes : ∀ word ∈ ["logs", "webshell"], IsName word := by decide
    have hmode : IsName target.mode.pathSegment := hmodes _ (by cases target.mode <;> simp [Mode.pathSegment])
    exact List.forall_mem_append.2 ⟨fun c hc => (hmode.isPlain_of_mem c hc).toIsVisible, isVisible_of_mem_query⟩
  have htext : (textOf endpoint target).toList = (endpoint.scheme.toList ++ [':', '/', '/'] ++
      (trim endpoint.host).toList ++ '/' :: front) ++ (target.mode.pathSegment.toList ++ (query target).toList) := by
    rw [toList_textOf, hfront]
    simp only [List.append_assoc, List.cons_append]
  intro c hc
  rw [htext, List.getLast?_append_of_ne_nil _ hback] at hc
  exact (hvisible c (List.mem_of_mem_getLast? hc)).not_le

/-- Of the text that a URL is built from, a URL reader drops the tabs and the line breaks. -/
theorem clean_textOf (endpoint : Endpoint) (target : Target) :
    clean (textOf endpoint target).toList = endpoint.scheme.toList ++ ':' :: '/' :: '/' :: (endpoint.hostChars ++
      ('/' :: target.routeText ++ (query target).toList).filter fun c => c != '\t' && c != '\n' && c != '\r') := by
  have hscheme : ∀ c ∈ endpoint.scheme.toList ++ [':', '/', '/'], isBlank c = false := by
    unfold Endpoint.scheme
    split <;> simp [isBlank]
  rw [clean_eq_filter (not_le_of_mem_head? endpoint target) (not_le_of_mem_getLast? endpoint target), toList_textOf,
    List.filter_append (endpoint.scheme.toList ++ _), List.filter_append (trim endpoint.host).toList,
    filter_eq_self_of_isBlank hscheme]
  simp [Endpoint.hostChars]

theorem clean_of_build (hsound : target.Sound) (h : build endpoint target = .ok url) :
    clean url.text.toList = endpoint.scheme.toList ++
      ':' :: '/' :: '/' :: (endpoint.hostChars ++ '/' :: (target.routeText ++ (query target).toList)) := by
  obtain ⟨-, -, htext, -⟩ := Pieces.text_of_build h
  have hresource : ∀ c ∈ '/' :: target.routeText ++ (query target).toList, isBlank c = false := by
    rw [List.cons_append, List.forall_mem_cons, List.forall_mem_append]
    refine ⟨by decide, hsound.forall_mem_routeText (by decide) fun c hc => ?_, fun c hc =>
      (isVisible_of_mem_query c hc).isBlank_eq⟩
    simp only [Target.isUnsafe, Bool.or_eq_false_iff] at hc
    exact hc.1.1.1.1
  rw [htext]
  have hclean := clean_textOf endpoint target
  rwa [filter_eq_self_of_isBlank hresource] at hclean

theorem hostChars_ne_nil (h : build endpoint target = .ok url) : endpoint.hostChars ≠ [] := by
  obtain ⟨hne, -⟩ := Pieces.text_of_build h
  obtain ⟨c, more, hcons⟩ := List.exists_cons_of_ne_nil (l := (trim endpoint.host).toList) (by simpa using hne)
  have hblank : isBlank c = false := by
    rw [trim, String.toList_ofList] at hcons
    exact eq_false_of_mem_head?_strip c (by rw [hcons]; rfl)
  have hkept : [c].filter (fun c => c != '\t' && c != '\n' && c != '\r') = [c] :=
    filter_eq_self_of_isBlank (by simpa using hblank)
  rw [Endpoint.hostChars, hcons, ← List.singleton_append, List.filter_append, hkept]
  simp

theorem endsAuthority_of_mem_hostChars (hhost : '\\' ∉ endpoint.host.toList) (h : build endpoint target = .ok url) :
    ∀ c ∈ endpoint.hostChars, endpoint.urlScheme.endsAuthority c = false := by
  obtain ⟨-, houtside, -⟩ := Pieces.text_of_build h
  intro c hc
  have hmem : c ∈ (trim endpoint.host).toList := List.mem_of_mem_filter hc
  have hne : ∀ d, isOutsideHost d = true → c ≠ d := by
    rintro d hd rfl
    exact absurd hd (by simp [houtside c hmem])
  have hbackslash : c ≠ '\\' := by
    rintro rfl
    rw [trim, String.toList_ofList] at hmem
    exact hhost (mem_of_mem_strip hmem)
  exact (endsAuthority_eq_false_iff endpoint.isSpecial_urlScheme c).2
    ⟨hne '/' (by decide), hbackslash, hne '?' (by decide), hne '#' (by decide)⟩

/-- A reader's path of a connection URL is the path that it was built with. -/
theorem pathText_resource (hsound : target.Sound) :
    pathText ('/' :: target.routeText ++ (query target).toList) = '/' :: target.routeText := by
  have hmarks : ∀ c ∈ '/' :: target.routeText, c ≠ '?' ∧ c ≠ '#' := by
    have hquestion := hsound.not_mem_routeText (c := '?') (by decide) (by decide)
    have hhash := hsound.not_mem_routeText (c := '#') (by decide) (by decide)
    exact List.forall_mem_cons.2 ⟨by decide, fun c hc => ⟨fun heq => hquestion (heq ▸ hc), fun heq => hhash (heq ▸ hc)⟩⟩
  rcases toList_query_cases target with hquery | ⟨form, hquery, -⟩
  · rw [hquery, List.append_nil, pathText, List.takeWhile_eq_self_iff]
    exact fun c hc => by simpa using hmarks c hc
  · rw [hquery, pathText_append hmarks]

/-- The segments that a URL reader finds in the path of a connection URL. -/
theorem pathSegments_of_build (hsound : target.Sound) (hhost : '\\' ∉ endpoint.host.toList)
    (h : build endpoint target = .ok url) :
    ∃ parsed, Url.read url.text = .ok parsed ∧
      parsed.pathSegments = (segmentsOn endpoint.urlScheme [] target.routeText).map String.ofList := by
  obtain ⟨-, -, -, parsed, hread⟩ := Pieces.text_of_build h
  have hends := endsAuthority_of_mem_hostChars hhost h
  refine ⟨parsed, hread, ?_⟩
  have hclean := clean_of_build hsound h
  rw [← Endpoint.name_urlScheme] at hclean
  rw [read_of_clean endpoint.urlScheme_mem_web (hostChars_ne_nil h) hends hclean, ← onAuthority_eq_map] at hread
  obtain ⟨-, hparsed⟩ := path_of_onAuthority endpoint.isSpecial_urlScheme _ parsed hread
  rw [(cut_authority hends _).2, ← List.cons_append, pathText_resource hsound, rootedPath_cons rfl] at hparsed
  rw [Url.pathSegments, hparsed]

/-- A URL reader finds the route of a target in its connection URL if every coordinate stands there as one segment, and
only then. -/
theorem route_iff {fields : Fields} {mode : Mode} (hresolve : Target.resolve fields mode = .ok target)
    (hhost : '\\' ∉ endpoint.host.toList) (hbuild : build endpoint target = .ok url) :
    ∃ parsed, Url.read url.text = .ok parsed ∧
      (parsed.pathSegments.map segmentText? = target.route.map some ↔
        IsSegment target.ns ∧ IsSegment target.pod ∧ IsSegment target.container) := by
  have hsound := Target.sound_of_resolve hresolve
  obtain ⟨parsed, hread, hsegments⟩ := pathSegments_of_build hsound hhost hbuild
  have hspecial := endpoint.isSpecial_urlScheme
  have hfile := endpoint.urlScheme_ne_file
  have hmode : IsSegment target.mode.pathSegment := by cases target.mode <;> decide
  refine ⟨parsed, hread, ?_⟩
  rw [hsegments]
  constructor
  · intro hroute
    have hall := hsound.isSegment_of_segments_eq hspecial hfile hroute
    exact ⟨hall _ (by simp [Target.route]), hall _ (by simp [Target.route]), hall _ (by simp [Target.route])⟩
  · rintro ⟨hns, hpod, hcontainer⟩
    refine hsound.segments_eq_of_isSegment hspecial hfile ?_
    simp only [Target.route, List.forall_mem_cons, List.not_mem_nil, false_implies, implies_true, and_true]
    exact ⟨by decide, hns, hpod, hcontainer, hmode⟩

def bracedTarget : Target := ⟨"default", "\x7bweb\x7d", "größe", .shell, none, none⟩

def bracedFields : Fields := ⟨[("namespace", "default"), ("pod", "\x7bweb\x7d"), ("container", "größe ")]⟩

theorem route_iff_braced :
    Target.resolve bracedFields .shell = .ok bracedTarget ∧ '\\' ∉ "pods.example:8080".toList ∧
      build ⟨"pods.example:8080", true⟩ bracedTarget =
        .ok ⟨"wss://pods.example:8080/ws/default/\x7bweb\x7d/größe/webshell"⟩ ∧
      ∃ parsed, Url.read "wss://pods.example:8080/ws/default/\x7bweb\x7d/größe/webshell" = .ok parsed ∧
        parsed.pathSegments.map segmentText? = bracedTarget.route.map some := by
  have hresolve : Target.resolve bracedFields .shell = .ok bracedTarget := by rfl
  have hhost : '\\' ∉ "pods.example:8080".toList := by decide
  have hbuild : build ⟨"pods.example:8080", true⟩ bracedTarget =
      .ok ⟨"wss://pods.example:8080/ws/default/\x7bweb\x7d/größe/webshell"⟩ := by rfl
  obtain ⟨parsed, hread, hroute⟩ := route_iff hresolve hhost hbuild
  exact ⟨hresolve, hhost, hbuild, parsed, hread, hroute.2 ⟨by decide, by decide, by decide⟩⟩

/-- Two dots are a coordinate; but they take the pod out of the path. -/
theorem route_of_dots :
    Target.resolve ⟨[("namespace", "pods"), ("pod", "web"), ("container", "..")]⟩ .logs =
        .ok ⟨"pods", "web", "..", .logs, none, none⟩ ∧
      build ⟨"pods.example", false⟩ ⟨"pods", "web", "..", .logs, none, none⟩ =
        .ok ⟨"ws://pods.example/ws/pods/web/../logs"⟩ ∧
      (Url.read "ws://pods.example/ws/pods/web/../logs").map pathSegments = .ok ["ws", "pods", "logs"] :=
  ⟨by rfl, by rfl, by rfl⟩

end AttachUrl

end PodAttach

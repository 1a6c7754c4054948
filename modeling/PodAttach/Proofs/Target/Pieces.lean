import PodAttach.Endpoint
import PodAttach.Proofs.Target.Resolution
import PodAttach.Proofs.Text.Cutting

/-!
# Connection URLs that are taken apart

The text of a connection URL is cut behind its host, its path at the slashes, its query at the ampersands and at the
equals signs. What comes out are the coordinates and the options of the target that it was built for: no coordinate can
hold what separates them, and no option is written in two ways.
-/

namespace PodAttach

open Text

/-- The parts of a connection URL that tell its target. -/
structure Pieces where
  ns : String
  pod : String
  container : String
  mode : Mode
  options : List (String × String)
deriving DecidableEq, Repr

namespace Pieces

def modeOf? (segment : String) : Option Mode := [Mode.logs, Mode.shell].find? fun mode => mode.pathSegment = segment

def option? (text : List Char) : Option (String × String) :=
  match text.splitOn '=' with
  | [key, value] => some (String.ofList key, String.ofList value)
  | _ => none

/-- The options in the query of a resource, if it has one. -/
def options? (resource : List Char) : Option (List (String × String)) :=
  match resource.dropWhile (· != '?') with
  | [] => some []
  | _ :: query => (query.splitOn '&').mapM option?

/-- The parts of a resource: the segments of its path, and the options. -/
def ofResource? (resource : List Char) : Option Pieces := do
  let options ← options? resource
  match ((resource.takeWhile (· != '?')).splitOn '/').map String.ofList with
  | ["", "ws", ns, pod, container, last] => (modeOf? last).map fun mode => { ns, pod, container, mode, options }
  | _ => none

/-- Cuts a URL behind its scheme and its host, and takes apart what is left. -/
def cut? (url : AttachUrl) : Option Pieces :=
  ofResource? (((url.text.toList.dropWhile (· != ':')).drop 3).dropWhile (· != '/'))

/-- The fields that the parts hold. -/
def fields (pieces : Pieces) : Fields :=
  pieces.options.foldl (fun fields (key, value) => fields.insert key value)
    (((Fields.empty.insert "namespace" pieces.ns).insert "pod" pieces.pod).insert "container" pieces.container)

def ofTarget (target : Target) : Pieces :=
  ⟨target.ns, target.pod, target.container, target.mode, AttachUrl.optionPairs target⟩

theorem modeOf?_pathSegment (mode : Mode) : modeOf? mode.pathSegment = some mode := by
  cases mode <;> decide

/-! ### Options -/

/-- Holds nothing that separates options. -/
def IsPlain (s : String) : Prop := ∀ c ∈ s.toList, c ≠ '&' ∧ c ≠ '='

theorem isPlain_render (tail : Tail) : IsPlain tail.render := by
  cases tail with
  | all => simp [IsPlain, Tail.render]
  | lines count =>
    intro c hc
    rw [Tail.toList_render_lines] at hc
    have hdigit := Nat.isDigit_of_mem_toDigits (b := 10) (by decide) (by decide) hc
    exact ⟨Json.ne_of_isDigit hdigit (by decide), Json.ne_of_isDigit hdigit (by decide)⟩

theorem isPlain_of_mem_optionPairs {target : Target} {key value : String}
    (h : (key, value) ∈ AttachUrl.optionPairs target) : IsPlain key ∧ IsPlain value := by
  have hkeys : IsPlain "tail" ∧ IsPlain "follow" ∧ IsPlain "true" ∧ IsPlain "false" := by simp [IsPlain]
  obtain ⟨htail, hfollow, htrue, hfalse⟩ := hkeys
  simp only [AttachUrl.optionPairs, List.mem_append, Option.mem_toList, Option.map_eq_some_iff, Prod.mk.injEq] at h
  rcases h with ⟨tail, -, rfl, rfl⟩ | ⟨follow, -, rfl, rfl⟩
  · exact ⟨htail, isPlain_render tail⟩
  · cases follow
    · exact ⟨hfollow, hfalse⟩
    · exact ⟨hfollow, htrue⟩

def optionText (option : String × String) : List Char := option.1.toList ++ '=' :: option.2.toList

theorem option?_optionText {key value : String} (hkey : IsPlain key) (hvalue : IsPlain value) :
    option? (optionText (key, value)) = some (key, value) := by
  have hkey : '=' ∉ key.toList := fun h => (hkey _ h).2 rfl
  have hvalue : '=' ∉ value.toList := fun h => (hvalue _ h).2 rfl
  have hsplit : (['='].intercalate [key.toList, value.toList]).splitOn '=' = [key.toList, value.toList] :=
    List.splitOn_intercalate '=' (by simp [hkey, hvalue]) (by simp)
  have htext : optionText (key, value) = ['='].intercalate [key.toList, value.toList] := by
    simp [optionText, List.intercalate_cons_cons]
  rw [option?, htext, hsplit]
  simp

theorem mapM_eq_some {α β : Type} {f : β → Option α} {g : α → β} {xs : List α} (h : ∀ x ∈ xs, f (g x) = some x) :
    (xs.map g).mapM f = some xs := by
  induction xs with
  | nil => rfl
  | cons x xs ih =>
    rw [List.map_cons, List.mapM_cons, h x List.mem_cons_self, ih fun y hy => h y (List.mem_cons_of_mem x hy)]
    rfl

theorem mapM_option? {target : Target} (hne : AttachUrl.optionPairs target ≠ []) :
    ((['&'].intercalate ((AttachUrl.optionPairs target).map optionText)).splitOn '&').mapM option? =
      some (AttachUrl.optionPairs target) := by
  have hplain : ∀ text ∈ (AttachUrl.optionPairs target).map optionText, '&' ∉ text := by
    intro text htext
    obtain ⟨⟨key, value⟩, hmem, rfl⟩ := List.mem_map.1 htext
    obtain ⟨hkey, hvalue⟩ := isPlain_of_mem_optionPairs hmem
    simp only [optionText, List.mem_append, List.mem_cons, not_or]
    exact ⟨fun h => (hkey _ h).1 rfl, by decide, fun h => (hvalue _ h).1 rfl⟩
  rw [List.splitOn_intercalate '&' hplain (by simpa using hne)]
  exact mapM_eq_some fun option hoption =>
    option?_optionText (isPlain_of_mem_optionPairs hoption).1 (isPlain_of_mem_optionPairs hoption).2

/-! ### The path and the query of a target -/

variable {target : Target}

theorem toList_path (target : Target) :
    (AttachUrl.path target).toList = ['/'].intercalate [[], "ws".toList, target.ns.toList, target.pod.toList,
      target.container.toList, target.mode.pathSegment.toList] := by
  have hws : "/ws/".toList = '/' :: ("ws".toList ++ ['/']) := by decide
  have hslash : "/".toList = ['/'] := by decide
  simp only [AttachUrl.path, String.toList_append, hws, hslash, List.intercalate_cons_cons, List.intercalate_singleton,
    List.append_assoc, List.cons_append, List.nil_append]

theorem toList_query (h : target.Sound) :
    (AttachUrl.query target).toList =
      if AttachUrl.optionPairs target = [] then []
      else '?' :: ['&'].intercalate ((AttachUrl.optionPairs target).map optionText) := by
  have hmark : "?".toList = ['?'] := by decide
  have hand : "&".toList = ['&'] := by decide
  have hequals : "=".toList = ['='] := by decide
  have htext : String.toList ∘ (fun option : String × String => option.1 ++ "=" ++ option.2) = optionText := by
    funext option
    simp [optionText, hequals]
  have hshell : target.mode = .shell → AttachUrl.optionPairs target = [] := by
    intro hshell
    obtain ⟨htail, hfollow⟩ := h.shell hshell
    simp [AttachUrl.optionPairs, htail, hfollow]
  unfold AttachUrl.query
  split
  · next hmode => rw [if_pos (hshell hmode)]; rfl
  · next hnil => rw [if_pos hnil]; rfl
  · next hne =>
    rw [if_neg hne, String.toList_append, String.toList_intercalate, hmark, hand, List.map_map]
    change '?' :: ['&'].intercalate (List.map (String.toList ∘ _) _) = _
    rw [htext]

theorem ne_of_isSafe {s : String} (h : Target.IsSafe s) {c : Char} (hc : Target.isUnsafe c = true) : c ∉ s.toList := by
  intro hmem
  rw [h c hmem] at hc
  simp at hc

theorem not_mem_segments (h : target.Sound) {c : Char} (hc : Target.isUnsafe c = true) (hws : c ∉ "ws".toList)
    (hmode : ∀ mode : Mode, c ∉ mode.pathSegment.toList) :
    ∀ segment ∈ [[], "ws".toList, target.ns.toList, target.pod.toList, target.container.toList,
      target.mode.pathSegment.toList], c ∉ segment := by
  simp only [List.forall_mem_cons]
  exact ⟨by simp, hws, ne_of_isSafe h.ns.isSafe hc, ne_of_isSafe h.pod.isSafe hc, ne_of_isSafe h.container.isSafe hc,
    hmode target.mode, by simp⟩

theorem splitOn_path (h : target.Sound) :
    ((AttachUrl.path target).toList.splitOn '/').map String.ofList =
      ["", "ws", target.ns, target.pod, target.container, target.mode.pathSegment] := by
  have hsegments := not_mem_segments h (c := '/') (by decide) (by decide) (by intro mode; cases mode <;> decide)
  rw [toList_path, List.splitOn_intercalate '/' hsegments (by simp)]
  simp

theorem question_not_mem_path (h : target.Sound) : '?' ∉ (AttachUrl.path target).toList := by
  have hsafe : ∀ {s : String}, Target.IsSafe s → '?' ∉ s.toList := fun hs => ne_of_isSafe hs (by decide)
  have hmode : '?' ∉ target.mode.pathSegment.toList := by cases target.mode <;> decide
  have hws : '?' ∉ "/ws/".toList := by decide
  have hslash : '?' ∉ "/".toList := by decide
  simp only [AttachUrl.path, String.toList_append, List.mem_append, hsafe h.ns.isSafe, hsafe h.pod.isSafe,
    hsafe h.container.isSafe, hmode, hws, hslash, or_self, not_false_eq_true]

/-- A path and a query are taken apart into what they were made of. -/
theorem ofResource?_eq (h : target.Sound) :
    ofResource? ((AttachUrl.path target).toList ++ (AttachUrl.query target).toList) = some (ofTarget target) := by
  have hquestion := question_not_mem_path h
  have hparts : ((AttachUrl.path target).toList ++ (AttachUrl.query target).toList).takeWhile (· != '?') =
        (AttachUrl.path target).toList ∧
      options? ((AttachUrl.path target).toList ++ (AttachUrl.query target).toList) =
        some (AttachUrl.optionPairs target) := by
    rw [toList_query h, options?]
    by_cases hnil : AttachUrl.optionPairs target = []
    · rw [if_pos hnil, List.append_nil, dropWhile_ne_eq_nil hquestion, hnil]
      exact ⟨takeWhile_ne_eq_self hquestion, rfl⟩
    · rw [if_neg hnil, dropWhile_ne_append hquestion]
      exact ⟨takeWhile_ne_append hquestion _, mapM_option? hnil⟩
  rw [ofResource?, hparts.1, hparts.2, splitOn_path h]
  simp [modeOf?_pathSegment, ofTarget]

/-! ### The text of a connection URL -/

theorem text_of_build {endpoint : Endpoint} {url : AttachUrl} (h : AttachUrl.build endpoint target = .ok url) :
    trim endpoint.host ≠ "" ∧ (∀ c ∈ (trim endpoint.host).toList, AttachUrl.isOutsideHost c = false) ∧
      url.text = endpoint.scheme ++ "://" ++ trim endpoint.host ++ AttachUrl.path target ++ AttachUrl.query target ∧
      ∃ parsed, Url.read url.text = .ok parsed := by
  unfold AttachUrl.build at h
  dsimp only at h
  split at h
  · simp at h
  next hhost =>
  rw [not_or, Bool.not_eq_true, List.any_eq_false] at hhost
  split at h
  · next parsed hread =>
    obtain rfl := Except.ok.inj h
    exact ⟨hhost.1, fun c hc => by simpa using hhost.2 c hc, rfl, parsed, hread⟩
  · simp at h

theorem cut?_of_build (hsound : target.Sound) {endpoint : Endpoint} {url : AttachUrl}
    (h : AttachUrl.build endpoint target = .ok url) : cut? url = some (ofTarget target) := by
  obtain ⟨-, houtside, htext, -⟩ := text_of_build h
  have hslash : '/' ∉ (trim endpoint.host).toList := fun hmem => absurd (houtside '/' hmem) (by decide)
  have hscheme : ':' ∉ endpoint.scheme.toList := by
    unfold Endpoint.scheme
    split <;> decide
  obtain ⟨rest, hpath⟩ : ∃ rest, (AttachUrl.path target).toList = '/' :: rest := by
    rw [toList_path]
    exact ⟨_, rfl⟩
  have hlist : url.text.toList = endpoint.scheme.toList ++
      ':' :: '/' :: '/' :: ((trim endpoint.host).toList ++ '/' :: (rest ++ (AttachUrl.query target).toList)) := by
    have hseparator : "://".toList = [':', '/', '/'] := by decide
    rw [htext]
    simp only [String.toList_append, hseparator, hpath, List.append_assoc, List.cons_append, List.nil_append]
  rw [cut?, hlist, dropWhile_ne_append hscheme]
  change ofResource? (List.dropWhile (· != '/') ((trim endpoint.host).toList ++ '/' :: (rest ++ _))) = _
  rw [dropWhile_ne_append hslash, ← List.cons_append, ← hpath, ofResource?_eq hsound]

/-! ### The fields that the parts hold -/

theorem get?_fields_ofTarget (target : Target) :
    (ofTarget target).fields.get? "namespace" = some target.ns ∧ (ofTarget target).fields.get? "pod" = some target.pod ∧
      (ofTarget target).fields.get? "container" = some target.container ∧
      (ofTarget target).fields.get? "tail" = target.tail.map Tail.render ∧
      (ofTarget target).fields.get? "follow" = target.follow.map Target.followText := by
  obtain ⟨ns, pod, container, mode, tail, follow⟩ := target
  cases tail <;> cases follow <;>
    simp [ofTarget, fields, AttachUrl.optionPairs, Fields.get?_insert, Target.followText]

theorem find?_option {fields : Fields} {key : String} {α : Type} {write : α → String} (hword : ∀ a, IsWord (write a))
    {option? : Option α} (h : fields.get? key = option?.map write) : fields.find? [key] = option?.map write := by
  cases option? with
  | none => exact Fields.find?_of_get?_eq_none h
  | some a => exact Fields.find?_of_get? h (hword a)

theorem resolve_ofTarget (h : target.Sound) : Target.resolve (ofTarget target).fields target.mode = .ok target := by
  obtain ⟨hns, hpod, hcontainer, htail, hfollow⟩ := get?_fields_ofTarget target
  exact h.resolve_eq (Fields.find?_of_get? hns h.ns.isWord) (Fields.find?_of_get? hpod h.pod.isWord)
    (Fields.find?_of_get? hcontainer h.container.isWord) (find?_option Tail.isWord_render htail)
    (find?_option Target.isWord_followText hfollow)

theorem mem_optionPairs_tail (target : Target) :
    (∃ value, ("tail", value) ∈ AttachUrl.optionPairs target) ↔ target.tail.isSome := by
  cases htail : target.tail <;> cases hfollow : target.follow <;> simp [AttachUrl.optionPairs, htail, hfollow]

theorem mem_optionPairs_follow (target : Target) :
    (∃ value, ("follow", value) ∈ AttachUrl.optionPairs target) ↔ target.follow.isSome := by
  cases htail : target.tail <;> cases hfollow : target.follow <;> simp [AttachUrl.optionPairs, htail, hfollow]

/-- A connection URL is read back as the target that it was built for: its parts, given as fields again, resolve to that
target, and an option stands in the query if the target has it. So no other target has the URL. -/
theorem resolve_cut {fields : Fields} {mode : Mode} {endpoint : Endpoint} {url : AttachUrl}
    (hresolve : Target.resolve fields mode = .ok target) (hbuild : AttachUrl.build endpoint target = .ok url) :
    (∃ pieces, cut? url = some pieces ∧ Target.resolve pieces.fields pieces.mode = .ok target ∧
      ((∃ value, ("tail", value) ∈ pieces.options) ↔ target.tail.isSome) ∧
      ((∃ value, ("follow", value) ∈ pieces.options) ↔ target.follow.isSome)) ∧
    ∀ otherFields otherMode other, Target.resolve otherFields otherMode = .ok other →
      AttachUrl.build endpoint other = .ok url → other = target := by
  have hsound := Target.sound_of_resolve hresolve
  have hcut := cut?_of_build hsound hbuild
  constructor
  · exact ⟨ofTarget target, hcut, resolve_ofTarget hsound, mem_optionPairs_tail target, mem_optionPairs_follow target⟩
  · intro otherFields otherMode other hother hotherBuild
    have hotherSound := Target.sound_of_resolve hother
    have hsame : ofTarget other = ofTarget target :=
      Option.some.inj ((cut?_of_build hotherSound hotherBuild).symm.trans hcut)
    have hmode : other.mode = target.mode := congrArg Pieces.mode hsame
    -- the parts and the mode are the same, so the same target is read back
    have hresolved := resolve_ofTarget hotherSound
    rw [hsame, hmode, resolve_ofTarget hsound] at hresolved
    exact (Except.ok.inj hresolved).symm

/-- Fields with blanks, an alias and a number that is not written as it is rendered. -/
def untidyFields : Fields :=
  ⟨[("namespace", " kube-system"), ("pod", "web-0"), ("container", " "), ("container_name", "app\n"), ("tail", "+007"),
    ("follow", "true")]⟩

def tidyTarget : Target := ⟨"kube-system", "web-0", "app", .logs, some (.lines 7), some true⟩

def tidyUrl : AttachUrl := ⟨"ws://127.0.0.1:8090/ws/kube-system/web-0/app/logs?tail=7&follow=true"⟩

theorem resolve_cut_untidy :
    Target.resolve untidyFields .logs = .ok tidyTarget ∧
      AttachUrl.build ⟨" 127.0.0.1:8090 ", false⟩ tidyTarget = .ok tidyUrl ∧
      ∃ pieces, cut? tidyUrl = some pieces ∧ Target.resolve pieces.fields pieces.mode = .ok tidyTarget := by
  have hresolve : Target.resolve untidyFields .logs = .ok tidyTarget := by rfl
  have hbuild : AttachUrl.build ⟨" 127.0.0.1:8090 ", false⟩ tidyTarget = .ok tidyUrl := by rfl
  obtain ⟨pieces, hcut, hpieces, -, -⟩ := (resolve_cut hresolve hbuild).1
  exact ⟨hresolve, hbuild, pieces, hcut, hpieces⟩

end Pieces

end PodAttach

import PodAttach.Proofs.Target.Routes
import PodAttach.Proofs.Url.Authorities

/-!
# Which endpoints are accepted

A connection URL goes on behind its host with a slash, whatever its target is, so a URL reader finds the same authority
in the URLs of all targets. Whether an endpoint is accepted is a matter of that authority alone; and what is built for it
has the scheme that it asks for, which is one that can be connected to.
-/

namespace PodAttach

open Text Url

namespace Target

/-- What stands in a connection URL behind the fixed start of its path, as a URL reader finds it. -/
def detail (target : Target) : List Char :=
  (['/'].intercalate [target.ns.toList, target.pod.toList, target.container.toList,
    target.mode.pathSegment.toList] ++ (AttachUrl.query target).toList).filter
      fun c => c != '\t' && c != '\n' && c != '\r'

theorem filter_resource (target : Target) :
    ('/' :: target.routeText ++ (AttachUrl.query target).toList).filter
        (fun c => c != '\t' && c != '\n' && c != '\r') = "/ws/".toList ++ target.detail := by
  have hstart : '/' :: target.routeText = "/ws/".toList ++ ['/'].intercalate [target.ns.toList, target.pod.toList,
      target.container.toList, target.mode.pathSegment.toList] := by
    simp [routeText, route, List.intercalate_cons_cons]
  have hkept : "/ws/".toList.filter (fun c => c != '\t' && c != '\n' && c != '\r') = "/ws/".toList := by decide
  rw [hstart, List.append_assoc, List.filter_append, hkept]
  rfl

end Target

namespace Endpoint

variable (endpoint : Endpoint)

/-- The start of a connection URL behind its scheme, up to where the target begins. A reader takes any number of slashes
before the host, and backslashes count as slashes. -/
def front : List Char := (endpoint.hostChars ++ "/ws/".toList).dropWhile endpoint.urlScheme.isSlash

/-- The authority of the endpoint's connection URLs. -/
def authority : Except Url.Fault Authority := Authority.read endpoint.urlScheme endpoint.front

theorem dropWhile_isSlash_front (more : List Char) :
    (endpoint.hostChars ++ ("/ws/".toList ++ more)).dropWhile endpoint.urlScheme.isSlash = endpoint.front ++ more := by
  have hw : endpoint.urlScheme.isSlash 'w' = false :=
    (Scheme.isSlash_eq_false_iff endpoint.isSpecial_urlScheme 'w').2 (by decide)
  rw [← List.append_assoc, dropWhile_append_of_exists ⟨'w', by simp, hw⟩]
  rfl

theorem exists_endsAuthority_of_mem_front : ∃ c ∈ endpoint.front, endpoint.urlScheme.endsAuthority c = true := by
  have hs : endpoint.urlScheme.isSlash 's' = false :=
    (Scheme.isSlash_eq_false_iff endpoint.isSpecial_urlScheme 's').2 (by decide)
  have hfront : endpoint.front = (endpoint.hostChars ++ "/ws".toList).dropWhile endpoint.urlScheme.isSlash ++ ['/'] := by
    rw [← dropWhile_append_of_exists ⟨'s', by simp, hs⟩, List.append_assoc]
    rfl
  refine ⟨'/', ?_, rfl⟩
  rw [hfront]
  exact List.mem_append_right _ List.mem_cons_self

/-- What the endpoint has to be for its connection URLs to be URLs. -/
structure IsAccepted : Prop where
  host_ne : trim endpoint.host ≠ ""
  isOutsideHost_eq : ∀ c ∈ (trim endpoint.host).toList, AttachUrl.isOutsideHost c = false
  exists_authority : ∃ authority, endpoint.authority = .ok authority

end Endpoint

namespace AttachUrl

variable {endpoint : Endpoint} {target : Target} {url : AttachUrl}

/-- What a URL reader finds in a connection URL is read from the endpoint alone, up to the path. -/
structure IsFrom (endpoint : Endpoint) (authority : Authority) (parsed : Url) : Prop where
  scheme_eq : parsed.scheme = endpoint.urlScheme
  authority_eq : parsed.authority = some authority.host
  port_eq : parsed.port = authority.port

theorem agree_read_textOf (endpoint : Endpoint) (target : Target) :
    Agree (IsFrom endpoint) endpoint.authority (Url.read (textOf endpoint target)) := by
  have hspecial := endpoint.isSpecial_urlScheme
  have hread : Url.read (textOf endpoint target) =
      onAuthority endpoint.urlScheme (endpoint.front ++ target.detail) := by
    have hslash : endpoint.urlScheme.isSlash '/' = true := rfl
    rw [Url.read, clean_textOf, Endpoint.cutScheme?_append, Target.filter_resource]
    show ofScheme _ ('/' :: '/' :: (endpoint.hostChars ++ ("/ws/".toList ++ target.detail))) = _
    rw [Endpoint.ofScheme_urlScheme, List.dropWhile_cons_of_pos hslash, List.dropWhile_cons_of_pos hslash,
      Endpoint.dropWhile_isSlash_front]
  rw [hread, onAuthority_eq_map]
  apply (Authority.read_agree hspecial hspecial endpoint.exists_endsAuthority_of_mem_front target.detail).map
  intro authority other hextends
  exact ⟨rfl, congrArg some hextends.host_eq, hextends.port_eq rfl⟩

theorem build_eq_ok_iff : build endpoint target = .ok url ↔ endpoint.IsAccepted ∧ url = ⟨textOf endpoint target⟩ := by
  have hagree := (agree_read_textOf endpoint target).isOk_iff
  constructor
  · intro h
    obtain ⟨hne, houtside, htext, hparsed⟩ := Pieces.text_of_build h
    have htext : url.text = textOf endpoint target := htext
    rw [htext] at hparsed
    exact ⟨⟨hne, houtside, hagree.2 hparsed⟩, congrArg AttachUrl.mk htext⟩
  · rintro ⟨⟨hne, houtside, hauthority⟩, rfl⟩
    obtain ⟨parsed, hread⟩ := hagree.1 hauthority
    have hinside : ¬(trim endpoint.host = "" ∨ (trim endpoint.host).toList.any isOutsideHost = true) := by
      rw [not_or, Bool.not_eq_true, List.any_eq_false]
      exact ⟨hne, fun c hc => by simp [houtside c hc]⟩
    unfold textOf at hread
    simp only [build, if_neg hinside, hread]
    rfl

theorem exists_build_iff (endpoint : Endpoint) (target : Target) :
    (∃ url, build endpoint target = .ok url) ↔ endpoint.IsAccepted := by
  constructor
  · rintro ⟨url, h⟩
    exact (build_eq_ok_iff.1 h).1
  · intro h
    exact ⟨_, build_eq_ok_iff.2 ⟨h, rfl⟩⟩

/-- What was built is read as a URL of the endpoint's own scheme, so the check behind the building passes it. -/
theorem checkScheme_of_build (h : build endpoint target = .ok url) : url.checkScheme = .ok () := by
  obtain ⟨⟨-, -, authority, hauthority⟩, rfl⟩ := build_eq_ok_iff.1 h
  obtain ⟨parsed, hread, hfrom⟩ := (agree_read_textOf endpoint target).exists_ok hauthority
  have hscheme := hfrom.scheme_eq
  rw [Endpoint.urlScheme] at hscheme
  rw [checkScheme, hread]
  dsimp only
  split at hscheme <;> rw [hscheme]

theorem isSecure_of_build (h : build endpoint target = .ok url) : url.isSecure = endpoint.secure := by
  obtain ⟨-, rfl⟩ := build_eq_ok_iff.1 h
  rw [isSecure, toList_textOf, Endpoint.scheme]
  cases endpoint.secure <;> rfl

theorem preflight_eq_build (endpoint : Endpoint) (target : Target) :
    endpoint.preflight target = build endpoint target := by
  rw [Endpoint.preflight]
  cases h : build endpoint target with
  | error fault => rfl
  | ok url =>
    show (do url.checkScheme; return url) = _
    rw [checkScheme_of_build h]
    rfl

/-- Whether an endpoint is accepted depends on the endpoint alone, and all of that is settled when its URL is built: the
check that follows refuses nothing. -/
theorem accepted_whatever_target (endpoint : Endpoint) (target other : Target) :
    ((∃ url, build endpoint target = .ok url) ↔ ∃ url, build endpoint other = .ok url) ∧
      endpoint.preflight target = build endpoint target ∧
      ∀ url, build endpoint target = .ok url → url.checkScheme = .ok () ∧ url.isSecure = endpoint.secure := by
  refine ⟨?_, preflight_eq_build endpoint target, ?_⟩
  · rw [exists_build_iff, exists_build_iff]
  · intro url h
    exact ⟨checkScheme_of_build h, isSecure_of_build h⟩

end AttachUrl

end PodAttach

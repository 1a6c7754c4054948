import PodAttach.Proofs.CommandLine.Blanks
import PodAttach.Proofs.Target.Endpoints
import PodAttach.Proofs.Url.Hosts

/-!
# The server that a page comes from

An order that names no server of its own is for the server of its page address. That server is written into the endpoint
as a host and a port, and from there into the connection URL, under another scheme. A URL reader finds the same host there
and the same port to dial: a port that goes without saying under the scheme of the page does so under that of the
connection.
-/

namespace PodAttach

open Text Url

namespace Url

theorem toList_of_hostPort? {url : Url} {host : Host} {text : String} (hhost : url.host? = some host)
    (htext : url.hostPort? = some text) : text.toList = host.render.toList ++ portText url.port := by
  have hcolon : ":".toList = [':'] := by decide
  rw [hostPort?, hhost, Option.map_some, Option.some.injEq] at htext
  subst htext
  cases url.port with
  | none => simp [portText]
  | some port => simp [portText, Nat.repr, hcolon]

/-- A scheme and the one that connections are made under for it have the same port of their own. -/
theorem defaultPort?_eq {scheme : Scheme} (hscheme : scheme ∈ Scheme.web) (host : String) :
    (Endpoint.urlScheme ⟨host, scheme.isSecure⟩).defaultPort? = scheme.defaultPort? := by
  simp only [Scheme.web, List.mem_cons, List.not_mem_nil, or_false] at hscheme
  rcases hscheme with rfl | rfl | rfl | rfl <;> rfl

theorem urlScheme_eq_wss_iff {scheme : Scheme} (hscheme : scheme ∈ Scheme.web) (host : String) :
    Endpoint.urlScheme ⟨host, scheme.isSecure⟩ = .wss ↔ scheme = .https ∨ scheme = .wss := by
  simp only [Scheme.web, List.mem_cons, List.not_mem_nil, or_false] at hscheme
  rcases hscheme with rfl | rfl | rfl | rfl <;> simp [Endpoint.urlScheme, Scheme.isSecure]

/-- A port that is left out where it goes without saying is dialled all the same. -/
theorem filter_orElse (port default? : Option UInt16) :
    ((port.filter fun port => some port ≠ default?) <|> default?) = (port <|> default?) := by
  cases port with
  | none => rfl
  | some port => by_cases hdefault : some port = default? <;> simp [Option.filter, hdefault]

theorem host?_of_mem_web {s : String} {url : Url} (hread : Url.read s = .ok url) (hscheme : url.scheme ∈ Scheme.web) :
    ∃ host, url.host? = some host ∧ host.IsReadable := by
  obtain ⟨host, text, hauthority, hhost⟩ := host_of_mem_web hread hscheme
  refine ⟨host, ?_, isReadable_ofDomain text host hhost⟩
  rw [host?, hauthority]
  simp [isEmpty_ofDomain text host hhost]

end Url

namespace Endpoint

variable {endpoint : Endpoint} {host : Host} {port : Option UInt16}

/-- An endpoint that is written as a host and a port is accepted, and read as these. -/
theorem authority_of_text (htext : endpoint.host.toList = host.render.toList ++ portText port) (h : host.IsReadable)
    (hback : Host.ofDomain host.render.toList = .ok host) :
    endpoint.IsAccepted ∧ endpoint.authority =
      .ok ⟨host, port.filter fun port => some port ≠ endpoint.urlScheme.defaultPort?, "/ws/".toList⟩ := by
  have hchars : ∀ c ∈ endpoint.host.toList, IsHostChar c := by
    rw [htext]
    exact isHostChar_of_mem_text h port
  have hne : endpoint.host.toList ≠ [] := by
    rw [htext]
    exact List.append_ne_nil_of_left_ne_nil (render_ne_nil hback) _
  have hword : IsWord endpoint.host := ⟨fun hempty => hne (by rw [hempty]; rfl), fun c hc => (hchars c hc).isBlank_eq⟩
  have hhostChars : endpoint.hostChars = endpoint.host.toList := by
    rw [hostChars, hword.trim_eq]
    exact filter_eq_self_of_isBlank hword.isBlank_of_mem
  have hfront : endpoint.front = endpoint.host.toList ++ "/ws/".toList := by
    obtain ⟨first, more, hcons⟩ := List.exists_cons_of_ne_nil hne
    obtain ⟨hslash, hbackslash, -⟩ := (hchars first (hcons ▸ List.mem_cons_self)).ne_mark
    have hfirst := (Scheme.isSlash_eq_false_iff endpoint.isSpecial_urlScheme first).2 ⟨hslash, hbackslash⟩
    rw [front, hhostChars, hcons, List.cons_append, List.dropWhile_cons_of_neg (by simp [hfirst])]
  have hauthority : endpoint.authority =
      .ok ⟨host, port.filter fun port => some port ≠ endpoint.urlScheme.defaultPort?, "/ws/".toList⟩ := by
    rw [authority, hfront, htext]
    exact read_render endpoint.isSpecial_urlScheme h hback port "ws/".toList
  refine ⟨⟨?_, ?_, _, hauthority⟩, hauthority⟩
  · rw [hword.trim_eq]
    exact hword.ne_empty
  · rw [hword.trim_eq]
    intro c hc
    obtain ⟨hblank, hslash, -, hquestion, hnumber, -⟩ := hchars c hc
    have hspace : c ≠ ' ' := by
      rintro rfl
      exact absurd hblank (by decide)
    simp [AttachUrl.isOutsideHost, hslash, hquestion, hnumber, hspace]

/-- The connection URLs of an endpoint that was taken from a page lead to the host and the port of that page. -/
theorem preflight_of_page {s text : String} {url : Url} (hread : Url.read s = .ok url) (hscheme : url.scheme ∈ Scheme.web)
    (hback : ∀ host, url.host? = some host → Host.ofDomain host.render.toList = .ok host)
    (htext : url.hostPort? = some text) (target : Target) :
    ∃ attach parsed, Endpoint.preflight ⟨text, url.scheme.isSecure⟩ target = .ok attach ∧
      Url.read attach.text = .ok parsed ∧ parsed.host? = url.host? ∧ parsed.effectivePort? = url.effectivePort? ∧
      (parsed.scheme = .wss ↔ url.scheme = .https ∨ url.scheme = .wss) := by
  obtain ⟨host, hhost, hreadable⟩ := host?_of_mem_web hread hscheme
  let endpoint : Endpoint := ⟨text, url.scheme.isSecure⟩
  have hchars : endpoint.host.toList = host.render.toList ++ portText url.port := toList_of_hostPort? hhost htext
  obtain ⟨haccepted, hauthority⟩ := authority_of_text hchars hreadable (hback host hhost)
  obtain ⟨parsed, hparsed, hfrom⟩ := (AttachUrl.agree_read_textOf endpoint target).exists_ok hauthority
  refine ⟨⟨AttachUrl.textOf endpoint target⟩, parsed, ?_, hparsed, ?_, ?_, ?_⟩
  · rw [AttachUrl.preflight_eq_build]
    exact AttachUrl.build_eq_ok_iff.2 ⟨haccepted, rfl⟩
  · have hempty := isEmpty_ofDomain _ host (hback host hhost)
    rw [hhost, host?, hfrom.authority_eq]
    simp [hempty]
  · have hdefault : endpoint.urlScheme.defaultPort? = url.scheme.defaultPort? := defaultPort?_eq hscheme text
    rw [effectivePort?, effectivePort?, hfrom.port_eq, hfrom.scheme_eq, hdefault]
    exact filter_orElse url.port url.scheme.defaultPort?
  · rw [hfrom.scheme_eq]
    exact urlScheme_eq_wss_iff hscheme text

end Endpoint

theorem Page.resolve_of_locate {address : String} {url : Url} {isAbsolute : Bool}
    (h : Page.locate address = .ok (url, isAbsolute)) (style : AddressStyle) (mode : Mode) :
    Page.resolve address style mode = (Target.resolve (Page.fieldsOf style url) mode).map fun target =>
      (target, ⟨if isAbsolute then url.hostPort? else none, isAbsolute && url.scheme.isSecure, Page.fieldsOf style url⟩) := by
  rw [Page.resolve, Page.read, h]
  simp only [bind, Except.bind]
  cases Target.resolve (Page.fieldsOf style url) mode <;> rfl

namespace Order

variable {order : Order} {address : String} {url : Url}

theorem overlay_eq_self {flags : List (String × Option String)} (h : ∀ flag ∈ flags, flag.2 = none) (fields : Fields) :
    overlay fields flags = fields := by
  induction flags with
  | nil => rfl
  | cons flag flags ih =>
    obtain ⟨hflag, hflags⟩ := List.forall_mem_cons.1 h
    obtain ⟨key, value⟩ := flag
    obtain rfl : value = none := hflag
    exact ih hflags

/-- The connection URL of an order for a page leads to where the page comes from: it has the host of the page, the port
that the page is served on, and a secure scheme exactly if the page has one. -/
theorem resolve_served (haddress : order.address = some address) (hnamed : order.host = none)
    (hsecure : order.secure = false) (hread : Url.read (trim address) = .ok url) (hscheme : url.scheme ∈ Scheme.web)
    (hback : ∀ host, url.host? = some host → Host.ofDomain host.render.toList = .ok host) (settings : Settings) :
    (∀ target page, (∀ flag ∈ order.flags, flag.2 = none) →
        Page.resolve address (order.style.getD settings.style) order.mode = .ok (target, page) →
        ∃ endpoint, order.resolve settings = .ok (target, endpoint)) ∧
      ∀ target endpoint, order.resolve settings = .ok (target, endpoint) →
        ∃ attach parsed, endpoint.preflight target = .ok attach ∧ Url.read attach.text = .ok parsed ∧
          parsed.host? = url.host? ∧ parsed.effectivePort? = url.effectivePort? ∧
          (parsed.scheme = .wss ↔ url.scheme = .https ∨ url.scheme = .wss) := by
  obtain ⟨host, hhost, -⟩ := host?_of_mem_web hread hscheme
  obtain ⟨text, htext⟩ : ∃ text, url.hostPort? = some text := by
    rw [hostPort?, hhost]
    exact ⟨_, rfl⟩
  have hlocate : Page.locate address = .ok (url, true) := by
    rw [Page.locate, hread]
    simp [hhost]
  have hplace : order.place = .ok (url, true) := by
    rw [place, haddress]
    exact hlocate
  have hendpoint : order.endpoint settings (order.pageOf settings url true) = ⟨text, url.scheme.isSecure⟩ := by
    simp [endpoint, pageOf, hnamed, hsecure, htext]
  have hresolve := resolve_of_place hplace settings
  rw [hendpoint] at hresolve
  constructor
  · intro target page hflags hpage
    rw [Page.resolve_of_locate hlocate] at hpage
    obtain ⟨found, hfound, hpair⟩ := Json.exists_of_map_eq_ok hpage
    obtain ⟨rfl, -⟩ := Prod.mk.inj hpair
    refine ⟨⟨text, url.scheme.isSecure⟩, ?_⟩
    rw [hresolve, pageOf, overlay_eq_self hflags, hfound]
    rfl
  · intro target endpoint horder
    rw [hresolve] at horder
    obtain ⟨found, -, hpair⟩ := Json.exists_of_map_eq_ok horder
    obtain ⟨-, rfl⟩ := Prod.mk.inj hpair
    exact Endpoint.preflight_of_page hread hscheme hback htext target

/-- An order for a page under an address in groups, on the port that plain connections are made to by default. -/
def bracketedOrder : Order :=
  ⟨.logs, none, none, false, none, none, none,
    some " HTTPS://[0:0::0:1]:80/logs?namespace=shop&pod=web-0&container=app#top", none, none, none⟩

def bracketedTarget : Target := ⟨"shop", "web-0", "app", .logs, none, none⟩

theorem resolve_served_bracketed :
    bracketedOrder.resolve Settings.default = .ok (bracketedTarget, ⟨"[::1]:80", true⟩) ∧
      ∃ attach parsed, Endpoint.preflight ⟨"[::1]:80", true⟩ bracketedTarget = .ok attach ∧
        Url.read attach.text = .ok parsed ∧ parsed.host? = some (.ipv6 [0, 0, 0, 0, 0, 0, 0, 1]) ∧
        parsed.effectivePort? = some 80 ∧ parsed.scheme = .wss := by
  obtain ⟨url, hread, hscheme, hhost, hport⟩ : ∃ url,
      Url.read (trim " HTTPS://[0:0::0:1]:80/logs?namespace=shop&pod=web-0&container=app#top") = .ok url ∧
        url.scheme = .https ∧ url.host? = some (.ipv6 [0, 0, 0, 0, 0, 0, 0, 1]) ∧ url.effectivePort? = some 80 :=
    ⟨_, rfl, rfl, rfl, rfl⟩
  have hback : ∀ host, url.host? = some host → Host.ofDomain host.render.toList = .ok host := by
    intro host h
    rw [hhost] at h
    obtain rfl := Option.some.inj h
    rfl
  have horder : bracketedOrder.resolve Settings.default = .ok (bracketedTarget, ⟨"[::1]:80", true⟩) := by rfl
  obtain ⟨attach, parsed, hattach, hparsed, hsame, hdialled, hsecure⟩ :=
    (resolve_served rfl rfl rfl hread (by rw [hscheme]; decide) hback Settings.default).2 _ _ horder
  exact ⟨horder, attach, parsed, hattach, hparsed, hsame.trans hhost, hdialled.trans hport, hsecure.2 (.inl hscheme)⟩

end Order

end PodAttach

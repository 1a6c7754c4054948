import PodAttach.Proofs.CommandLine.Interchange
import PodAttach.Proofs.Target.Filled

/-!
# Orders without their blanks

An order may be given blank options, and an address with blanks in it. Without them it leads to the same target and server,
or has the same fault, unless a blank hides something: an option that is blank is put over what the address says all the
same.
-/

namespace PodAttach.Order

open Text

variable (order : Order)

/-! ### The page -/

/-- Where the address leads to; without one, to a page that says nothing. -/
def place : Except Target.AddressFault (Url × Bool) :=
  match order.address with
  | some address => Page.locate address
  | none => .ok (Page.localPage, false)

/-- The page at a URL, with the options over its fields. -/
def pageOf (settings : Settings) (url : Url) (isAbsolute : Bool) : Page where
  host := if isAbsolute then url.hostPort? else none
  secure := isAbsolute && url.scheme.isSecure
  fields := overlay (Page.fieldsOf (order.style.getD settings.style) url) order.flags

theorem page_eq (settings : Settings) : order.page settings = match order.place with
    | .error fault => .error (.invalidAddress fault)
    | .ok (url, isAbsolute) => .ok (order.pageOf settings url isAbsolute) := by
  unfold page place pageOf
  cases order.address with
  | none => cases order.style.getD settings.style <;> rfl
  | some address =>
    simp only [Page.read]
    cases Page.locate address <;> rfl

theorem resolve_of_place {order : Order} {url : Url} {isAbsolute : Bool} (h : order.place = .ok (url, isAbsolute))
    (settings : Settings) :
    order.resolve settings = (Target.resolve (order.pageOf settings url isAbsolute).fields order.mode).map fun target =>
      (target, order.endpoint settings (order.pageOf settings url isAbsolute)) := by
  rw [resolve, page_eq, h]
  simp only [bind, Except.bind]
  cases Target.resolve (order.pageOf settings url isAbsolute).fields order.mode <;> rfl

theorem resolve_of_place_error {order : Order} {fault : Target.AddressFault} (h : order.place = .error fault)
    (settings : Settings) : order.resolve settings = .error (.invalidAddress fault) := by
  rw [resolve, page_eq, h]
  rfl

/-! ### Without blanks -/

/-- What an address may become without the blanks in it. One that cannot be read stays as it is. -/
inductive ClearsAddress (style : AddressStyle) : Option String → Option String → Prop where
  | none : ClearsAddress style none none
  | blank {address : String} (h : isFilled address = false) : ClearsAddress style (some address) none
  | unreadable {address : String} {fault : Target.AddressFault} (h : Page.locate address = .error fault) :
    ClearsAddress style (some address) (some address)
  | readable {address other : String} {url cleared : Url} {isAbsolute : Bool}
    (h : Page.locate address = .ok (url, isAbsolute)) (hother : Page.locate other = .ok (cleared, isAbsolute))
    (hclears : Page.Clears style url cleared) : ClearsAddress style (some address) (some other)

/-- The same order without the options that are blank, and with another address. -/
def withoutBlanks (address : Option String) : Order :=
  { order with
    ns := order.ns.filter isFilled, pod := order.pod.filter isFilled, container := order.container.filter isFilled
    tail := order.tail.filter isFilled, follow := order.follow.filter isFilled, address }

theorem flags_withoutBlanks (address : Option String) :
    (order.withoutBlanks address).flags = order.flags.map fun (key, value?) => (key, value?.filter isFilled) := by
  simp only [flags, withoutBlanks]
  cases order.mode <;> rfl

theorem givenOf_map_filter (p : String → Bool) (flags : List (String × Option String)) :
    givenOf (flags.map fun (key, value?) => (key, value?.filter p)) = (givenOf flags).filter fun pair => p pair.2 := by
  rw [givenOf, givenOf, List.filterMap_map, List.filter_filterMap]
  refine List.filterMap_congr fun flag _ => ?_
  obtain ⟨key, value?⟩ := flag
  cases value? with
  | none => rfl
  | some value => cases hvalue : p value <;> simp [Option.filter, hvalue]

theorem lookup_givenOf_withoutBlanks (address : Option String) (key : String) :
    (givenOf (order.withoutBlanks address).flags).lookup key =
      ((givenOf order.flags).lookup key).filter isFilled := by
  rw [flags_withoutBlanks, givenOf_map_filter, lookup_filter_value isFilled order.nodup_keys_given]

theorem locate_of_not_isFilled {address : String} (h : isFilled address = false) :
    Page.locate address = .ok (Page.localPage, false) := by
  unfold Page.locate
  rw [trim_eq_empty_iff.2 h]
  rfl

theorem clears_localPage (style : AddressStyle) : Page.Clears style Page.localPage Page.localPage := by
  refine ⟨rfl, rfl, rfl, fun hstyle => ?_⟩
  subst hstyle
  rfl

/-- What is left of an address leads to a fault or to a host if the address itself does, and to the same. -/
theorem ClearsAddress.place_eq {style : AddressStyle} {address : Option String}
    (h : ClearsAddress style order.address address) :
    (∃ fault, order.place = .error fault ∧ (order.withoutBlanks address).place = .error fault) ∨
      ∃ url cleared isAbsolute, order.place = .ok (url, isAbsolute) ∧
        (order.withoutBlanks address).place = .ok (cleared, isAbsolute) ∧ Page.Clears style url cleared := by
  unfold place withoutBlanks
  generalize order.address = given at h
  cases h with
  | none => exact .inr ⟨_, _, _, rfl, rfl, clears_localPage style⟩
  | blank h => exact .inr ⟨_, _, _, locate_of_not_isFilled h, rfl, clears_localPage style⟩
  | unreadable h => exact .inl ⟨_, h, h⟩
  | readable h hother hclears => exact .inr ⟨_, _, _, h, hother, hclears⟩

/-! ### Values that a blank hides -/

/-- The ways in which something blank keeps a key from the value that stands behind it. -/
inductive Hides (order : Order) (style : AddressStyle) (url : Url) (key : String) : Prop where
  /-- An option that is blank is put over what the address says. -/
  | option {value : String} (hgiven : (givenOf order.flags).lookup key = some value) (hblank : isFilled value = false)
    (hsaid : Fields.usable (Page.filledValue? style url key) ≠ none)
  | address (hfree : (givenOf order.flags).lookup key = none) (hhides : Page.Hides style url key)

/-- Without its blanks, an order says the same of a key exactly if none of them hides something. -/
theorem usable_withoutBlanks_iff {style : AddressStyle} {url cleared : Url} (hclears : Page.Clears style url cleared)
    (address : Option String) (key : String) :
    Fields.usable ((overlay (Page.fieldsOf style cleared) (order.withoutBlanks address).flags).get? key) =
        Fields.usable ((overlay (Page.fieldsOf style url) order.flags).get? key) ↔
      ¬ order.Hides style url key := by
  rw [get?_overlay_flags, get?_overlay_flags, lookup_givenOf_withoutBlanks, hclears.get?_fieldsOf]
  cases hgiven : (givenOf order.flags).lookup key with
  | none =>
    rw [Option.filter_none, Option.none_or, Option.none_or, Page.usable_filledValue?_iff, not_iff_not]
    constructor
    · exact fun hhides => .address hgiven hhides
    · rintro (⟨hsome, -, -⟩ | ⟨-, hhides⟩)
      · rw [hgiven] at hsome
        cases hsome
      · exact hhides
  | some value =>
    cases hvalue : isFilled value with
    | true =>
      rw [Option.filter_some_pos hvalue, Option.some_or, Option.some_or]
      refine iff_of_true rfl ?_
      rintro (⟨hsome, hblank, -⟩ | ⟨hfree, -⟩)
      · obtain rfl := Option.some.inj (hgiven.symm.trans hsome)
        rw [hvalue] at hblank
        cases hblank
      · rw [hgiven] at hfree
        cases hfree
    | false =>
      rw [Option.filter_some_neg hvalue, Option.none_or, Option.some_or, Fields.usable_of_not_isFilled hvalue]
      constructor
      · rintro hnone (⟨-, -, hsaid⟩ | ⟨hfree, -⟩)
        · exact hsaid hnone
        · rw [hgiven] at hfree
          cases hfree
      · intro hhides
        by_contra hsaid
        exact hhides (.option hgiven hvalue hsaid)

/-- Blanks in the options and in the address make a difference exactly where they hide something. If they hide nothing that
counts, the order leads without them to the same target and the same server, or has the same fault. -/
theorem resolve_withoutBlanks (settings : Settings) {address : Option String}
    (h : ClearsAddress (order.style.getD settings.style) order.address address) :
    (∀ fault, order.place = .error fault →
      (order.withoutBlanks address).resolve settings = order.resolve settings) ∧
      ∀ url isAbsolute, order.place = .ok (url, isAbsolute) →
        (∃ page cleared, order.page settings = .ok page ∧ (order.withoutBlanks address).page settings = .ok cleared ∧
          ∀ key, Fields.usable (cleared.fields.get? key) = Fields.usable (page.fields.get? key) ↔
            ¬ order.Hides (order.style.getD settings.style) url key) ∧
        ((∀ key ∈ Target.keys order.mode, ¬ order.Hides (order.style.getD settings.style) url key) →
          (order.withoutBlanks address).resolve settings = order.resolve settings) := by
  rcases h.place_eq with ⟨fault, hplace, hcleared⟩ | ⟨url, cleared, isAbsolute, hplace, hcleared, hclears⟩
  · refine ⟨fun _ _ => ?_, fun url isAbsolute hok => ?_⟩
    · rw [resolve_of_place_error hcleared, resolve_of_place_error hplace]
    · rw [hplace] at hok
      cases hok
  · refine ⟨fun fault herror => ?_, fun url' isAbsolute' hok => ?_⟩
    · rw [hplace] at herror
      cases herror
    obtain ⟨rfl, rfl⟩ := Prod.mk.inj (Except.ok.inj (hplace.symm.trans hok))
    have hsame := order.usable_withoutBlanks_iff hclears address
    refine ⟨⟨order.pageOf settings url isAbsolute, (order.withoutBlanks address).pageOf settings cleared isAbsolute,
      by rw [page_eq, hplace], by rw [page_eq, hcleared], hsame⟩, fun hnone => ?_⟩
    have hendpoint : (order.withoutBlanks address).endpoint settings
        ((order.withoutBlanks address).pageOf settings cleared isAbsolute) =
          order.endpoint settings (order.pageOf settings url isAbsolute) := by
      simp only [endpoint, withoutBlanks, pageOf, hclears.hostPort?, hclears.scheme]
    have htarget : Target.resolve ((order.withoutBlanks address).pageOf settings cleared isAbsolute).fields order.mode =
        Target.resolve (order.pageOf settings url isAbsolute).fields order.mode :=
      Target.resolve_congr_keys fun key hkey => (hsame key).2 (hnone key hkey)
    rw [resolve_of_place hcleared, resolve_of_place hplace, hendpoint, ← htarget]
    rfl

/-- What is asked of a log by an address alone. -/
def ofAddress (style : AddressStyle) (address : String) : Order where
  mode := .logs
  settingsPath := none
  host := none
  secure := false
  ns := none
  pod := none
  container := none
  address := some address
  style := some style
  tail := none
  follow := none

/-- What an address on the local page is read as. -/
def pageAt (segments : List String) (query : String) : Url :=
  { Page.localPage with path := .segments segments, query := some query }

/-- The logs of one container, asked from the server that is asked if none is named. -/
def webLogs : Target × Endpoint := (⟨"default", "web", "app", .logs, none, none⟩, ⟨Endpoint.defaultHost, false⟩)

def emptyPod : Order := { ofAddress .query "/logs?pod=web&container=app" with pod := some "" }

def blankFirst : Order := ofAddress .query "/logs?pod=%20&pod=web&container=app"

def hollowPod : Order := ofAddress .path "/pods//containers/app?pod=web"

/-- An option that is empty, a first value that is blank, and a key with an empty value keep the pod or the container from
what the address says of it. -/
theorem resolve_withoutBlanks_ne :
    (ClearsAddress .query emptyPod.address (some "/logs?pod=web&container=app") ∧
      emptyPod.resolve Settings.default = .error (.missing .pod) ∧
      (emptyPod.withoutBlanks (some "/logs?pod=web&container=app")).resolve Settings.default = .ok webLogs) ∧
    (ClearsAddress .query blankFirst.address (some "/logs?pod=web&container=app") ∧
      blankFirst.resolve Settings.default = .error (.missing .pod) ∧
      (blankFirst.withoutBlanks (some "/logs?pod=web&container=app")).resolve Settings.default = .ok webLogs) ∧
    ClearsAddress .path hollowPod.address (some "/containers/app?pod=web") ∧
      hollowPod.resolve Settings.default = .error (.missing .container) ∧
      (hollowPod.withoutBlanks (some "/containers/app?pod=web")).resolve Settings.default = .ok webLogs := by
  have hempty : emptyPod.place = .ok (pageAt ["logs"] "pod=web&container=app", false) := by rfl
  have hfirst : blankFirst.place = .ok (pageAt ["logs"] "pod=%20&pod=web&container=app", false) := by rfl
  have hhollow : hollowPod.place = .ok (pageAt ["pods", "", "containers", "app"] "pod=web", false) := by rfl
  have hempty' : (emptyPod.withoutBlanks (some "/logs?pod=web&container=app")).place = _ := hempty
  have hfirst' : (blankFirst.withoutBlanks (some "/logs?pod=web&container=app")).place = _ := hempty
  have hhollow' : (hollowPod.withoutBlanks (some "/containers/app?pod=web")).place =
      .ok (pageAt ["containers", "app"] "pod=web", false) := by rfl
  refine ⟨⟨?_, ?_, ?_⟩, ⟨?_, ?_, ?_⟩, ?_, ?_, ?_⟩
  · exact .readable hempty hempty' ⟨rfl, rfl, by decide, nofun⟩
  · exact resolve_of_place hempty _
  · exact resolve_of_place hempty' _
  · exact .readable hfirst hfirst' ⟨rfl, rfl, by decide, nofun⟩
  · exact resolve_of_place hfirst _
  · exact resolve_of_place hfirst' _
  · exact .readable hhollow hhollow' ⟨rfl, rfl, by decide, fun _ => by decide⟩
  · exact resolve_of_place hhollow _
  · exact resolve_of_place hhollow' _

/-- Blanks of every kind, and none of them in front of anything. -/
def harmless : Order :=
  { ofAddress .path "http://pods.example/pods/web/containers/app/namespaces/?tail=%20&follow=&pod=api" with ns := some "\t" }

def harmlessUrl (segments : List String) (query : String) : Url where
  scheme := .http
  authority := some (.name "pods.example")
  port := none
  path := .segments segments
  query := some query
  fragment := none

theorem resolve_withoutBlanks_harmless :
    ClearsAddress .path harmless.address (some "http://pods.example/pods/web/containers/app?pod=api") ∧
      (harmless.withoutBlanks (some "http://pods.example/pods/web/containers/app?pod=api")).resolve Settings.default =
        harmless.resolve Settings.default := by
  have hplace : harmless.place = .ok (harmlessUrl ["pods", "web", "containers", "app", "namespaces", ""]
      "tail=%20&follow=&pod=api", true) := by rfl
  have hcleared : Page.locate "http://pods.example/pods/web/containers/app?pod=api" =
      .ok (harmlessUrl ["pods", "web", "containers", "app"] "pod=api", true) := by rfl
  have hclears : Page.Clears .path (harmlessUrl ["pods", "web", "containers", "app", "namespaces", ""]
      "tail=%20&follow=&pod=api") (harmlessUrl ["pods", "web", "containers", "app"] "pod=api") :=
    ⟨rfl, rfl, by decide, fun _ => by decide⟩
  have haddress : ClearsAddress .path harmless.address (some "http://pods.example/pods/web/containers/app?pod=api") :=
    .readable hplace hcleared hclears
  refine ⟨haddress, ((harmless.resolve_withoutBlanks Settings.default haddress).2 _ _ hplace).2 fun key hkey => ?_⟩
  apply (harmless.usable_withoutBlanks_iff hclears none key).1
  revert key
  decide

end PodAttach.Order

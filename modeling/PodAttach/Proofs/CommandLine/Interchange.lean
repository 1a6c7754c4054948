import PodAttach.CommandLine.Order
import PodAttach.Proofs.Target.Addresses

/-!
# Options and addresses say the same

What a command line gives by options it can as well give by a page address, with every byte of a value escaped. The two
treat an empty value differently: an option puts it over the fields of the page, the query of an address passes over it.
But an empty value is no value when a target is resolved, so the order is the same.
-/

namespace PodAttach.Order

open Text Url

variable (order : Order)

/-! ### What the options give -/

/-- The fields that are given, under their names. -/
def givenOf (flags : List (String × Option String)) : List (String × String) :=
  flags.filterMap fun (key, value) => value.map (key, ·)

theorem overlay_eq_foldl (fields : Fields) (flags : List (String × Option String)) :
    overlay fields flags = (givenOf flags).foldl (fun fields (key, value) => fields.insert key value) fields := by
  induction flags generalizing fields with
  | nil => rfl
  | cons flag flags ih =>
    obtain ⟨key, value⟩ := flag
    cases value with
    | none => exact ih fields
    | some value => exact ih (fields.insert key value)

theorem keys_givenOf_sublist (flags : List (String × Option String)) :
    ((givenOf flags).map Prod.fst).Sublist (flags.map Prod.fst) := by
  induction flags with
  | nil => exact .slnil
  | cons flag flags ih =>
    obtain ⟨key, value⟩ := flag
    cases value with
    | none => exact ih.cons key
    | some value => exact ih.cons_cons key

theorem keys_flags : order.flags.map Prod.fst =
    match order.mode with
    | .logs => ["namespace", "pod", "container", "tail", "follow"]
    | .shell => ["namespace", "pod", "container"] := by
  unfold flags
  cases order.mode <;> rfl

theorem nodup_keys_given : ((givenOf order.flags).map Prod.fst).Nodup := by
  refine List.Nodup.sublist (keys_givenOf_sublist order.flags) ?_
  rw [keys_flags]
  cases order.mode <;> decide

theorem isName_key_of_mem_given {pair : String × String} (h : pair ∈ givenOf order.flags) : IsName pair.1 := by
  have hnames : ∀ key ∈ order.flags.map Prod.fst, IsName key := by
    rw [keys_flags]
    cases order.mode <;> decide
  exact hnames pair.1 ((keys_givenOf_sublist order.flags).subset (List.mem_map_of_mem h))

theorem get?_overlay_flags (fields : Fields) (key : String) :
    (overlay fields order.flags).get? key = ((givenOf order.flags).lookup key).or (fields.get? key) := by
  rw [overlay_eq_foldl, Fields.get?_foldl_insert, lookup_reverse order.nodup_keys_given]

/-! ### The address that says the same -/

def escape (s : String) : String := String.ofList (escapeAll s.toList)

theorem isFormText_escape (s : String) : IsFormText (escape s) := by
  have hdigits : "%0123456789ABCDEF".toList.all (fun c => isNameChar c || c == '%') = true := by decide
  intro c hc
  rw [escape, String.toList_ofList] at hc
  simpa using List.all_eq_true.1 hdigits c (mem_of_mem_escapeAll hc)

theorem formText_escape (s : String) : formText (escape s).toList = s := by
  rw [escape, String.toList_ofList, formText_escapeAll, String.ofList_toList]

example : escape "a&ö" = "%61%26%C3%B6" := by decide

/-- The fields that the options give, with every byte of a value escaped. -/
def escapedPairs : List (String × String) := (givenOf order.flags).map fun (key, value) => (key, escape value)

def escapedAddress : String := "/?" ++ formOf order.escapedPairs

theorem isFormText_of_mem_escapedPairs : ∀ pair ∈ order.escapedPairs, IsFormText pair.1 ∧ IsFormText pair.2 := by
  intro pair hpair
  obtain ⟨given, hgiven, rfl⟩ := List.mem_map.1 hpair
  exact ⟨(order.isName_key_of_mem_given hgiven).isFormText, isFormText_escape given.2⟩

theorem formPairs_escapedPairs : formPairs (formOf order.escapedPairs).toList = givenOf order.flags := by
  have hsame : ∀ pair ∈ givenOf order.flags, (formText pair.1.toList, formText (escape pair.2).toList) = id pair := by
    intro pair hpair
    rw [(order.isName_key_of_mem_given hpair).formText_eq, formText_escape]
    rfl
  rw [formPairs_eq_map order.isFormText_of_mem_escapedPairs, escapedPairs, List.map_map]
  exact (List.map_congr_left hsame).trans (List.map_id _)

theorem read_escapedAddress :
    ∃ fields, Page.read .query order.escapedAddress = .ok ⟨none, false, fields⟩ ∧
      ∀ key, fields.get? key = ((givenOf order.flags).filter notEmpty).lookup key := by
  have hform := isPlain_of_mem_formOf order.isFormText_of_mem_escapedPairs
  have htext : order.escapedAddress.toList = '/' :: '?' :: (formOf order.escapedPairs).toList ++ [] := by
    simp [escapedAddress, String.toList_append]
  have hvisible := List.forall_mem_cons.2 ⟨(⟨by decide, by decide⟩ : IsVisible '/'), List.forall_mem_cons.2
    ⟨(⟨by decide, by decide⟩ : IsVisible '?'), fun c hc => (hform c hc).toIsVisible⟩⟩
  have hclean := clean_trim htext (by simp) hvisible
  have hempty : settled [] = [] := rfl
  rw [hempty, List.append_nil] at hclean
  have hshape : clean (trim order.escapedAddress).toList = '/' :: [] ++ '?' :: _ := hclean
  obtain ⟨url, hread, -, hpairs⟩ := Page.read_root hshape (by simp) (by simp) .query
  refine ⟨_, hread, fun key => ?_⟩
  rw [Page.pairsOf_eq_formPairs hform, formPairs_escapedPairs] at hpairs
  rw [Page.fieldsOf, Page.get?_queryFields, hpairs]

/-! ### Either way -/

/-- The same order with that address in place of the options. -/
def byAddress (style : Option AddressStyle) : Order :=
  { order with
    ns := none, pod := none, container := none, tail := none, follow := none
    address := some order.escapedAddress, style }

theorem givenOf_flags_byAddress (style : Option AddressStyle) : givenOf (order.byAddress style).flags = [] := by
  simp only [flags, byAddress, givenOf]
  cases order.mode <;> rfl

theorem resolve_eq_of_page {settings : Settings} {fields : Fields}
    (h : order.page settings = .ok ⟨none, false, fields⟩) :
    order.resolve settings = (Target.resolve fields order.mode).map fun target =>
      (target, order.endpoint settings ⟨none, false, .empty⟩) := by
  simp only [resolve, h, bind, Except.bind]
  cases Target.resolve fields order.mode <;> rfl

/-- Options and an address that says the same lead to the same target and server, or to the same fault. -/
theorem resolve_byAddress (settings : Settings) {style : Option AddressStyle} (haddress : order.address = none)
    (hstyle : style.getD settings.style = .query) :
    (order.byAddress style).resolve settings = order.resolve settings := by
  obtain ⟨fields, hread, hfields⟩ := order.read_escapedAddress
  have hbyOptions : order.page settings = .ok ⟨none, false, overlay .empty order.flags⟩ := by
    rw [page, haddress]
    rfl
  have hbyAddress : (order.byAddress style).page settings = .ok ⟨none, false, fields⟩ := by
    have hoverlay : overlay fields (order.byAddress style).flags = fields := by
      rw [overlay_eq_foldl, givenOf_flags_byAddress]
      rfl
    have hpage : (order.byAddress style).page settings = (do
        let page ← Page.read (style.getD settings.style) order.escapedAddress
        return { page with fields := overlay page.fields (order.byAddress style).flags }) := rfl
    rw [hpage, hstyle, hread]
    exact congrArg (fun fields => (.ok ⟨none, false, fields⟩ : Except Target.Fault Page)) hoverlay
  have husable : ∀ key, Fields.usable (fields.get? key) = Fields.usable ((overlay .empty order.flags).get? key) := by
    intro key
    rw [hfields, lookup_filter order.nodup_keys_given, Fields.usable_filter, get?_overlay_flags, Fields.get?_empty,
      Option.or_none]
  rw [resolve_eq_of_page _ hbyAddress, resolve_eq_of_page _ hbyOptions]
  exact congrArg (Except.map _) (Target.resolve_congr husable order.mode)

/-- An empty namespace, and values that no query could hold as they are. -/
def unescaped : Order where
  mode := .logs
  settingsPath := none
  host := none
  secure := true
  ns := some ""
  pod := some " web+0&pod=%41 "
  container := some "größe"
  address := none
  style := some .path
  tail := some "all"
  follow := none

theorem resolve_byAddress_unescaped :
    unescaped.address = none ∧ (none : Option AddressStyle).getD Settings.default.style = .query ∧
      (unescaped.byAddress none).resolve Settings.default = unescaped.resolve Settings.default :=
  ⟨rfl, rfl, unescaped.resolve_byAddress Settings.default rfl rfl⟩

end PodAttach.Order

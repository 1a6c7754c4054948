import Mathlib.Data.List.TakeWhile
import PodAttach.Proofs.Target.Shifts

/-!
# What an address says without its blanks

An address without its blank query values, and without the keys of its path that have an empty value, says of each key what
is left of it. The address itself may say less, or something else: a first value in the query that is blank but not empty
stands before the others, and a key of the path takes the next segment for its value that is not empty.
-/

namespace PodAttach

open Text

/-! ### Values that are not blank -/

/-- Holds a character that is not blank. -/
def isFilled (value : String) : Bool := value.toList.any (!isBlank ·)

theorem strip_eq_nil_iff {α : Type} {p : α → Bool} {xs : List α} : strip p xs = [] ↔ ∀ x ∈ xs, p x = true := by
  rw [strip, List.reverse_eq_nil_iff, List.dropWhile_eq_nil_iff]
  constructor
  · intro h
    by_contra hsome
    have hne : xs.dropWhile p ≠ [] := fun hnil => hsome (List.dropWhile_eq_nil_iff.1 hnil)
    have hhead := h _ (List.mem_reverse.2 (List.head_mem hne))
    rw [List.head_dropWhile_not p hne] at hhead
    cases hhead
  · intro h x hx
    exact h x ((List.dropWhile_sublist p).subset (List.mem_reverse.1 hx))

theorem trim_eq_empty_iff {value : String} : trim value = "" ↔ isFilled value = false := by
  rw [trim, String.ofList_eq_empty_iff, strip_eq_nil_iff, isFilled, List.any_eq_false]
  simp

namespace Fields

theorem usable_of_isFilled {value : String} (h : isFilled value = true) : usable (some value) = some (trim value) := by
  have hne : trim value ≠ "" := fun hempty => by simp [trim_eq_empty_iff.1 hempty] at h
  exact Option.filter_some_pos (by simpa using hne)

theorem usable_of_not_isFilled {value : String} (h : isFilled value = false) : usable (some value) = none :=
  Option.filter_some_neg (by simpa using trim_eq_empty_iff.2 h)

end Fields

section

variable {pairs : List (String × String)} {key value : String} {p : String → Bool}

theorem lookup_filter_of_eq_none (h : pairs.lookup key = none) : (pairs.filter fun pair => p pair.2).lookup key = none := by
  rw [List.lookup_eq_none_iff] at h ⊢
  intro pair hpair
  exact h pair (List.mem_filter.1 hpair).1

theorem lookup_filter_of_eq_some (h : pairs.lookup key = some value) (hvalue : p value = true) :
    (pairs.filter fun pair => p pair.2).lookup key = some value := by
  obtain ⟨before, after, rfl, hbefore⟩ := List.lookup_eq_some_iff.1 h
  rw [List.lookup_eq_some_iff]
  refine ⟨before.filter fun pair => p pair.2, after.filter fun pair => p pair.2, by simp [hvalue], fun pair hpair => ?_⟩
  exact hbefore pair (List.mem_filter.1 hpair).1

theorem of_lookup_filter (h : (pairs.filter fun pair => p pair.2).lookup key = some value) : p value = true := by
  obtain ⟨before, after, hpairs, -⟩ := List.lookup_eq_some_iff.1 h
  have hmem : (key, value) ∈ pairs.filter fun pair => p pair.2 := by simp [hpairs]
  exact (List.mem_filter.1 hmem).2

/-- Nothing that is filled is empty. -/
theorem notEmpty_of_isFilled {pair : String × String} (h : isFilled pair.2 = true) : notEmpty pair = true := by
  have hne : pair.2 ≠ "" := by
    intro hempty
    rw [hempty] at h
    cases h
  simpa [notEmpty] using hne

theorem filter_isFilled_filter_notEmpty (pairs : List (String × String)) :
    (pairs.filter notEmpty).filter (fun pair => isFilled pair.2) = pairs.filter fun pair => isFilled pair.2 := by
  rw [List.filter_filter]
  refine List.filter_congr fun pair _ => ?_
  cases hfilled : isFilled pair.2 with
  | false => rfl
  | true => rw [notEmpty_of_isFilled hfilled, Bool.and_self]

theorem filter_notEmpty_filter_isFilled (pairs : List (String × String)) :
    (pairs.filter fun pair => isFilled pair.2).filter notEmpty = pairs.filter fun pair => isFilled pair.2 :=
  List.filter_eq_self.2 fun _ hpair => notEmpty_of_isFilled (List.mem_filter.1 hpair).2

end

namespace Page

/-! ### Paths -/

/-- The segments of a path without the keys whose value is empty, and without that value. -/
def withoutHollow : List String → List String
  | [] => []
  | [segment] => [segment]
  | segment :: value :: rest =>
    match segmentKey? segment with
    | some _ => if value = "" then withoutHollow rest else segment :: value :: withoutHollow rest
    | none => segment :: withoutHollow (value :: rest)

theorem ne_empty_of_segmentKey? {segment key : String} (h : segmentKey? segment = some key) : segment ≠ "" := by
  rintro rfl
  cases h

/-- In a path without hollow keys, empty segments stand only where no value is expected. -/
theorem keyedPairs_withoutHollow (segments : List String) :
    keyedPairs ((withoutHollow segments).filter (· ≠ "")) = (keyedPairs segments).filter notEmpty := by
  induction segments using withoutHollow.induct with
  | case1 => rfl
  | case2 segment =>
    rw [withoutHollow, keyedPairs_singleton]
    by_cases hsegment : segment = ""
    · rw [hsegment]
      rfl
    · rw [List.filter_cons_of_pos (by simpa using hsegment), List.filter_nil, keyedPairs_singleton, List.filter_nil]
  | case3 segment rest key hkey ih =>
    rw [withoutHollow, hkey, if_pos rfl, ih, keyedPairs_cons_of_some hkey]
    exact (List.filter_cons_of_neg (by simp [notEmpty])).symm
  | case4 segment value rest key hkey hvalue ih =>
    have hsegment := ne_empty_of_segmentKey? hkey
    rw [withoutHollow, hkey, if_neg hvalue, List.filter_cons_of_pos (by simpa using hsegment),
      List.filter_cons_of_pos (by simpa using hvalue), keyedPairs_cons_of_some hkey, keyedPairs_cons_of_some hkey,
      List.filter_cons_of_pos (by simpa [notEmpty] using hvalue), ih]
  | case5 segment value rest hkey ih =>
    rw [withoutHollow, hkey, keyedPairs_cons_of_none hkey, ← ih]
    by_cases hsegment : segment = ""
    · rw [List.filter_cons_of_neg (by simpa using hsegment)]
    · rw [List.filter_cons_of_pos (by simpa using hsegment), keyedPairs_cons_of_none hkey]

/-! ### Addresses -/

/-- The pairs in the path of an address whose value stands right behind the key. -/
def filledPathPairs (style : AddressStyle) (url : Url) : List (String × String) :=
  match style with
  | .query => []
  | .path => (keyedPairs url.pathSegments).filter notEmpty

/-- What an address says of a key if blanks are passed over. -/
def filledValue? (style : AddressStyle) (url : Url) (key : String) : Option String :=
  ((filledPathPairs style url).reverse.lookup key).or ((url.queryPairs.filter fun pair => isFilled pair.2).lookup key)

/-- The same address but for its blank query values and, if its path counts, the hollow keys of that. -/
structure Clears (style : AddressStyle) (url other : Url) : Prop where
  scheme : other.scheme = url.scheme
  hostPort? : other.hostPort? = url.hostPort?
  queryPairs : other.queryPairs = url.queryPairs.filter fun pair => isFilled pair.2
  pathSegments : style = .path →
    other.pathSegments.filter (· ≠ "") = (withoutHollow url.pathSegments).filter (· ≠ "")

variable {style : AddressStyle} {url other : Url} {key : String}

theorem Clears.pathPairs_eq (h : Clears style url other) : pathPairs style other = filledPathPairs style url := by
  cases style with
  | query => rfl
  | path => rw [pathPairs, filledPathPairs, h.pathSegments rfl, keyedPairs_withoutHollow]

theorem Clears.get?_fieldsOf (h : Clears style url other) (key : String) :
    (fieldsOf style other).get? key = filledValue? style url key := by
  rw [Page.get?_fieldsOf, h.pathPairs_eq, h.queryPairs, filter_notEmpty_filter_isFilled, filledValue?]

theorem filledValue?_path (url : Url) (key : String) :
    filledValue? .path url key =
      (saidIn? url.pathSegments key).or ((url.queryPairs.filter fun pair => isFilled pair.2).lookup key) := rfl

theorem get?_fieldsOf_path (url : Url) (key : String) :
    (fieldsOf .path url).get? key = (readIn? url.pathSegments key).or ((url.queryPairs.filter notEmpty).lookup key) :=
  Page.get?_fieldsOf .path url key

/-! ### Values that a blank hides -/

/-- The ways in which something blank in an address keeps a key from the value that stands behind it. -/
inductive Hides (style : AddressStyle) (url : Url) (key : String) : Prop where
  /-- A value that is blank but not empty comes first. -/
  | first {value : String} (hpath : (pathPairs style url).lookup key = none)
      (hfilled : (filledPathPairs style url).lookup key = none)
      (hfirst : (url.queryPairs.filter notEmpty).lookup key = some value) (hblank : isFilled value = false)
      (hlater : (url.queryPairs.filter fun pair => isFilled pair.2).lookup key ≠ none)
  /-- Behind an empty segment, the last value for the key is one that belongs to something else, and without it the
  address says something else of the key. -/
  | taken {before after : List String} {value : String} (hstyle : style = .path)
      (hlast : IsLast key url.pathSegments before value after)
      (hread : due? (before.filter (· ≠ "")) = some key) (hsaid : due? before ≠ some key)
      (hother : Fields.usable ((saidIn? before key).or ((url.queryPairs.filter fun pair => isFilled pair.2).lookup key)) ≠
        Fields.usable (some value))
  /-- Behind an empty segment, the key is itself taken for a value, so that its own value is lost, and without that
  something else is read of the key. -/
  | lost {before after : List String} {value : String} (hstyle : style = .path)
      (hlast : IsLast key url.pathSegments before value after)
      (hread : due? (before.filter (· ≠ "")) ≠ some key) (hsaid : due? before = some key)
      (hother : Fields.usable ((readIn? before key).or ((url.queryPairs.filter notEmpty).lookup key)) ≠
        Fields.usable (some value))

theorem usable_ne_none_of_lookup {pairs : List (String × String)}
    (h : (pairs.filter fun pair => isFilled pair.2).lookup key ≠ none) :
    Fields.usable ((pairs.filter fun pair => isFilled pair.2).lookup key) ≠ none := by
  obtain ⟨value, hvalue⟩ := Option.ne_none_iff_exists'.1 h
  rw [hvalue, Fields.usable_of_isFilled (of_lookup_filter hvalue)]
  exact Option.some_ne_none _

/-- The first value that is not empty is the first that is not blank, unless it is blank itself and another one is not. -/
theorem usable_lookup_isFilled {pairs : List (String × String)}
    (h : ∀ value, (pairs.filter notEmpty).lookup key = some value → isFilled value = false →
      (pairs.filter fun pair => isFilled pair.2).lookup key = none) :
    Fields.usable ((pairs.filter fun pair => isFilled pair.2).lookup key) =
      Fields.usable ((pairs.filter notEmpty).lookup key) := by
  rw [← filter_isFilled_filter_notEmpty] at h ⊢
  cases hfirst : (pairs.filter notEmpty).lookup key with
  | none => rw [lookup_filter_of_eq_none hfirst]
  | some value =>
    cases hvalue : isFilled value with
    | true => rw [lookup_filter_of_eq_some hfirst hvalue]
    | false =>
      rw [h value hfirst hvalue, Fields.usable_of_not_isFilled hvalue]
      rfl

theorem Hides.usable_ne (h : Hides style url key) :
    Fields.usable (filledValue? style url key) ≠ Fields.usable ((fieldsOf style url).get? key) := by
  cases h with
  | first hpath hfilled hfirst hblank hlater =>
    rw [filledValue?, Page.get?_fieldsOf, lookup_reverse_eq_none_iff.2 hpath, lookup_reverse_eq_none_iff.2 hfilled,
      Option.none_or, Option.none_or, hfirst, Fields.usable_of_not_isFilled hblank]
    exact usable_ne_none_of_lookup hlater
  | taken hstyle hlast hread hsaid hother =>
    subst hstyle
    rw [filledValue?_path, get?_fieldsOf_path, hlast.in?_eq.1, hlast.in?_eq.2, if_pos hread, if_neg hsaid, Option.some_or]
    exact hother
  | lost hstyle hlast hread hsaid hother =>
    subst hstyle
    rw [filledValue?_path, get?_fieldsOf_path, hlast.in?_eq.1, hlast.in?_eq.2, if_neg hread, if_pos hsaid, Option.some_or]
    exact hother.symm

/-- If the path says of a key what is read of it, only a blank in the query can hide something. -/
theorem usable_eq_of_path (hhides : ¬ Hides style url key)
    (hpath : (pathPairs style url).reverse.lookup key = (filledPathPairs style url).reverse.lookup key) :
    Fields.usable (filledValue? style url key) = Fields.usable ((fieldsOf style url).get? key) := by
  rw [filledValue?, Page.get?_fieldsOf, hpath]
  cases hfilled : (filledPathPairs style url).reverse.lookup key with
  | some value => rfl
  | none =>
    rw [Option.none_or, Option.none_or]
    refine usable_lookup_isFilled fun value hfirst hblank => ?_
    by_contra hlater
    rw [hfilled] at hpath
    exact hhides (.first (lookup_reverse_eq_none_iff.1 hpath) (lookup_reverse_eq_none_iff.1 hfilled) hfirst hblank hlater)

/-- If something else is read of a key in the path, a value is taken for it or lost, unless both come to the same. -/
theorem usable_eq_of_shift (hhides : ¬ Hides .path url key)
    (hpath : readIn? url.pathSegments key ≠ saidIn? url.pathSegments key) :
    Fields.usable (filledValue? .path url key) = Fields.usable ((fieldsOf .path url).get? key) := by
  obtain ⟨before, value, after, hlast, hpart⟩ := exists_isLast hpath
  by_contra hother
  rw [filledValue?_path, get?_fieldsOf_path, hlast.in?_eq.1, hlast.in?_eq.2] at hother
  by_cases hread : due? (before.filter (· ≠ "")) = some key
  · have hsaid : due? before ≠ some key := fun hsaid => hpart (iff_of_true hread hsaid)
    rw [if_pos hread, if_neg hsaid, Option.some_or] at hother
    exact hhides (.taken rfl hlast hread hsaid hother)
  · have hsaid : due? before = some key := by
      by_contra hsaid
      exact hpart (iff_of_false hread hsaid)
    rw [if_neg hread, if_pos hsaid, Option.some_or] at hother
    exact hhides (.lost rfl hlast hread hsaid (Ne.symm hother))

/-- Without its blanks, an address says the same of a key exactly if none of them hides something. -/
theorem usable_filledValue?_iff :
    Fields.usable (filledValue? style url key) = Fields.usable ((fieldsOf style url).get? key) ↔ ¬ Hides style url key := by
  refine ⟨fun hsame hhides => hhides.usable_ne hsame, fun hhides => ?_⟩
  by_cases hpath : (pathPairs style url).reverse.lookup key = (filledPathPairs style url).reverse.lookup key
  · exact usable_eq_of_path hhides hpath
  · cases style with
    | query => exact absurd rfl hpath
    | path => exact usable_eq_of_shift hhides hpath

end Page

end PodAttach

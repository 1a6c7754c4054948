import PodAttach.Proofs.Target.Resolution
import PodAttach.Target.Page

/-!
# Fields that are gathered from pairs

Of the pairs of a query the first under a name that is not empty counts, of pairs that replace one another the last. What
a target is resolved from is less than that: a value only counts as far as it is not blank, and for fields that agree as
far as that goes there is one target, or one fault.
-/

namespace PodAttach

open Text

/-! ### Pairs -/

section

variable {pairs : List (String × String)} {key : String}

theorem lookup_eq_none_of_not_mem (h : key ∉ pairs.map Prod.fst) : pairs.lookup key = none := by
  rw [List.lookup_eq_none_iff]
  intro pair hpair
  have hne : key ≠ pair.1 := fun heq => h (heq ▸ List.mem_map_of_mem hpair)
  simpa using hne

/-- Where no name occurs twice, the first pair under a name is the last one too. -/
theorem lookup_reverse (h : (pairs.map Prod.fst).Nodup) : pairs.reverse.lookup key = pairs.lookup key := by
  induction pairs with
  | nil => rfl
  | cons pair pairs ih =>
    obtain ⟨name, value⟩ := pair
    rw [List.map_cons, List.nodup_cons] at h
    rw [List.reverse_cons, List.lookup_append, ih h.2]
    by_cases hname : key = name
    · subst hname
      rw [lookup_eq_none_of_not_mem h.1, Option.none_or]
      simp
    · have hskip : (key == name) = false := beq_eq_false_iff_ne.2 hname
      simp [List.lookup_cons, hskip]

/-- Where no name occurs twice, a filter on the values takes away the value itself. -/
theorem lookup_filter_value (p : String → Bool) (h : (pairs.map Prod.fst).Nodup) :
    (pairs.filter fun pair => p pair.2).lookup key = (pairs.lookup key).filter p := by
  induction pairs with
  | nil => rfl
  | cons pair pairs ih =>
    obtain ⟨name, value⟩ := pair
    rw [List.map_cons, List.nodup_cons] at h
    have hrest := ih h.2
    by_cases hname : key = name
    · subst hname
      rw [lookup_eq_none_of_not_mem h.1] at hrest
      by_cases hvalue : p value
      · rw [List.filter_cons_of_pos (by exact hvalue), List.lookup_cons_self, List.lookup_cons_self,
          Option.filter_some_pos hvalue]
      · rw [List.filter_cons_of_neg (by exact hvalue), hrest, List.lookup_cons_self, Option.filter_some_neg (by simpa using hvalue)]
        rfl
    · have hskip : (key == name) = false := beq_eq_false_iff_ne.2 hname
      rw [List.filter_cons]
      split
      · rw [List.lookup_cons, List.lookup_cons, hskip, hrest]
      · rw [List.lookup_cons, hskip, hrest]

def notEmpty (pair : String × String) : Bool := pair.2 ≠ ""

theorem lookup_filter (h : (pairs.map Prod.fst).Nodup) :
    (pairs.filter notEmpty).lookup key = (pairs.lookup key).filter (· ≠ "") :=
  lookup_filter_value (· ≠ "") h

end

/-! ### Fields -/

namespace Fields

variable (fields : Fields) (pairs : List (String × String)) (key : String)

/-- Each pair replaces those before it. -/
theorem get?_foldl_insert :
    (pairs.foldl (fun fields (name, value) => fields.insert name value) fields).get? key =
      (pairs.reverse.lookup key).or (fields.get? key) := by
  induction pairs generalizing fields with
  | nil => rfl
  | cons pair pairs ih =>
    obtain ⟨name, value⟩ := pair
    rw [List.foldl_cons, ih, get?_insert, List.reverse_cons, List.lookup_append, Option.or_assoc]
    congr 1
    by_cases hname : key = name
    · simp [hname]
    · simp [List.lookup_cons, hname, beq_eq_false_iff_ne.2 hname]

/-- A pair counts if it is not empty and none before it under the same name counts. -/
theorem get?_foldl_insertIfNew :
    (pairs.foldl (fun fields (name, value) => if value = "" then fields else fields.insertIfNew name value) fields).get?
        key = (fields.get? key).or ((pairs.filter notEmpty).lookup key) := by
  induction pairs generalizing fields with
  | nil => simp
  | cons pair pairs ih =>
    obtain ⟨name, value⟩ := pair
    rw [List.foldl_cons, ih]
    by_cases hvalue : value = ""
    · rw [List.filter_cons_of_neg (by simp [notEmpty, hvalue])]
      simp only [hvalue, if_true]
    · rw [List.filter_cons_of_pos (by simp [notEmpty, hvalue])]
      simp only [hvalue, if_false, get?_insertIfNew]
      by_cases hname : key = name
      · subst hname
        cases fields.get? key <;> simp
      · simp [List.lookup_cons, hname, beq_eq_false_iff_ne.2 hname]

/-- A value as far as a target is resolved from it: without the blanks around it, and only if something is left. -/
def usable (value? : Option String) : Option String := (value?.map trim).filter (· ≠ "")

theorem usable_filter (value? : Option String) : usable (value?.filter (· ≠ "")) = usable value? := by
  cases value? with
  | none => rfl
  | some value =>
    by_cases hvalue : value = ""
    · rw [hvalue]
      rfl
    · rw [Option.filter_some_pos (by simp [hvalue])]

theorem find?_eq (keys : List String) : fields.find? keys = keys.findSome? fun key => usable (fields.get? key) := rfl

end Fields

namespace Page

theorem get?_queryFields (url : Url) (key : String) :
    (queryFields url).get? key = (url.queryPairs.filter notEmpty).lookup key := by
  rw [queryFields, Fields.get?_foldl_insertIfNew, Fields.get?_empty, Option.none_or]

end Page

namespace Target

/-- The keys whose values count. The options are those of a log. -/
def keys (mode : Mode) : List String :=
  ["namespace", "pod", "container", "container_name"] ++ match mode with
    | .logs => ["tail", "follow"]
    | .shell => []

theorem find?_congr {fields other : Fields} {names : List String}
    (h : ∀ key ∈ names, Fields.usable (fields.get? key) = Fields.usable (other.get? key)) :
    fields.find? names = other.find? names := by
  induction names with
  | nil => rfl
  | cons key names ih =>
    have hrest := ih fun key hkey => h key (List.mem_cons_of_mem _ hkey)
    rw [Fields.find?_eq, Fields.find?_eq] at hrest ⊢
    rw [List.findSome?_cons, List.findSome?_cons, h key List.mem_cons_self, hrest]

/-- Fields that agree on the usable values of these keys describe the same target, or have the same fault. -/
theorem resolve_congr_keys {fields other : Fields} {mode : Mode}
    (h : ∀ key ∈ keys mode, Fields.usable (fields.get? key) = Fields.usable (other.get? key)) :
    resolve fields mode = resolve other mode := by
  have hfind : ∀ names ⊆ keys mode, fields.find? names = other.find? names := by
    intro names hnames
    exact find?_congr fun key hkey => h key (hnames hkey)
  have hpod : fields.find? ["pod"] = other.find? ["pod"] := hfind _ (by simp [keys])
  have hcontainer : fields.find? ["container", "container_name"] = other.find? ["container", "container_name"] :=
    hfind _ (by simp [keys])
  have hns : fields.find? ["namespace"] = other.find? ["namespace"] := hfind _ (by simp [keys])
  have hoptions : logOptions mode fields = logOptions mode other := by
    cases mode with
    | shell => rfl
    | logs => rw [logOptions, logOptions, hfind ["tail"] (by simp [keys]), hfind ["follow"] (by simp [keys])]
  rw [resolve, resolve, hpod, hcontainer, hns, hoptions]

/-- Fields with the same usable values describe the same target, or have the same fault. -/
theorem resolve_congr {fields other : Fields}
    (h : ∀ key, Fields.usable (fields.get? key) = Fields.usable (other.get? key)) (mode : Mode) :
    resolve fields mode = resolve other mode :=
  resolve_congr_keys fun key _ => h key

end Target

end PodAttach

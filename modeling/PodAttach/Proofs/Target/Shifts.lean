import Mathlib.Data.List.Induction
import PodAttach.Proofs.Target.Occurrences

/-!
# Keys that take the wrong value

A key of a path has its value right behind it. A path is read without its empty segments, so that a key whose value is
empty waits for the next segment that is not, and what is behind that is shifted. For a key, the two ways of reading come
to the same unless they part at the last segment that holds a value for it in either of them.
-/

namespace PodAttach.Page

/-- The key whose value comes next behind some segments. -/
def due? (segments : List String) : Option String :=
  segments.foldl (fun key? segment => if key?.isSome then none else segmentKey? segment) none

/-- What is read of a key in a path, in which empty segments do not count. -/
def readIn? (segments : List String) (key : String) : Option String :=
  (keyedPairs (segments.filter (· ≠ ""))).reverse.lookup key

/-- What a path says of a key, in which an empty value is none. -/
def saidIn? (segments : List String) (key : String) : Option String :=
  ((keyedPairs segments).filter notEmpty).reverse.lookup key

/-- None of the segments behind some others holds a value for a key, whether empty segments count or not. -/
def IsSilent (key : String) (before : List String) : List String → Prop
  | [] => True
  | value :: after =>
    (value ≠ "" → due? before ≠ some key ∧ due? (before.filter (· ≠ "")) ≠ some key) ∧
      IsSilent key (before ++ [value]) after

/-- A value in a path behind which there is none for a key any more. -/
structure IsLast (key : String) (segments before : List String) (value : String) (after : List String) : Prop where
  segments_eq : segments = before ++ value :: after
  value_ne : value ≠ ""
  silent : IsSilent key (before ++ [value]) after

/-! ### One more segment -/

/-- One more segment makes a pair with the key that is due for it. -/
theorem keyedPairs_concat (segments : List String) (value : String) :
    keyedPairs (segments ++ [value]) = keyedPairs segments ++ ((due? segments).map fun key => (key, value)).toList := by
  induction segments using segmentFields.induct with
  | case1 => exact keyedPairs_singleton
  | case2 segment =>
    have hdue : due? [segment] = segmentKey? segment := rfl
    rw [hdue, List.singleton_append]
    cases hkey : segmentKey? segment with
    | none =>
      rw [keyedPairs_cons_of_none hkey, keyedPairs_singleton, keyedPairs_singleton]
      rfl
    | some key =>
      rw [keyedPairs_cons_of_some hkey, keyedPairs_singleton]
      rfl
  | case3 segment next rest key hkey ih =>
    have hdue : due? (segment :: next :: rest) = due? rest := by simp [due?, hkey]
    rw [hdue, List.cons_append, List.cons_append, keyedPairs_cons_of_some hkey, keyedPairs_cons_of_some hkey, ih,
      List.cons_append]
  | case4 segment next rest hkey ih =>
    have hdue : due? (segment :: next :: rest) = due? (next :: rest) := by simp [due?, hkey]
    rw [hdue, List.cons_append, keyedPairs_cons_of_none hkey, keyedPairs_cons_of_none hkey, ih]

theorem lookup_reverse_concat (pairs : List (String × String)) (due? : Option String) (key value : String) :
    (pairs ++ (due?.map fun key => (key, value)).toList).reverse.lookup key =
      if due? = some key then some value else pairs.reverse.lookup key := by
  cases due? with
  | none => simp
  | some name =>
    by_cases hname : name = key
    · simp [hname]
    · simp [List.lookup_cons, hname, beq_eq_false_iff_ne.2 (Ne.symm hname)]

variable {segments before after : List String} {key value : String}

theorem readIn?_concat (hvalue : value ≠ "") (segments : List String) (key : String) :
    readIn? (segments ++ [value]) key =
      if due? (segments.filter (· ≠ "")) = some key then some value else readIn? segments key := by
  have hfilter : (segments ++ [value]).filter (· ≠ "") = segments.filter (· ≠ "") ++ [value] := by simp [hvalue]
  rw [readIn?, hfilter, keyedPairs_concat, lookup_reverse_concat, readIn?]

theorem saidIn?_concat (hvalue : value ≠ "") (segments : List String) (key : String) :
    saidIn? (segments ++ [value]) key = if due? segments = some key then some value else saidIn? segments key := by
  have hfilter : ((due? segments).map fun key => (key, value)).toList.filter notEmpty =
      ((due? segments).map fun key => (key, value)).toList := by
    cases due? segments <;> simp [notEmpty, hvalue]
  rw [saidIn?, keyedPairs_concat, List.filter_append, hfilter, lookup_reverse_concat, saidIn?]

theorem readIn?_concat_empty (segments : List String) (key : String) :
    readIn? (segments ++ [""]) key = readIn? segments key := by
  have hfilter : (segments ++ [""]).filter (· ≠ "") = segments.filter (· ≠ "") := by simp
  rw [readIn?, hfilter, readIn?]

theorem saidIn?_concat_empty (segments : List String) (key : String) :
    saidIn? (segments ++ [""]) key = saidIn? segments key := by
  have hfilter : ((due? segments).map fun key => (key, "")).toList.filter notEmpty = [] := by
    cases due? segments <;> rfl
  rw [saidIn?, keyedPairs_concat, List.filter_append, hfilter, List.append_nil, saidIn?]

/-! ### Further segments -/

theorem IsSilent.append {middle : List String} (hmiddle : IsSilent key before middle)
    (hafter : IsSilent key (before ++ middle) after) : IsSilent key before (middle ++ after) := by
  induction middle generalizing before with
  | nil => rwa [List.append_nil] at hafter
  | cons value middle ih =>
    rw [← List.singleton_append, ← List.append_assoc] at hafter
    exact ⟨hmiddle.1, ih hmiddle.2 hafter⟩

theorem IsSilent.in?_append (h : IsSilent key before after) :
    readIn? (before ++ after) key = readIn? before key ∧ saidIn? (before ++ after) key = saidIn? before key := by
  induction after generalizing before with
  | nil =>
    rw [List.append_nil]
    exact ⟨rfl, rfl⟩
  | cons value after ih =>
    obtain ⟨hvalue, hafter⟩ := h
    rw [← List.singleton_append, ← List.append_assoc, (ih hafter).1, (ih hafter).2]
    by_cases hempty : value = ""
    · rw [hempty, readIn?_concat_empty, saidIn?_concat_empty]
      exact ⟨rfl, rfl⟩
    · rw [readIn?_concat hempty, saidIn?_concat hempty, if_neg (hvalue hempty).1, if_neg (hvalue hempty).2]
      exact ⟨rfl, rfl⟩

/-- The last value tells what is read of a key, if that is what it is taken for, and what is said of it, if it is that. -/
theorem IsLast.in?_eq (h : IsLast key segments before value after) :
    readIn? segments key =
        (if due? (before.filter (· ≠ "")) = some key then some value else readIn? before key) ∧
      saidIn? segments key = if due? before = some key then some value else saidIn? before key := by
  rw [h.segments_eq, ← List.singleton_append, ← List.append_assoc, h.silent.in?_append.1, h.silent.in?_append.2,
    readIn?_concat h.value_ne, saidIn?_concat h.value_ne]
  exact ⟨rfl, rfl⟩

/-! ### Where the two ways part -/

/-- If something else is read of a key than the path says, then the two ways part at the last value for it. -/
theorem exists_isLast (h : readIn? segments key ≠ saidIn? segments key) :
    ∃ before value after, IsLast key segments before value after ∧
      ¬ (due? (before.filter (· ≠ "")) = some key ↔ due? before = some key) := by
  induction segments using List.reverseRecOn with
  | nil => exact absurd rfl h
  | append_singleton segments next ih =>
    by_cases hsilent : IsSilent key segments [next]
    · rw [hsilent.in?_append.1, hsilent.in?_append.2] at h
      obtain ⟨before, value, after, hlast, hpart⟩ := ih h
      have hfurther : IsSilent key ((before ++ [value]) ++ after) [next] := by
        rw [List.append_assoc, List.singleton_append, ← hlast.segments_eq]
        exact hsilent
      refine ⟨before, value, after ++ [next], ⟨?_, hlast.value_ne, hlast.silent.append hfurther⟩, hpart⟩
      rw [hlast.segments_eq, List.append_assoc, List.cons_append]
    · have hnext : next ≠ "" := fun hempty => hsilent ⟨fun hne => absurd hempty hne, trivial⟩
      refine ⟨segments, next, [], ⟨rfl, hnext, trivial⟩, fun hboth => ?_⟩
      -- a value in both ways would be the same in both
      by_cases hsaid : due? segments = some key
      · rw [readIn?_concat hnext, saidIn?_concat hnext, if_pos hsaid, if_pos (hboth.2 hsaid)] at h
        exact h rfl
      · exact hsilent ⟨fun _ => ⟨hsaid, mt hboth.1 hsaid⟩, trivial⟩

/-- A key whose value is empty takes the name of the next one, whose own value is lost. -/
example : ["pod", "container"].map (readIn? ["pods", "", "containers", "app"]) = [some "containers", none] ∧
    ["pod", "container"].map (saidIn? ["pods", "", "containers", "app"]) = [none, some "app"] := by
  decide

end PodAttach.Page

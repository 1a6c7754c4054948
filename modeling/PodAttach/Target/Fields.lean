import PodAttach.Text.Blank

/-!
# Fields

Texts under names, as a page address or a command line gives them. A name has one value; inserting another replaces it,
and what was there first keeps its place.
-/

namespace PodAttach

structure Fields where
  entries : List (String × String)
deriving DecidableEq, Repr

namespace Fields

def empty : Fields := ⟨[]⟩

def get? (fields : Fields) (key : String) : Option String := fields.entries.lookup key

/-- Puts a value under a name, in place of the one that was there. -/
def insert (fields : Fields) (key value : String) : Fields := ⟨go fields.entries⟩
where
  go : List (String × String) → List (String × String)
    | [] => [(key, value)]
    | (k, v) :: rest => if k = key then (key, value) :: rest else (k, v) :: go rest

/-- Puts a value under a name that has none. -/
def insertIfNew (fields : Fields) (key value : String) : Fields :=
  if (fields.get? key).isSome then fields else fields.insert key value

/-- The first value under one of the names that is not blank, without blanks around it. -/
def find? (fields : Fields) (keys : List String) : Option String :=
  keys.findSome? fun key => ((fields.get? key).map Text.trim).filter (· ≠ "")

@[simp] theorem get?_empty (key : String) : empty.get? key = none := rfl

private theorem lookup_go (key value : String) (entries : List (String × String)) (other : String) :
    (insert.go key value entries).lookup other = if other = key then some value else entries.lookup other := by
  induction entries with
  | nil =>
    by_cases h : other = key
    · simp [insert.go, h]
    · simp [insert.go, List.lookup_cons, h, beq_eq_false_iff_ne.mpr h]
  | cons entry rest ih =>
    obtain ⟨k, v⟩ := entry
    simp only [insert.go]
    by_cases hk : k = key
    · subst hk
      by_cases ho : other = k <;> simp [List.lookup_cons, ho, beq_eq_false_iff_ne.mpr]
    · by_cases ho : other = k
      · subst ho
        simp [hk]
      · simp [List.lookup_cons, hk, ih, beq_eq_false_iff_ne.mpr ho]

theorem get?_insert (fields : Fields) (key value other : String) :
    (fields.insert key value).get? other = if other = key then some value else fields.get? other :=
  lookup_go key value fields.entries other

theorem get?_insertIfNew (fields : Fields) (key value other : String) :
    (fields.insertIfNew key value).get? other =
      if other = key then some ((fields.get? key).getD value) else fields.get? other := by
  unfold insertIfNew
  cases h : fields.get? key with
  | none => simp [get?_insert]
  | some old =>
    by_cases ho : other = key
    · simp [ho, h]
    · simp [ho]

end Fields

end PodAttach

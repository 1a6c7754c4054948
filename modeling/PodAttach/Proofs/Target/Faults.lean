import PodAttach.Proofs.Target.Gathering

/-!
# The faults of a description

Fields describe a target by what they say under a few keys. What is wrong with a description is a list: a pod or a
container that is missing comes first, then the namespace, then the options of a log, and a pod or a container that cannot
be accepted comes last. Resolving fails with the first fault of that list; if the list is empty, it gives the target that
the fields describe.
-/

namespace PodAttach

open Text

namespace Fields

variable (fields : Fields)

theorem find?_one (key : String) : fields.find? [key] = usable (fields.get? key) := by
  rw [find?_eq, List.findSome?_cons, List.findSome?_nil]
  cases usable (fields.get? key) <;> rfl

theorem find?_two (key other : String) :
    fields.find? [key, other] = (usable (fields.get? key)).or (usable (fields.get? other)) := by
  rw [find?_eq, List.findSome?_cons, ← find?_eq, find?_one]
  cases usable (fields.get? key) <;> rfl

end Fields

namespace Target

/-! ### Descriptions -/

/-- What fields say of a target, as far as it counts: without the blanks around a value, and not if nothing else is in it. -/
structure Description where
  ns : Option String
  pod : Option String
  container : Option String
  tail : Option String
  follow : Option String

def describe (fields : Fields) : Description where
  ns := Fields.usable (fields.get? "namespace")
  pod := Fields.usable (fields.get? "pod")
  container := (Fields.usable (fields.get? "container")).or (Fields.usable (fields.get? "container_name"))
  tail := Fields.usable (fields.get? "tail")
  follow := Fields.usable (fields.get? "follow")

/-- A text that can stand in a path as it is. -/
def IsAdmissible (s : String) : Prop := ∀ c ∈ s.toList, isBlank c = false ∧ c ∉ ['/', '?', '#', '%']

instance : DecidablePred IsAdmissible := fun s => List.decidableBAll _ s.toList

def IsTail (s : String) : Prop := (Tail.read? s).isSome

instance : DecidablePred IsTail := fun s => inferInstanceAs (Decidable ((Tail.read? s).isSome = true))

def IsFollow (s : String) : Prop := s ∈ ["true", "false"]

instance : DecidablePred IsFollow := fun s => inferInstanceAs (Decidable (s ∈ ["true", "false"]))

/-! ### Faults -/

def absent (part : Part) : Option String → List Fault
  | some _ => []
  | none => [.missing part]

/-- The fault of a value that is not accepted. A value that is not there has none. -/
def rejected (part : Part) (accepts : String → Prop) [DecidablePred accepts] : Option String → List Fault
  | some value => if accepts value then [] else [.invalid part value]
  | none => []

/-- A namespace that is not there is a fault in a shell. -/
def namespaceFaults (mode : Mode) : Option String → List Fault
  | some ns => rejected .ns IsAdmissible (some ns)
  | none => match mode with
    | .logs => []
    | .shell => [.missingNamespace]

/-- The options of a shell are not looked at. -/
def optionFaults (mode : Mode) (tail follow : Option String) : List Fault :=
  match mode with
  | .logs => rejected .tail IsTail tail ++ rejected .follow IsFollow follow
  | .shell => []

/-- Everything that is wrong with a description, in the order in which it is reported. -/
def Description.faults (d : Description) (mode : Mode) : List Fault :=
  absent .pod d.pod ++ absent .container d.container ++ namespaceFaults mode d.ns ++ optionFaults mode d.tail d.follow ++
    rejected .pod IsAdmissible d.pod ++ rejected .container IsAdmissible d.container

/-- Nothing is wrong with a description. -/
structure Description.IsComplete (d : Description) (mode : Mode) : Prop where
  pod : ∃ pod, d.pod = some pod ∧ IsAdmissible pod
  container : ∃ container, d.container = some container ∧ IsAdmissible container
  ns : (∃ ns, d.ns = some ns ∧ IsAdmissible ns) ∨ d.ns = none ∧ mode = .logs
  tail : mode = .logs → ∀ tail ∈ d.tail, IsTail tail
  follow : mode = .logs → ∀ follow ∈ d.follow, IsFollow follow

/-- The target that a description is of. -/
structure Description.IsOf (d : Description) (mode : Mode) (target : Target) : Prop where
  mode_eq : target.mode = mode
  pod : d.pod = some target.pod
  container : d.container = some target.container
  ns : d.ns = some target.ns ∨ d.ns = none ∧ mode = .logs ∧ target.ns = "default"
  ne_empty : target.ns ≠ "" ∧ target.pod ≠ "" ∧ target.container ≠ ""
  logs : mode = .logs → target.tail = d.tail.bind Tail.read? ∧ d.follow = target.follow.map followText
  shell : mode = .shell → target.tail = none ∧ target.follow = none

theorem absent_eq_nil_iff {part : Part} {value? : Option String} : absent part value? = [] ↔ ∃ value, value? = some value := by
  cases value? <;> simp [absent]

theorem rejected_eq_nil_iff {part : Part} {accepts : String → Prop} [DecidablePred accepts] {value? : Option String} :
    rejected part accepts value? = [] ↔ ∀ value ∈ value?, accepts value := by
  cases value? with
  | none => simp [rejected]
  | some value => simp [rejected]

theorem namespaceFaults_eq_nil_iff {mode : Mode} {ns? : Option String} :
    namespaceFaults mode ns? = [] ↔ (∃ ns, ns? = some ns ∧ IsAdmissible ns) ∨ ns? = none ∧ mode = .logs := by
  cases ns? with
  | some ns => simp [namespaceFaults, rejected]
  | none => cases mode <;> simp [namespaceFaults]

theorem optionFaults_eq_nil_iff {mode : Mode} {tail? follow? : Option String} :
    optionFaults mode tail? follow? = [] ↔
      (mode = .logs → ∀ tail ∈ tail?, IsTail tail) ∧ (mode = .logs → ∀ follow ∈ follow?, IsFollow follow) := by
  cases mode with
  | logs => simp [optionFaults, rejected_eq_nil_iff]
  | shell => simp [optionFaults]

theorem faults_eq_nil_iff {d : Description} {mode : Mode} : d.faults mode = [] ↔ d.IsComplete mode := by
  simp only [Description.faults, List.append_eq_nil_iff, absent_eq_nil_iff, rejected_eq_nil_iff,
    namespaceFaults_eq_nil_iff, optionFaults_eq_nil_iff]
  constructor
  · rintro ⟨⟨⟨⟨⟨⟨pod, hpod⟩, container, hcontainer⟩, hns⟩, htail, hfollow⟩, hpods⟩, hcontainers⟩
    exact ⟨⟨pod, hpod, hpods pod hpod⟩, ⟨container, hcontainer, hcontainers container hcontainer⟩, hns, htail, hfollow⟩
  · rintro ⟨⟨pod, hpod, hpodOk⟩, ⟨container, hcontainer, hcontainerOk⟩, hns, htail, hfollow⟩
    refine ⟨⟨⟨⟨⟨⟨pod, hpod⟩, container, hcontainer⟩, hns⟩, htail, hfollow⟩, ?_⟩, ?_⟩
    · simpa [hpod] using hpodOk
    · simpa [hcontainer] using hcontainerOk

/-! ### Reporting the first fault -/

/-- Fails with the first of some faults, and gives a result if there is none. -/
def Reports {α : Type} (x : Except Fault α) : List Fault → Prop
  | [] => ∃ a, x = .ok a
  | fault :: _ => x = .error fault

variable {α β : Type} {x : Except Fault α} {faults more : List Fault}

theorem Reports.bind {f : α → Except Fault β} (hx : Reports x faults) (hf : ∀ a, x = .ok a → Reports (f a) more) :
    Reports (x >>= f) (faults ++ more) := by
  cases faults with
  | nil =>
    obtain ⟨a, rfl⟩ := hx
    exact hf a rfl
  | cons fault later =>
    obtain rfl : x = .error fault := hx
    exact rfl

theorem Reports.exists_ok_iff (h : Reports x faults) : (∃ a, x = .ok a) ↔ faults = [] := by
  cases faults with
  | nil => exact ⟨fun _ => rfl, fun _ => h⟩
  | cons fault later =>
    obtain rfl : x = .error fault := h
    simp

theorem Reports.eq_error_iff (h : Reports x faults) (fault : Fault) : x = .error fault ↔ faults.head? = some fault := by
  cases faults with
  | nil =>
    obtain ⟨a, rfl⟩ := h
    simp
  | cons first later =>
    obtain rfl : x = .error first := h
    simp

theorem reports_required (part : Part) (value? : Option String) : Reports (required part value?) (absent part value?) := by
  cases value? with
  | none => exact rfl
  | some value => exact ⟨value, rfl⟩

theorem isAdmissible_iff {s : String} : IsAdmissible s ↔ IsSafe s := by
  apply forall₂_congr
  intro c _
  simp [isUnsafe, and_assoc]

theorem reports_coordinate (part : Part) (value : String) :
    Reports (coordinate part value) (rejected part IsAdmissible (some value)) := by
  rw [rejected]
  split
  · next h => exact ⟨value, coordinate_eq_ok_iff.2 ⟨rfl, isAdmissible_iff.1 h⟩⟩
  · next h =>
    rw [isAdmissible_iff, ← any_isUnsafe_eq_false_iff, Bool.not_eq_false] at h
    exact if_pos h

theorem reports_namespaceOf (mode : Mode) (ns? : Option String) :
    Reports (namespaceOf mode ns?) (namespaceFaults mode ns?) := by
  cases ns? with
  | some ns => exact reports_coordinate .ns ns
  | none =>
    cases mode with
    | logs => exact ⟨defaultNamespace, rfl⟩
    | shell => exact rfl

theorem reports_readTail (value : String) : Reports (readTail value) (rejected .tail IsTail (some value)) := by
  rw [readTail, rejected]
  cases hread : Tail.read? value with
  | some tail =>
    rw [if_pos (by simp [IsTail, hread])]
    exact ⟨tail, rfl⟩
  | none =>
    rw [if_neg (by simp [IsTail, hread])]
    exact rfl

theorem reports_readFollow (value : String) : Reports (readFollow value) (rejected .follow IsFollow (some value)) := by
  rw [readFollow, rejected]
  by_cases htrue : value = "true"
  · rw [if_pos htrue, if_pos (by simp [IsFollow, htrue])]
    exact ⟨true, rfl⟩
  by_cases hfalse : value = "false"
  · rw [if_neg htrue, if_pos hfalse, if_pos (by simp [IsFollow, hfalse])]
    exact ⟨false, rfl⟩
  · rw [if_neg htrue, if_neg hfalse, if_neg (by simp [IsFollow, htrue, hfalse])]
    exact rfl

theorem reports_readOptional {read : String → Except Fault α} {part : Part} {accepts : String → Prop}
    [DecidablePred accepts] (h : ∀ value, Reports (read value) (rejected part accepts (some value)))
    (value? : Option String) : Reports (readOptional read value?) (rejected part accepts value?) := by
  cases value? with
  | none => exact ⟨none, rfl⟩
  | some value =>
    have hvalue := h value
    rw [readOptional]
    cases hfaults : rejected part accepts (some value) with
    | nil =>
      rw [hfaults] at hvalue
      obtain ⟨a, ha⟩ := hvalue
      exact ⟨some a, by rw [ha]; rfl⟩
    | cons fault later =>
      rw [hfaults] at hvalue
      have hfault : read value = .error fault := hvalue
      rw [hfault]
      exact rfl

theorem reports_logOptions (mode : Mode) (fields : Fields) :
    Reports (logOptions mode fields) (optionFaults mode (describe fields).tail (describe fields).follow) := by
  cases mode with
  | shell => exact ⟨(none, none), rfl⟩
  | logs =>
    rw [logOptions, fields.find?_one, fields.find?_one, optionFaults]
    refine Reports.bind (reports_readOptional reports_readTail _) fun tail _ => ?_
    rw [← List.append_nil (rejected _ _ _)]
    exact Reports.bind (reports_readOptional reports_readFollow _) fun follow _ => ⟨(tail, follow), rfl⟩

theorem reports_resolve (fields : Fields) (mode : Mode) :
    Reports (resolve fields mode) ((describe fields).faults mode) := by
  rw [resolve, Description.faults, fields.find?_one, fields.find?_one, fields.find?_two]
  simp only [List.append_assoc]
  refine Reports.bind (reports_required .pod _) fun pod hpod => ?_
  refine Reports.bind (reports_required .container _) fun container hcontainer => ?_
  refine Reports.bind (reports_namespaceOf mode _) fun ns _ => ?_
  refine Reports.bind (reports_logOptions mode fields) fun options _ => ?_
  have hpod : (describe fields).pod = some pod := required_eq_ok_iff.1 hpod
  have hcontainer : (describe fields).container = some container := required_eq_ok_iff.1 hcontainer
  rw [hpod, hcontainer]
  refine Reports.bind (reports_coordinate .pod pod) fun pod _ => ?_
  rw [← List.append_nil (rejected _ _ _)]
  exact Reports.bind (reports_coordinate .container container) fun container _ => ⟨_, rfl⟩

/-! ### The target -/

theorem of_namespaceOf {mode : Mode} {ns? : Option String} {ns : String} (h : namespaceOf mode ns? = .ok ns) :
    ns? = some ns ∨ ns? = none ∧ mode = .logs ∧ ns = "default" := by
  cases ns? with
  | some value =>
    obtain ⟨rfl, -⟩ := coordinate_eq_ok_iff.1 h
    exact .inl rfl
  | none =>
    cases mode with
    | logs => exact .inr ⟨rfl, rfl, (Except.ok.inj h).symm⟩
    | shell => cases h

theorem of_readOptional {read : String → Except Fault α} {value? : Option String} {a? : Option α}
    (h : readOptional read value? = .ok a?) :
    value? = none ∧ a? = none ∨ ∃ value a, value? = some value ∧ a? = some a ∧ read value = .ok a := by
  cases value? with
  | none => exact .inl ⟨rfl, (Except.ok.inj h).symm⟩
  | some value =>
    rw [readOptional] at h
    cases hread : read value with
    | error fault =>
      rw [hread] at h
      cases h
    | ok a =>
      rw [hread] at h
      exact .inr ⟨value, a, rfl, (Except.ok.inj h).symm, hread⟩

theorem read?_of_readTail {value : String} {tail : Tail} (h : readTail value = .ok tail) :
    Tail.read? value = some tail := by
  rw [readTail] at h
  split at h
  · next heq => rw [heq, Except.ok.inj h]
  · cases h

theorem eq_followText_of_readFollow {value : String} {follow : Bool} (h : readFollow value = .ok follow) :
    value = followText follow := by
  rw [readFollow] at h
  split at h
  · next htrue => rw [htrue, ← Except.ok.inj h, followText, if_pos rfl]
  · split at h
    · next hfalse => rw [hfalse, ← Except.ok.inj h, followText, if_neg (by decide)]
    · cases h

theorem isOf_of_resolve {fields : Fields} {mode : Mode} {target : Target} (h : resolve fields mode = .ok target) :
    (describe fields).IsOf mode target := by
  have hsound := sound_of_resolve h
  obtain ⟨⟨hpod, -⟩, ⟨hcontainer, -⟩, hns, hoptions, hmode⟩ := resolve_eq_ok_iff.1 h
  rw [fields.find?_one] at hpod hns
  rw [fields.find?_two] at hcontainer
  refine ⟨hmode.symm, hpod, hcontainer, of_namespaceOf hns,
    ⟨hsound.ns.ne_empty, hsound.pod.ne_empty, hsound.container.ne_empty⟩, ?_, ?_⟩
  · rintro rfl
    simp only [logOptions, bind_eq_ok_iff, fields.find?_one] at hoptions
    obtain ⟨tail, htail, follow, hfollow, heq⟩ := hoptions
    obtain ⟨rfl, rfl⟩ := Prod.mk.inj (Except.ok.inj heq)
    constructor
    · rcases of_readOptional htail with ⟨hnone, hgiven⟩ | ⟨value, tail, hsome, hgiven, hread⟩
      · simp [describe, hnone, hgiven]
      · simp [describe, hsome, hgiven, read?_of_readTail hread]
    · rcases of_readOptional hfollow with ⟨hnone, hgiven⟩ | ⟨value, follow, hsome, hgiven, hread⟩
      · simp [describe, hnone, hgiven]
      · simp [describe, hsome, hgiven, eq_followText_of_readFollow hread]
  · intro hshell
    exact hsound.shell (hmode.symm.trans hshell)

/-- Resolving is exact. It gives a target if nothing is wrong with the description, the target is the one described, and
otherwise the first thing that is wrong is reported. No other key and no blank around a value has a say. -/
theorem resolve_iff (fields : Fields) (mode : Mode) :
    ((∃ target, resolve fields mode = .ok target) ↔ (describe fields).IsComplete mode) ∧
    (∀ target, resolve fields mode = .ok target → (describe fields).IsOf mode target) ∧
    (∀ fault, resolve fields mode = .error fault ↔ ((describe fields).faults mode).head? = some fault) ∧
    ∀ other : Fields, (∀ key ∈ keys mode, Fields.usable (other.get? key) = Fields.usable (fields.get? key)) →
      resolve other mode = resolve fields mode := by
  have hreports := reports_resolve fields mode
  refine ⟨hreports.exists_ok_iff.trans faults_eq_nil_iff, fun target => isOf_of_resolve, hreports.eq_error_iff, ?_⟩
  intro other hsame
  exact resolve_congr_keys hsame

example : (describe ⟨[("pod", "a/b"), ("container", " "), ("container_name", " c "), ("tail", "-5")]⟩).faults .logs =
    [.invalid .tail "-5", .invalid .pod "a/b"] := by decide

end Target

end PodAttach

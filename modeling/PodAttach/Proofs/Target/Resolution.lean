import PodAttach.Proofs.Json.Numerals
import PodAttach.Target.Resolve

/-!
# What a resolved target says

When fields resolve, and to what. The parts of a target are words without blanks, so that they are found again as they
are; its options are written as texts that are read back as the same options.
-/

namespace PodAttach

open Text

/-! ### Words -/

/-- A text that is not empty and holds no blank. -/
structure IsWord (s : String) : Prop where
  ne_empty : s ≠ ""
  isBlank_of_mem : ∀ c ∈ s.toList, isBlank c = false

theorem dropWhile_eq_self {α : Type} {p : α → Bool} {xs : List α} (h : ∀ x ∈ xs, p x = false) : xs.dropWhile p = xs := by
  cases xs with
  | nil => rfl
  | cons x xs => rw [List.dropWhile_cons, if_neg (by simp [h x List.mem_cons_self])]

theorem IsWord.trim_eq {s : String} (h : IsWord s) : trim s = s := by
  have hreverse : ∀ c ∈ s.toList.reverse, isBlank c = false := fun c hc => h.isBlank_of_mem c (List.mem_reverse.1 hc)
  rw [trim, strip, dropWhile_eq_self h.isBlank_of_mem, dropWhile_eq_self hreverse, List.reverse_reverse,
    String.ofList_toList]

namespace Fields

variable {fields : Fields} {key value : String} {keys : List String}

theorem find?_of_get? (h : fields.get? key = some value) (hword : IsWord value) :
    fields.find? (key :: keys) = some value := by
  have hkeep : Option.filter (· ≠ "") (some value) = some value := Option.filter_some_pos (by simp [hword.ne_empty])
  rw [find?, List.findSome?_cons, h, Option.map_some, hword.trim_eq, hkeep]

theorem find?_of_get?_eq_none (h : fields.get? key = none) : fields.find? (key :: keys) = fields.find? keys := by
  rw [find?, find?, List.findSome?_cons, h]
  rfl

theorem ne_empty_of_find? (h : fields.find? keys = some value) : value ≠ "" := by
  obtain ⟨key, -, hkey⟩ := List.exists_of_findSome?_eq_some h
  simpa using (Option.filter_eq_some_iff.1 hkey).2

end Fields

/-! ### Options -/

theorem exists_eq_digitChar {c : Char} (h : c.isDigit = true) : ∃ n < 10, c = n.digitChar := by
  simp only [Char.isDigit, Bool.and_eq_true, decide_eq_true_eq] at h
  have hlow : 48 ≤ c.toNat := h.1
  have hhigh : c.toNat ≤ 57 := h.2
  refine ⟨c.toNat - 48, by omega, Char.toNat_inj.1 ?_⟩
  rw [Nat.toNat_digitChar_of_lt_ten (by omega)]
  omega

theorem isBlank_of_isDigit {c : Char} (h : c.isDigit = true) : isBlank c = false := by
  obtain ⟨n, hn, rfl⟩ := exists_eq_digitChar h
  have hall : ∀ m < 10, isBlank (Nat.digitChar m) = false := by decide
  exact hall n hn

theorem toLower_ne_of_isDigit {c : Char} (h : c.isDigit = true) : c.toLower ≠ 'a' := by
  obtain ⟨n, hn, rfl⟩ := exists_eq_digitChar h
  have hall : ∀ m < 10, (Nat.digitChar m).toLower ≠ 'a' := by decide
  exact hall n hn

theorem readDigits?_toDigits (n : Nat) : readDigits? (Nat.toDigits 10 n) = some n := by
  have hdigits : (Nat.toDigits 10 n).all Char.isDigit = true :=
    List.all_eq_true.2 fun c hc => Nat.isDigit_of_mem_toDigits (by decide) (by decide) hc
  have hne : (Nat.toDigits 10 n).isEmpty = false := by simp
  rw [readDigits?, hdigits, hne, Json.digitsValue_toDigits]
  rfl

namespace Tail

theorem toList_render_lines (count : UInt64) : (lines count).render.toList = Nat.toDigits 10 count.toNat := by
  rw [render, Nat.repr, String.toList_ofList]

theorem exists_toDigits_eq_cons (n : Nat) : ∃ c more, Nat.toDigits 10 n = c :: more ∧ c.isDigit = true := by
  obtain ⟨c, more, hcons⟩ := List.exists_cons_of_ne_nil (Nat.toDigits_ne_nil (n := n) (b := 10))
  exact ⟨c, more, hcons, Nat.isDigit_of_mem_toDigits (b := 10) (by decide) (by decide) (hcons ▸ List.mem_cons_self)⟩

theorem isWord_render (tail : Tail) : IsWord tail.render := by
  cases tail with
  | all => exact ⟨by decide, by simp [render, isBlank]⟩
  | lines count =>
    refine ⟨fun hempty => ?_, fun c hc => ?_⟩
    · have hlist := congrArg String.toList hempty
      rw [toList_render_lines] at hlist
      exact Nat.toDigits_ne_nil hlist
    · rw [toList_render_lines] at hc
      exact isBlank_of_isDigit (Nat.isDigit_of_mem_toDigits (by decide) (by decide) hc)

theorem read?_render (tail : Tail) : Tail.read? tail.render = some tail := by
  cases tail with
  | all => rfl
  | lines count =>
    obtain ⟨c, more, hcons, hdigit⟩ := exists_toDigits_eq_cons count.toNat
    have hdigits := readDigits?_toDigits count.toNat
    have hplus : c ≠ '+' := Json.ne_of_isDigit hdigit (by decide)
    rw [hcons] at hdigits
    rw [read?, toList_render_lines, hcons]
    simp [toLower_ne_of_isDigit hdigit, hplus, hdigits, count.toNat_lt]

end Tail

namespace Target

/-! ### Resolving -/

theorem bind_eq_ok_iff {α β ε : Type} {x : Except ε α} {f : α → Except ε β} {b : β} :
    x >>= f = .ok b ↔ ∃ a, x = .ok a ∧ f a = .ok b := by
  cases x <;> simp [bind, Except.bind]

theorem bind_eq_error_iff {α β ε : Type} {x : Except ε α} {f : α → Except ε β} {e : ε} :
    x >>= f = .error e ↔ x = .error e ∨ ∃ a, x = .ok a ∧ f a = .error e := by
  cases x <;> simp [bind, Except.bind]

theorem required_eq_ok_iff {part : Part} {value? : Option String} {value : String} :
    required part value? = .ok value ↔ value? = some value := by
  cases value? <;> simp [required]

/-- Holds nothing that means something to a URL. -/
def IsSafe (s : String) : Prop := ∀ c ∈ s.toList, isUnsafe c = false

theorem any_isUnsafe_eq_false_iff {s : String} : s.toList.any isUnsafe = false ↔ IsSafe s := by simp [IsSafe]

theorem coordinate_eq_ok_iff {part : Part} {value s : String} :
    coordinate part value = .ok s ↔ value = s ∧ IsSafe s := by
  rw [coordinate]
  cases hany : value.toList.any isUnsafe with
  | true =>
    refine ⟨fun h => by simp at h, ?_⟩
    rintro ⟨rfl, hsafe⟩
    rw [any_isUnsafe_eq_false_iff.2 hsafe] at hany
    simp at hany
  | false =>
    refine ⟨fun h => ?_, fun h => by simp [h.1]⟩
    obtain rfl : value = s := by simpa using h
    exact ⟨rfl, any_isUnsafe_eq_false_iff.1 hany⟩

variable {fields : Fields} {mode : Mode} {target : Target}

theorem resolve_eq_ok_iff :
    resolve fields mode = .ok target ↔
      (fields.find? ["pod"] = some target.pod ∧ IsSafe target.pod) ∧
      (fields.find? ["container", "container_name"] = some target.container ∧ IsSafe target.container) ∧
      namespaceOf mode (fields.find? ["namespace"]) = .ok target.ns ∧
      logOptions mode fields = .ok (target.tail, target.follow) ∧ mode = target.mode := by
  simp only [resolve, bind_eq_ok_iff, required_eq_ok_iff, coordinate_eq_ok_iff, Prod.exists, pure, Except.pure,
    Except.ok.injEq]
  constructor
  · rintro ⟨pod, hpod, container, hcontainer, ns, hns, tail, follow, hoptions, _, ⟨rfl, hpodSafe⟩, _,
      ⟨rfl, hcontainerSafe⟩, rfl⟩
    exact ⟨⟨hpod, hpodSafe⟩, ⟨hcontainer, hcontainerSafe⟩, hns, hoptions, rfl⟩
  · rintro ⟨⟨hpod, hpodSafe⟩, ⟨hcontainer, hcontainerSafe⟩, hns, hoptions, rfl⟩
    exact ⟨_, hpod, _, hcontainer, _, hns, _, _, hoptions, _, ⟨rfl, hpodSafe⟩, _, ⟨rfl, hcontainerSafe⟩, rfl⟩

/-- A text that can be a part of a target. -/
structure IsCoordinate (s : String) : Prop where
  ne_empty : s ≠ ""
  isSafe : IsSafe s

theorem IsCoordinate.isWord {s : String} (h : IsCoordinate s) : IsWord s where
  ne_empty := h.ne_empty
  isBlank_of_mem := by
    intro c hc
    have hsafe := h.isSafe c hc
    simp only [isUnsafe, Bool.or_eq_false_iff] at hsafe
    exact hsafe.1.1.1.1

/-- What is known of every target that some fields describe. -/
structure Sound (target : Target) : Prop where
  ns : IsCoordinate target.ns
  pod : IsCoordinate target.pod
  container : IsCoordinate target.container
  shell : target.mode = .shell → target.tail = none ∧ target.follow = none

theorem isCoordinate_of_namespaceOf {value? : Option String} {ns : String}
    (hne : ∀ value, value? = some value → value ≠ "") (h : namespaceOf mode value? = .ok ns) : IsCoordinate ns := by
  cases value? with
  | some value =>
    obtain ⟨rfl, hsafe⟩ := coordinate_eq_ok_iff.1 h
    exact ⟨hne value rfl, hsafe⟩
  | none =>
    cases mode with
    | logs =>
      obtain rfl : defaultNamespace = ns := by simpa [namespaceOf] using h
      exact ⟨by decide, by simp [IsSafe, defaultNamespace, isUnsafe, isBlank]⟩
    | shell => simp [namespaceOf] at h

theorem sound_of_resolve (h : resolve fields mode = .ok target) : target.Sound := by
  obtain ⟨⟨hpod, hpodSafe⟩, ⟨hcontainer, hcontainerSafe⟩, hns, hoptions, rfl⟩ := resolve_eq_ok_iff.1 h
  refine ⟨isCoordinate_of_namespaceOf (fun value => Fields.ne_empty_of_find?) hns,
    ⟨Fields.ne_empty_of_find? hpod, hpodSafe⟩, ⟨Fields.ne_empty_of_find? hcontainer, hcontainerSafe⟩, fun hshell => ?_⟩
  rw [hshell] at hoptions
  obtain ⟨htail, hfollow⟩ : none = target.tail ∧ none = target.follow := by simpa [logOptions] using hoptions
  exact ⟨htail.symm, hfollow.symm⟩

/-- A follow option as it is written. -/
def followText (follow : Bool) : String := if follow then "true" else "false"

theorem isWord_followText (follow : Bool) : IsWord (followText follow) := by
  cases follow <;> exact ⟨by decide, by simp [followText, isBlank]⟩

theorem readFollow_followText (follow : Bool) : readFollow (followText follow) = .ok follow := by
  cases follow <;> rfl

theorem readOptional_map {α : Type} {read : String → Except Fault α} {write : α → String}
    (h : ∀ a, read (write a) = .ok a) (value? : Option α) : readOptional read (value?.map write) = .ok value? := by
  cases value? with
  | none => rfl
  | some value => exact congrArg (Except.map some) (h value)

theorem readTail_render (tail : Tail) : readTail tail.render = .ok tail := by rw [readTail, Tail.read?_render]

/-- Fields that hold what a target says describe that target. -/
theorem Sound.resolve_eq (h : target.Sound) (hns : fields.find? ["namespace"] = some target.ns)
    (hpod : fields.find? ["pod"] = some target.pod)
    (hcontainer : fields.find? ["container", "container_name"] = some target.container)
    (htail : fields.find? ["tail"] = target.tail.map Tail.render)
    (hfollow : fields.find? ["follow"] = target.follow.map followText) :
    resolve fields target.mode = .ok target := by
  refine resolve_eq_ok_iff.2 ⟨⟨hpod, h.pod.isSafe⟩, ⟨hcontainer, h.container.isSafe⟩, ?_, ?_, rfl⟩
  · rw [hns]
    exact coordinate_eq_ok_iff.2 ⟨rfl, h.ns.isSafe⟩
  · cases hmode : target.mode with
    | logs =>
      rw [logOptions, htail, hfollow, readOptional_map readTail_render, readOptional_map readFollow_followText]
      rfl
    | shell =>
      obtain ⟨htail, hfollow⟩ := h.shell hmode
      rw [htail, hfollow]
      rfl

end Target

end PodAttach

/-!
# Texts that are cut

A text that is cut at the first of some characters, or at each of them. Cutting undoes joining, since a part holds none
of the characters that it was cut at.
-/

namespace PodAttach.Text

/-! ### Cutting once -/

variable {c : Char} {cs : List Char}

theorem dropWhile_ne_append (h : c ∉ cs) (rest : List Char) : (cs ++ c :: rest).dropWhile (· != c) = c :: rest := by
  rw [List.dropWhile_append_of_pos fun d hd => by simpa using fun heq : d = c => h (heq ▸ hd)]
  simp

theorem takeWhile_ne_append (h : c ∉ cs) (rest : List Char) : (cs ++ c :: rest).takeWhile (· != c) = cs := by
  rw [List.takeWhile_append_of_pos fun d hd => by simpa using fun heq : d = c => h (heq ▸ hd)]
  simp

theorem dropWhile_ne_eq_nil (h : c ∉ cs) : cs.dropWhile (· != c) = [] := by
  have happend : (cs ++ []).dropWhile (· != c) = List.dropWhile (· != c) [] :=
    List.dropWhile_append_of_pos fun d hd => by simpa using fun heq : d = c => h (heq ▸ hd)
  simpa using happend

theorem takeWhile_ne_eq_self (h : c ∉ cs) : cs.takeWhile (· != c) = cs := by
  have happend : (cs ++ []).takeWhile (· != c) = cs ++ List.takeWhile (· != c) [] :=
    List.takeWhile_append_of_pos fun d hd => by simpa using fun heq : d = c => h (heq ▸ hd)
  simpa using happend

section

variable {α : Type} {p : α → Bool} {xs : List α} (h : ∃ x ∈ xs, p x = false) (ys : List α)
include h

/-- A text that is cut somewhere can go on in any way. -/
theorem takeWhile_append_of_exists : (xs ++ ys).takeWhile p = xs.takeWhile p := by
  induction xs with
  | nil => simp at h
  | cons x xs ih =>
    rw [List.cons_append, List.takeWhile_cons, List.takeWhile_cons]
    cases hx : p x with
    | false => rfl
    | true =>
      simp only [List.mem_cons, exists_eq_or_imp, hx, Bool.true_eq_false, false_or] at h
      rw [if_pos rfl, if_pos rfl, ih h]

theorem dropWhile_append_of_exists : (xs ++ ys).dropWhile p = xs.dropWhile p ++ ys := by
  induction xs with
  | nil => simp at h
  | cons x xs ih =>
    rw [List.cons_append, List.dropWhile_cons, List.dropWhile_cons]
    cases hx : p x with
    | false => rfl
    | true =>
      simp only [List.mem_cons, exists_eq_or_imp, hx, Bool.true_eq_false, false_or] at h
      rw [if_pos rfl, if_pos rfl, ih h]

end

/-! ### Cutting everywhere -/

variable {p : Char → Bool}

theorem splitOnP_intercalate (hc : p c = true) {parts : List (List Char)}
    (hparts : ∀ part ∈ parts, ∀ d ∈ part, p d = false) (hne : parts ≠ []) : ([c].intercalate parts).splitOnP p = parts := by
  induction parts with
  | nil => exact absurd rfl hne
  | cons part parts ih =>
    have hpart : ∀ d ∈ part, p d = false := hparts part List.mem_cons_self
    cases parts with
    | nil => rw [List.intercalate_singleton, List.splitOnP_eq_singleton hpart]
    | cons next parts =>
      have hmore := ih (fun other hother => hparts other (List.mem_cons_of_mem part hother)) (by simp)
      rw [List.intercalate_cons_cons, List.append_assoc, List.singleton_append,
        List.splitOnP_append_cons_of_forall_mem hpart c hc, hmore]

theorem forall_mem_intercalate {P : Char → Prop} (hc : P c) {parts : List (List Char)}
    (hparts : ∀ part ∈ parts, ∀ d ∈ part, P d) : ∀ d ∈ [c].intercalate parts, P d := by
  induction parts with
  | nil => simp
  | cons part parts ih =>
    have hpart : ∀ d ∈ part, P d := hparts part List.mem_cons_self
    cases parts with
    | nil => rwa [List.intercalate_singleton]
    | cons next parts =>
      have hmore := ih fun other hother => hparts other (List.mem_cons_of_mem part hother)
      rw [List.intercalate_cons_cons, List.append_assoc, List.singleton_append, List.forall_mem_append,
        List.forall_mem_cons]
      exact ⟨hpart, hc, hmore⟩

/-- A part holds nothing but what was cut, and nothing that it was cut at. -/
theorem of_mem_splitOnP {part : List Char} (hpart : part ∈ cs.splitOnP p) : ∀ d ∈ part, d ∈ cs ∧ p d = false := by
  induction cs generalizing part with
  | nil =>
    rw [List.splitOnP_nil, List.mem_singleton] at hpart
    simp [hpart]
  | cons first cs ih =>
    have hlater : ∀ {other}, other ∈ cs.splitOnP p → ∀ d ∈ other, d ∈ first :: cs ∧ p d = false := fun hother d hd =>
      ⟨List.mem_cons_of_mem first (ih hother d hd).1, (ih hother d hd).2⟩
    rw [List.splitOnP_cons_eq_if_modifyHead] at hpart
    split at hpart
    · rcases List.mem_cons.1 hpart with rfl | hmem
      · simp
      · exact hlater hmem
    · next hfirst =>
      obtain ⟨head, more, hsplit⟩ := List.exists_cons_of_ne_nil (List.splitOnP_ne_nil p cs)
      rw [hsplit] at hpart hlater
      rcases List.mem_cons.1 hpart with rfl | hmem
      · exact List.forall_mem_cons.2 ⟨⟨List.mem_cons_self, by simpa using hfirst⟩, hlater List.mem_cons_self⟩
      · exact hlater (List.mem_cons_of_mem head hmem)

end PodAttach.Text

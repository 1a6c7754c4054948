import PodAttach.Proofs.Url.Percent
import PodAttach.Proofs.Url.Reading
import PodAttach.Proofs.Url.Segments

/-!
# Names in a URL

Letters, digits, hyphens, underscores and points stand in a path and in a query as they are, and so does the percent sign
of an escaped byte. So the segments of a path of names are these names, and a form of such texts holds the pairs that were
written into it.
-/

namespace PodAttach.Url

open Text

/-! ### Characters -/

/-- A character that neither a path nor a query takes for anything but itself. -/
structure IsPlain (c : Char) : Prop extends IsVisible c where
  isSlash_eq : Scheme.http.isSlash c = false
  pathSet_eq : pathSet c = false
  querySet_eq : specialQuerySet c = false

theorem IsPlain.ne_mark {c : Char} (h : IsPlain c) : c ≠ '?' ∧ c ≠ '#' := by
  have hne : ∀ d, pathSet d = true → c ≠ d := by
    rintro d hd rfl
    rw [h.pathSet_eq] at hd
    contradiction
  exact ⟨hne '?' (by decide), hne '#' (by decide)⟩

theorem isPlain_of_eq {c : Char}
    (h : isBlank c = false ∧ ¬c ≤ ' ' ∧ Scheme.http.isSlash c = false ∧ pathSet c = false ∧ specialQuerySet c = false) :
    IsPlain c :=
  ⟨⟨h.1, h.2.1⟩, h.2.2.1, h.2.2.2.1, h.2.2.2.2⟩

def isNameChar (c : Char) : Bool := c.isAlphanum || c == '-' || c == '_' || c == '.'

theorem toNat_lt_of_isAlphanum {c : Char} (h : c.isAlphanum = true) : c.toNat < 128 := by
  have hranges : (('A'.val ≤ c.val ∧ c.val ≤ 'Z'.val) ∨ 'a'.val ≤ c.val ∧ c.val ≤ 'z'.val) ∨
      '0'.val ≤ c.val ∧ c.val ≤ '9'.val := by
    have hbounds : (decide ('A'.val ≤ c.val ∧ c.val ≤ 'Z'.val) || ('a'.val ≤ c.val && c.val ≤ 'z'.val) ||
        ('0'.val ≤ c.val && c.val ≤ '9'.val)) = true := h
    simpa only [Bool.or_eq_true, Bool.and_eq_true, decide_eq_true_eq] using hbounds
  have hle : ∀ {n : UInt32}, n.toNat < 128 → c.val ≤ n → c.toNat < 128 := fun hn hc =>
    Nat.lt_of_le_of_lt (UInt32.le_iff_toNat_le.1 hc) hn
  rcases hranges with (⟨-, hc⟩ | ⟨-, hc⟩) | ⟨-, hc⟩ <;> exact hle (by decide) hc

theorem isPlain_of_isNameChar {c : Char} (h : isNameChar c = true) : IsPlain c := by
  have hascii : c.toNat < 128 := by
    simp only [isNameChar, Bool.or_eq_true, beq_iff_eq] at h
    rcases h with ((h | rfl) | rfl) | rfl
    · exact toNat_lt_of_isAlphanum h
    all_goals decide
  have hall : ∀ n < 128, isNameChar (Char.ofNat n) = true →
      isBlank (Char.ofNat n) = false ∧ ¬Char.ofNat n ≤ ' ' ∧ Scheme.http.isSlash (Char.ofNat n) = false ∧
        pathSet (Char.ofNat n) = false ∧ specialQuerySet (Char.ofNat n) = false := by decide
  have hfacts := hall c.toNat hascii
  rw [Char.ofNat_toNat] at hfacts
  exact isPlain_of_eq (hfacts h)

/-! ### Names -/

/-- A text that a path keeps as a segment of its own. -/
structure IsName (s : String) : Prop where
  ne_empty : s ≠ ""
  isNameChar_of_mem : ∀ c ∈ s.toList, isNameChar c = true
  ne_dot : s ≠ "."
  ne_dots : s ≠ ".."

instance (s : String) : Decidable (IsName s) :=
  decidable_of_iff (s ≠ "" ∧ s.toList.all isNameChar = true ∧ s ≠ "." ∧ s ≠ "..")
    ⟨fun ⟨hempty, hchars, hdot, hdots⟩ => ⟨hempty, List.all_eq_true.1 hchars, hdot, hdots⟩,
      fun h => ⟨h.ne_empty, List.all_eq_true.2 h.isNameChar_of_mem, h.ne_dot, h.ne_dots⟩⟩

namespace IsName

variable {s : String} (h : IsName s)
include h

theorem isPlain_of_mem : ∀ c ∈ s.toList, IsPlain c := fun c hc => isPlain_of_isNameChar (h.isNameChar_of_mem c hc)

theorem not_mem {c : Char} (hc : isNameChar c = false) : c ∉ s.toList := by
  intro hmem
  rw [h.isNameChar_of_mem c hmem] at hc
  contradiction

theorem formText_eq : formText s.toList = s := by
  rw [formText_eq_ofList (h.not_mem (by decide)) (h.not_mem (by decide)), String.ofList_toList]

theorem isDotSegment_eq : isDotSegment s.toList = false :=
  (isDotSegment_toList_iff (h.not_mem (by decide))).2 ⟨h.ne_dot, h.ne_dots⟩

end IsName

section

variable {names : List String} (h : ∀ name ∈ names, IsName name)
include h

theorem forall_mem_path {P : Char → Prop} (hslash : P '/') (hplain : ∀ c, IsPlain c → P c) :
    ∀ c ∈ ['/'].intercalate (names.map String.toList), P c := by
  refine forall_mem_intercalate hslash fun part hpart c hc => ?_
  obtain ⟨name, hname, rfl⟩ := List.mem_map.1 hpart
  exact hplain c ((h name hname).isPlain_of_mem c hc)

/-- The segments of a path of names are these names. -/
theorem segmentsOn_names (hne : names ≠ []) :
    (segmentsOn .http [] (['/'].intercalate (names.map String.toList))).map String.ofList = names := by
  have hslash : ∀ part ∈ names.map String.toList, ∀ c ∈ part, Scheme.http.isSlash c = false := by
    intro part hpart c hc
    obtain ⟨name, hname, rfl⟩ := List.mem_map.1 hpart
    exact ((h name hname).isPlain_of_mem c hc).isSlash_eq
  have hdots : ∀ part ∈ names.map String.toList, isDotSegment part = false := by
    intro part hpart
    obtain ⟨name, hname, rfl⟩ := List.mem_map.1 hpart
    exact (h name hname).isDotSegment_eq
  have hkept : ∀ name ∈ names, String.ofList (percentEncode pathSet name.toList) = id name := by
    intro name hname
    rw [percentEncode_eq_self fun c hc => ((h name hname).isPlain_of_mem c hc).pathSet_eq, String.ofList_toList]
    rfl
  rw [segmentsOn_intercalate (by decide) (by simpa using hne) hslash hdots, List.map_map, List.map_map]
  exact (List.map_congr_left hkept).trans (List.map_id names)

end

/-! ### Forms -/

/-- A text of name characters and escaped bytes. -/
def IsFormText (s : String) : Prop := ∀ c ∈ s.toList, isNameChar c = true ∨ c = '%'

theorem IsName.isFormText {s : String} (h : IsName s) : IsFormText s := fun c hc => .inl (h.isNameChar_of_mem c hc)

namespace IsFormText

variable {s : String} (h : IsFormText s)
include h

theorem isPlain_of_mem : ∀ c ∈ s.toList, IsPlain c := by
  intro c hc
  rcases h c hc with hname | rfl
  · exact isPlain_of_isNameChar hname
  · exact isPlain_of_eq (by decide)

theorem not_mem {c : Char} (hname : isNameChar c = false) (hsign : c ≠ '%') : c ∉ s.toList := by
  intro hmem
  rcases h c hmem with hmem | hmem
  · rw [hname] at hmem
    contradiction
  · exact hsign hmem

end IsFormText

section

variable {pairs : List (String × String)} (h : ∀ pair ∈ pairs, IsFormText pair.1 ∧ IsFormText pair.2)
include h

theorem isPlain_of_mem_formOf : ∀ c ∈ (formOf pairs).toList, IsPlain c := by
  rw [toList_formOf]
  refine forall_mem_intercalate (isPlain_of_eq (by decide)) fun part hpart => ?_
  obtain ⟨pair, hpair, rfl⟩ := List.mem_map.1 hpart
  exact List.forall_mem_append.2
    ⟨(h pair hpair).1.isPlain_of_mem,
      List.forall_mem_cons.2 ⟨isPlain_of_eq (by decide), (h pair hpair).2.isPlain_of_mem⟩⟩

theorem formPairs_eq_map :
    formPairs (formOf pairs).toList = pairs.map fun (name, value) => (formText name.toList, formText value.toList) :=
  formPairs_formOf
    (fun pair hpair =>
      ⟨(h pair hpair).1.not_mem (by decide) (by decide), (h pair hpair).2.not_mem (by decide) (by decide)⟩)
    fun pair hpair => (h pair hpair).1.not_mem (by decide) (by decide)

end

end PodAttach.Url

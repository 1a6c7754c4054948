import PodAttach.Proofs.Text.Cutting
import PodAttach.Url.Path

/-!
# The segments of a path

Under every scheme but `file` a path keeps each of its segments, percent-encoded, apart from the dot segments. Those are
never kept: a path is what was written exactly if nothing in it is a dot segment.
-/

namespace PodAttach.Url

open Text

def isDotSegment (segment : List Char) : Bool := isSingleDot segment || isDoubleDot segment

theorem readDots_eq_self {cs : List Char} (h : '%' ∉ cs) : readDots cs = cs := by
  induction cs with
  | nil => rfl
  | cons c cs ih =>
    rw [List.mem_cons, not_or] at h
    obtain ⟨hc, hcs⟩ := h
    unfold readDots
    split
    · next heq => exact absurd (List.cons.inj heq).1.symm hc
    · next heq => exact absurd (List.cons.inj heq).1.symm hc
    · next heq =>
      obtain ⟨rfl, rfl⟩ := List.cons.inj heq
      rw [ih hcs]
    · next heq => simp at heq

/-- Where no dot is encoded, the dot segments are the two that are written with dots. -/
theorem isDotSegment_eq_false_iff {segment : List Char} (h : '%' ∉ segment) :
    isDotSegment segment = false ↔ segment ≠ ['.'] ∧ segment ≠ ['.', '.'] := by
  rw [isDotSegment, isSingleDot, isDoubleDot, readDots_eq_self h, Bool.or_eq_false_iff, beq_eq_false_iff_ne,
    beq_eq_false_iff_ne]

theorem isDotSegment_toList_iff {s : String} (h : '%' ∉ s.toList) :
    isDotSegment s.toList = false ↔ s ≠ "." ∧ s ≠ ".." := by
  have hdot : ".".toList = ['.'] := by decide
  have hdots : "..".toList = ['.', '.'] := by decide
  rw [isDotSegment_eq_false_iff h, ← hdots, ← hdot, ne_eq, ne_eq, String.toList_inj, String.toList_inj]

theorem Scheme.isSlash_eq_false_iff {scheme : Scheme} (hspecial : scheme.isSpecial = true) (c : Char) :
    scheme.isSlash c = false ↔ c ≠ '/' ∧ c ≠ '\\' := by
  simp [Scheme.isSlash, hspecial]

theorem mem_of_mem_dropSegment {kept : List Char} {below : List (List Char)} (h : kept ∈ dropSegment below) :
    kept ∈ below := by
  unfold dropSegment at h
  split at h
  · exact h
  split at h
  · exact h
  · exact List.mem_cons_of_mem _ h

/-- What holds of the empty segment and of every segment as it is kept, unless it is a dot segment, holds of all that a
path keeps. -/
theorem forall_mem_walk {P : List Char → Prop} {scheme : Scheme} {segments below : List (List Char)} (hnil : P [])
    (hsegments : ∀ segment ∈ segments, isDotSegment segment = false → ∀ below, P (keepSegment scheme below segment))
    (hbelow : ∀ kept ∈ below, P kept) : ∀ kept ∈ walk scheme below segments, P kept := by
  induction segments generalizing below with
  | nil => exact hbelow
  | cons segment segments ih =>
    have hlater := fun other hother => hsegments other (List.mem_cons_of_mem segment hother)
    have hending : ∀ {path : List (List Char)}, (∀ kept ∈ path, P kept) →
        ∀ kept ∈ (if segments.isEmpty then [] :: path else path), P kept := by
      intro path hpath
      split
      · exact List.forall_mem_cons.2 ⟨hnil, hpath⟩
      · exact hpath
    rw [walk]
    split
    · exact ih hlater (hending fun kept hkept => hbelow kept (mem_of_mem_dropSegment hkept))
    next hdouble =>
    split
    · exact ih hlater (hending hbelow)
    next hsingle =>
    have hdot : isDotSegment segment = false := by simp [isDotSegment, hsingle, hdouble]
    exact ih hlater (List.forall_mem_cons.2 ⟨hsegments segment List.mem_cons_self hdot below, hbelow⟩)

section

variable {scheme : Scheme} (hscheme : scheme ≠ .file)
include hscheme

theorem keepSegment_eq (below : List (List Char)) (segment : List Char) :
    keepSegment scheme below segment = percentEncode pathSet segment := by
  have hfile : (scheme == .file) = false := beq_eq_false_iff_ne.2 hscheme
  rw [keepSegment, hfile]
  rfl

theorem walk_eq {segments : List (List Char)} (h : ∀ segment ∈ segments, isDotSegment segment = false)
    (below : List (List Char)) :
    walk scheme below segments = (segments.map (percentEncode pathSet)).reverse ++ below := by
  induction segments generalizing below with
  | nil => rfl
  | cons segment segments ih =>
    obtain ⟨hsingle, hdouble⟩ := Bool.or_eq_false_iff.1 (h segment List.mem_cons_self)
    have hrest := ih fun other hother => h other (List.mem_cons_of_mem segment hother)
    rw [walk, hsingle, hdouble, if_neg Bool.false_ne_true, if_neg Bool.false_ne_true, keepSegment_eq hscheme, hrest]
    simp

/-- Under two such schemes that cut a text at the same characters, a path has the same segments. -/
theorem segmentsOn_congr {other : Scheme} (hother : other ≠ .file) (hslash : other.isSlash = scheme.isSlash)
    (below : List (List Char)) (text : List Char) : segmentsOn other below text = segmentsOn scheme below text := by
  have hwalk : ∀ segments below, walk other below segments = walk scheme below segments := by
    intro segments
    induction segments with
    | nil => exact fun _ => rfl
    | cons segment segments ih =>
      intro below
      simp only [walk, ih, keepSegment_eq hscheme, keepSegment_eq hother]
  rw [segmentsOn, segmentsOn, hslash, hwalk]

/-! ### From the root -/

variable (text : List Char)

theorem segmentsOn_eq (h : ∀ segment ∈ text.splitOnP scheme.isSlash, isDotSegment segment = false) :
    segmentsOn scheme [] text = (text.splitOnP scheme.isSlash).map (percentEncode pathSet) := by
  rw [segmentsOn, walk_eq hscheme h, List.append_nil, List.reverse_reverse]

/-- A path that is put together from texts without slashes, none of them a dot segment, has these for its segments. -/
theorem segmentsOn_intercalate {parts : List (List Char)} (hne : parts ≠ [])
    (hslash : ∀ part ∈ parts, ∀ c ∈ part, scheme.isSlash c = false) (hdots : ∀ part ∈ parts, isDotSegment part = false) :
    segmentsOn scheme [] (['/'].intercalate parts) = parts.map (percentEncode pathSet) := by
  have hsplit := splitOnP_intercalate (c := '/') rfl hslash hne
  rw [segmentsOn_eq hscheme _ (hsplit.symm ▸ hdots), hsplit]

/-- A path keeps nothing but what is written between its slashes, and no dot segment of it. -/
theorem mem_segmentsOn {kept : List Char} (h : kept ∈ segmentsOn scheme [] text) :
    kept = [] ∨ ∃ segment ∈ text.splitOnP scheme.isSlash,
      isDotSegment segment = false ∧ kept = percentEncode pathSet segment := by
  rw [segmentsOn, List.mem_reverse] at h
  refine forall_mem_walk (P := fun kept => kept = [] ∨ ∃ segment ∈ text.splitOnP scheme.isSlash,
    isDotSegment segment = false ∧ kept = percentEncode pathSet segment) (.inl rfl) ?_ ?_ kept h
  · intro segment hmem hdot below
    exact .inr ⟨segment, hmem, hdot, keepSegment_eq hscheme below segment⟩
  · intro kept hnil
    exact absurd hnil List.not_mem_nil

end

end PodAttach.Url

import Mathlib

/-!
# Letters in either case

Letters are letters of ASCII. A small letter is what it and its capital go to, and nothing else goes to it; so a word of
small letters is what every text goes to that spells it, each letter small or capital.
-/

namespace PodAttach.Text

theorem isLower_toLower {c : Char} (h : c.isUpper = true) : c.toLower.isLower = true := by
  rw [Char.isLower_toLower_eq_isAlpha, Char.isAlpha, h, Bool.true_or]

theorem toLower_eq_iff {c letter : Char} (h : letter.isLower = true) :
    c.toLower = letter ↔ c = letter ∨ c = letter.toUpper := by
  have hsmall : letter.toLower = letter := Char.toLower_eq_of_not_isUpper (Char.not_isUpper_of_isLower h)
  constructor
  · rintro rfl
    by_cases hupper : c.isUpper = true
    · right
      rw [Char.toUpper_toLower_eq_toUpper, Char.toUpper_eq_of_not_isLower (Char.not_isLower_of_isUpper hupper)]
    · left
      rw [Char.toLower_eq_of_not_isUpper hupper]
  · rintro (rfl | rfl)
    · exact hsmall
    · rw [Char.toLower_toUpper_eq_toLower, hsmall]

/-- The text spells a word of small letters, with some of them as capitals. -/
def Spells (cs word : List Char) : Prop := List.Forall₂ (fun c letter => c = letter ∨ c = letter.toUpper) cs word

theorem map_toLower_eq_iff {cs word : List Char} (h : ∀ letter ∈ word, letter.isLower = true) :
    cs.map Char.toLower = word ↔ Spells cs word := by
  rw [Spells]
  induction word generalizing cs with
  | nil => rw [List.map_eq_nil_iff, List.forall₂_nil_right_iff]
  | cons letter word ih =>
    rw [List.forall_mem_cons] at h
    cases cs with
    | nil => simp
    | cons c cs => rw [List.map_cons, List.cons.injEq, List.forall₂_cons, toLower_eq_iff h.1, ih h.2]

end PodAttach.Text

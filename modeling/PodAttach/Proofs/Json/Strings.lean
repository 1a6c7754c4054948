import PodAttach.Json.Text

/-!
# Strings that are read back

Whatever a string holds, reading what was written for it gives it back and stops behind the closing quote. What is
written holds no control character, and escapes nothing that could stand as it is.
-/

namespace PodAttach.Json

open Text

/-! ### Escapes -/

theorem readTextFrom_append (before taken rest : List Char) :
    readTextFrom taken.length before (taken ++ rest) = readTextFrom 0 before rest := by
  induction taken with
  | nil => rfl
  | cons c taken ih =>
    rw [List.length_cons, List.cons_append, readTextFrom]
    exact ih

/-- An escape adds the character that it names. -/
theorem readTextFrom_escape {named : Char} {taken rest : List Char}
    (h : escape (taken ++ rest) = .ok (named, taken.length)) (before : List Char) :
    readTextFrom 0 before ('\\' :: taken ++ rest) = readTextFrom 0 (named :: before) rest := by
  rw [List.cons_append, readTextFrom, if_neg (by decide), if_pos (by decide), h]
  exact readTextFrom_append (named :: before) taken rest

theorem hexDigit?_hexLetter {n : Nat} (h : n < 16) : Unicode.hexDigit? (hexLetter n) = some n := by
  have hall : ∀ m < 16, Unicode.hexDigit? (hexLetter m) = some m := by decide
  exact hall n h

theorem le_hexLetter {n : Nat} (h : n < 16) : ' ' ≤ hexLetter n := by
  have hall : ∀ m < 16, ' ' ≤ hexLetter m := by decide
  exact hall n h

theorem hexFour_hexLetter {n : Nat} (h : n < 256) (rest : List Char) :
    hexFour ('0' :: '0' :: hexLetter (n / 16) :: hexLetter (n % 16) :: rest) = .ok n := by
  have hzero : Unicode.hexDigit? '0' = some 0 := by decide
  have hhigh := hexDigit?_hexLetter (n := n / 16) (by omega)
  have hlow := hexDigit?_hexLetter (n := n % 16) (by omega)
  have hdigits : n / 16 * 16 + n % 16 = n := by omega
  simp [hexFour, hzero, hhigh, hlow, hdigits]

theorem escape_hexLetter {c : Char} (h : c < ' ') (rest : List Char) :
    escape ('u' :: '0' :: '0' :: hexLetter (c.toNat / 16) :: hexLetter (c.toNat % 16) :: rest) = .ok (c, 5) := by
  have hlt : c.toNat < 32 := h
  have hshort : shortEscape? 'u' = none := by decide
  have hleading : isLeading c.toNat = false := by
    simp only [isLeading, Bool.and_eq_false_iff, decide_eq_false_iff_not]
    omega
  have htrailing : isTrailing c.toNat = false := by
    simp only [isTrailing, Bool.and_eq_false_iff, decide_eq_false_iff_not]
    omega
  simp [escape, hshort, hexEscape, hexFour_hexLetter (n := c.toNat) (by omega), hleading, htrailing, bind, Except.bind,
    pure, Except.pure, Except.map]

/-! ### Characters -/

/-- A control character, a quote or a backslash. -/
def NeedsEscape (c : Char) : Prop := c < ' ' ∨ c = '"' ∨ c = '\\'

/-- What is written behind the backslash of an escape that names `c`. -/
structure Names (taken : List Char) (c : Char) : Prop where
  escape_eq : ∀ rest, escape (taken ++ rest) = .ok (c, taken.length)
  le_of_mem : ∀ d ∈ taken, ' ' ≤ d

theorem writeChar_of_not_needsEscape {c : Char} (h : ¬ NeedsEscape c) : writeChar c = [c] := by
  simp only [NeedsEscape, not_or] at h
  have hne : ∀ d, d < ' ' → c ≠ d := by
    rintro d hd rfl
    exact h.1 hd
  simp [writeChar, h.1, h.2.1, h.2.2, hne '\x08' (by decide), hne '\x0c' (by decide), hne '\n' (by decide),
    hne '\r' (by decide), hne '\t' (by decide)]

theorem names_of_shortEscape? {letter named : Char} (h : shortEscape? letter = some named) (hle : ' ' ≤ letter) :
    Names [letter] named where
  escape_eq := fun rest => by simp [escape, h]
  le_of_mem := by simpa using hle

theorem names_hexLetter {c : Char} (h : c < ' ') :
    Names ['u', '0', '0', hexLetter (c.toNat / 16), hexLetter (c.toNat % 16)] c where
  escape_eq := escape_hexLetter h
  le_of_mem := by
    have hlt : c.toNat < 32 := h
    have hhigh := le_hexLetter (n := c.toNat / 16) (by omega)
    have hlow := le_hexLetter (n := c.toNat % 16) (by omega)
    simp [hhigh, hlow]

theorem writeChar_of_needsEscape {c : Char} (h : NeedsEscape c) : ∃ taken, writeChar c = '\\' :: taken ∧ Names taken c := by
  by_cases hletter : ∃ letter, ' ' ≤ letter ∧ shortEscape? letter = some c ∧ writeChar c = ['\\', letter]
  · obtain ⟨letter, hle, hshort, hwrite⟩ := hletter
    exact ⟨[letter], hwrite, names_of_shortEscape? hshort hle⟩
  · have hne : ∀ letter named, ' ' ≤ letter ∧ shortEscape? letter = some named ∧ writeChar named = ['\\', letter] →
        c ≠ named := by
      rintro letter named hall rfl
      exact hletter ⟨letter, hall⟩
    have hquote := hne '"' '"' (by decide)
    have hback := hne '\\' '\\' (by decide)
    have hcontrol : c < ' ' := by simpa [NeedsEscape, hquote, hback] using h
    refine ⟨_, ?_, names_hexLetter hcontrol⟩
    simp [writeChar, hquote, hback, hcontrol, hne 'b' '\x08' (by decide), hne 'f' '\x0c' (by decide),
      hne 'n' '\n' (by decide), hne 'r' '\r' (by decide), hne 't' '\t' (by decide)]

/-- Nothing is escaped but what has to be. -/
theorem writeChar_eq_self_iff (c : Char) : writeChar c = [c] ↔ ¬ NeedsEscape c := by
  refine ⟨fun h hneeds => ?_, writeChar_of_not_needsEscape⟩
  obtain ⟨taken, hwrite, hnames⟩ := writeChar_of_needsEscape hneeds
  rw [h] at hwrite
  obtain ⟨rfl, rfl⟩ := List.cons.inj hwrite
  exact absurd (hnames.escape_eq []) (by simp [escape, Stop.atEnd])

theorem le_of_mem_writeChar {c d : Char} (h : d ∈ writeChar c) : ' ' ≤ d := by
  by_cases hneeds : NeedsEscape c
  · obtain ⟨taken, hwrite, hnames⟩ := writeChar_of_needsEscape hneeds
    rw [hwrite, List.mem_cons] at h
    rcases h with rfl | h
    · decide
    · exact hnames.le_of_mem d h
  · rw [writeChar_of_not_needsEscape hneeds, List.mem_singleton] at h
    subst h
    simp only [NeedsEscape, not_or] at hneeds
    exact Char.not_lt.1 hneeds.1

theorem readTextFrom_writeChar (c : Char) (before rest : List Char) :
    readTextFrom 0 before (writeChar c ++ rest) = readTextFrom 0 (c :: before) rest := by
  by_cases hneeds : NeedsEscape c
  · obtain ⟨taken, hwrite, hnames⟩ := writeChar_of_needsEscape hneeds
    rw [hwrite]
    exact readTextFrom_escape (hnames.escape_eq rest) before
  · rw [writeChar_of_not_needsEscape hneeds]
    simp only [NeedsEscape, not_or] at hneeds
    simp [readTextFrom, hneeds.1, hneeds.2.1, hneeds.2.2]

/-! ### Strings -/

theorem readTextFrom_flatMap_writeChar (cs before rest : List Char) :
    readTextFrom 0 before (cs.flatMap writeChar ++ '"' :: rest) = .ok (before.reverse ++ cs, rest) := by
  induction cs generalizing before with
  | nil => simp [readTextFrom]
  | cons c cs ih =>
    rw [List.flatMap_cons, List.append_assoc, readTextFrom_writeChar, ih]
    simp

theorem readText_flatMap_writeChar (cs rest : List Char) :
    readText (cs.flatMap writeChar ++ '"' :: rest) = .ok (cs, rest) := readTextFrom_flatMap_writeChar cs [] rest

theorem writeText_append (s : String) (rest : List Char) :
    writeText s ++ rest = '"' :: (s.toList.flatMap writeChar ++ '"' :: rest) := by
  simp [writeText]

theorem le_of_mem_writeText {s : String} {d : Char} (h : d ∈ writeText s) : ' ' ≤ d := by
  simp only [writeText, List.mem_append, List.mem_cons, List.mem_flatMap, List.not_mem_nil, or_false] at h
  rcases h with (rfl | ⟨c, -, hd⟩) | rfl
  · decide
  · exact le_of_mem_writeChar hd
  · decide

end PodAttach.Json

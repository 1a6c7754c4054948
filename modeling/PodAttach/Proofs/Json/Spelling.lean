import PodAttach.Proofs.Json.Grammar

/-!
# Strings, however they are written

Reading the text of a string gives the characters that its pieces spell and stops behind the closing quote. It fails
exactly if the pieces spell nothing, which is the case if a surrogate in them has no partner.
-/

namespace PodAttach.Json

open Text

theorem hexDigit?_char (d : HexDigit) : Unicode.hexDigit? d.char = some d.value := by
  have hall : ∀ entry ∈ hexDigits, Unicode.hexDigit? entry.1 = some entry.2 := by decide
  exact hall _ d.mem_hexDigits

theorem hexFour_chars (a b c d : HexDigit) (rest : List Char) :
    hexFour (a.char :: b.char :: c.char :: d.char :: rest) = .ok (hexUnit a b c d) := by
  simp [hexFour, hexDigit?_char, hexUnit]

theorem shortEscape?_of_mem {letter named : Char} (h : (letter, named) ∈ shortEscapes) :
    shortEscape? letter = some named := by
  have hall : ∀ entry ∈ shortEscapes, shortEscape? entry.1 = some entry.2 := by decide
  exact hall _ h

theorem le_of_mem_shortEscapes {letter named : Char} (h : (letter, named) ∈ shortEscapes) : ' ' ≤ letter := by
  have hall : ∀ entry ∈ shortEscapes, ' ' ≤ entry.1 := by decide
  exact hall _ h

theorem ne_u_of_mem_shortEscapes {letter named : Char} (h : (letter, named) ∈ shortEscapes) : letter ≠ 'u' := by
  have hall : ∀ entry ∈ shortEscapes, entry.1 ≠ 'u' := by decide
  exact hall _ h

theorem isTrailing_of_low {unit : Nat} (h : IsLowSurrogate unit) : isTrailing unit = true := by simpa [isTrailing] using h

theorem isTrailing_of_not_low {unit : Nat} (h : ¬ IsLowSurrogate unit) : isTrailing unit = false := by
  simpa [isTrailing] using h

theorem isLeading_of_high {unit : Nat} (h : IsHighSurrogate unit) : isLeading unit = true := by simpa [isLeading] using h

theorem isLeading_of_not_high {unit : Nat} (h : ¬ IsHighSurrogate unit) : isLeading unit = false := by
  simpa [isLeading] using h

theorem isTrailing_of_high {unit : Nat} (h : IsHighSurrogate unit) : isTrailing unit = false :=
  isTrailing_of_not_low (by omega)

/-! ### One escape -/

theorem escape_u (cs : List Char) :
    escape ('u' :: cs) = (hexEscape cs).map fun (named, length) => (named, length + 1) := by
  have hshort : shortEscape? 'u' = none := by decide
  simp [escape, hshort]

section

variable {a b c d : HexDigit}

theorem hexEscape_alone (hlow : ¬ IsLowSurrogate (hexUnit a b c d)) (hhigh : ¬ IsHighSurrogate (hexUnit a b c d))
    (rest : List Char) :
    hexEscape (a.char :: b.char :: c.char :: d.char :: rest) = .ok (Char.ofNat (hexUnit a b c d), 4) := by
  simp only [hexEscape, hexFour_chars, isTrailing_of_not_low hlow, isLeading_of_not_high hhigh, bind, Except.bind]
  rfl

theorem hexEscape_low (hlow : IsLowSurrogate (hexUnit a b c d)) (rest : List Char) :
    (hexEscape (a.char :: b.char :: c.char :: d.char :: rest)).toOption = none := by
  simp only [hexEscape, hexFour_chars, isTrailing_of_low hlow, bind, Except.bind]
  rfl

/-- A leading surrogate is taken together with the trailing one that is escaped behind it. -/
theorem hexEscape_pair (hhigh : IsHighSurrogate (hexUnit a b c d)) {e f g h : HexDigit}
    (hlow : IsLowSurrogate (hexUnit e f g h)) (rest : List Char) :
    hexEscape (a.char :: b.char :: c.char :: d.char :: '\\' :: 'u' :: e.char :: f.char :: g.char :: h.char :: rest) =
      .ok (pairChar (hexUnit a b c d) (hexUnit e f g h), 10) := by
  simp only [hexEscape, hexFour_chars, isTrailing_of_high hhigh, isLeading_of_high hhigh, bind, Except.bind, List.drop]
  simp only [isTrailing_of_low hlow]
  rfl

theorem hexEscape_unpaired (hhigh : IsHighSurrogate (hexUnit a b c d)) {e f g h : HexDigit}
    (hlow : ¬ IsLowSurrogate (hexUnit e f g h)) (rest : List Char) :
    (hexEscape
      (a.char :: b.char :: c.char :: d.char :: '\\' :: 'u' :: e.char :: f.char :: g.char :: h.char :: rest)).toOption =
        none := by
  simp only [hexEscape, hexFour_chars, isTrailing_of_high hhigh, isLeading_of_high hhigh, bind, Except.bind, List.drop]
  simp only [isTrailing_of_not_low hlow]
  rfl

theorem hexEscape_plain (hhigh : IsHighSurrogate (hexUnit a b c d)) {next : Char} (hnext : next ≠ '\\')
    (rest : List Char) : (hexEscape (a.char :: b.char :: c.char :: d.char :: next :: rest)).toOption = none := by
  simp only [hexEscape, hexFour_chars, isTrailing_of_high hhigh, isLeading_of_high hhigh, bind, Except.bind, List.drop]
  simp [hnext, Stop.within, Except.toOption]

theorem hexEscape_short (hhigh : IsHighSurrogate (hexUnit a b c d)) {letter : Char} (hletter : letter ≠ 'u')
    (rest : List Char) :
    (hexEscape (a.char :: b.char :: c.char :: d.char :: '\\' :: letter :: rest)).toOption = none := by
  simp only [hexEscape, hexFour_chars, isTrailing_of_high hhigh, isLeading_of_high hhigh, bind, Except.bind, List.drop]
  simp [hletter, Stop.within, Except.toOption]

end

/-! ### Strings -/

theorem readTextFrom_backslash_of_error {cs : List Char} (h : (escape cs).toOption = none) (before : List Char) :
    (readTextFrom 0 before ('\\' :: cs)).toOption = none := by
  rw [readTextFrom, if_neg (by decide), if_pos (by decide)]
  cases he : escape cs with
  | ok found => simp [he, Except.toOption] at h
  | error stop => rfl

theorem escape_u_of_error {cs : List Char} (h : (hexEscape cs).toOption = none) : (escape ('u' :: cs)).toOption = none := by
  rw [escape_u]
  cases he : hexEscape cs with
  | ok found => simp [he, Except.toOption] at h
  | error stop => rfl

theorem map_reverse_cons (named : Char) (before rest : List Char) (tail? : Option (List Char)) :
    (tail?.map fun cs => ((named :: before).reverse ++ cs, rest)) =
      (tail?.map (named :: ·)).map fun cs => (before.reverse ++ cs, rest) := by
  simp [Option.map_map, Function.comp_def]

theorem readTextFrom_plain {c : Char} (h : ' ' ≤ c ∧ c ≠ '"' ∧ c ≠ '\\') (before rest : List Char) :
    readTextFrom 0 before (c :: rest) = readTextFrom 0 (c :: before) rest := by
  have hle : ¬ c < ' ' := Char.not_lt.2 h.1
  simp [readTextFrom, h.2.1, h.2.2, hle]

theorem readTextFrom_hex {named : Char} {rest : List Char} (taken : List Char)
    (h : hexEscape (taken ++ rest) = .ok (named, taken.length)) (before : List Char) :
    readTextFrom 0 before ('\\' :: 'u' :: (taken ++ rest)) = readTextFrom 0 (named :: before) rest := by
  have hescape : escape ('u' :: taken ++ rest) = .ok (named, ('u' :: taken).length) := by
    rw [List.cons_append, escape_u, h]
    rfl
  exact readTextFrom_escape hescape before

/-- The reader stops behind the closing quote, with the characters that the pieces spell. -/
theorem toOption_readTextFrom (pieces : List Piece) (before rest : List Char) :
    (readTextFrom 0 before (pieces.flatMap Piece.source ++ '"' :: rest)).toOption =
      (spelled? pieces).map fun cs => (before.reverse ++ cs, rest) := by
  fun_induction spelled? pieces generalizing before with
  | case1 => simp [readTextFrom, Except.toOption]
  | case2 c h pieces ih =>
    rw [← map_reverse_cons, ← ih, List.flatMap_cons, List.append_assoc]
    exact congrArg Except.toOption (readTextFrom_plain h before _)
  | case3 letter named h pieces ih =>
    rw [← map_reverse_cons, ← ih, List.flatMap_cons, List.append_assoc]
    have hescape := (names_of_shortEscape? (shortEscape?_of_mem h) (le_of_mem_shortEscapes h)).escape_eq
    exact congrArg Except.toOption (readTextFrom_escape (hescape _) before)
  | case4 a b c d pieces hlow =>
    rw [List.flatMap_cons, List.append_assoc]
    exact readTextFrom_backslash_of_error (escape_u_of_error (hexEscape_low hlow _)) before
  | case5 a b c d hnot hhigh e f g h pieces hlow ih =>
    rw [← map_reverse_cons, ← ih, List.flatMap_cons, List.flatMap_cons, List.append_assoc, List.append_assoc]
    let pair := [a.char, b.char, c.char, d.char, '\\', 'u', e.char, f.char, g.char, h.char]
    exact congrArg Except.toOption (readTextFrom_hex pair (hexEscape_pair hhigh hlow _) before)
  | case6 a b c d hnot hhigh e f g h pieces hlow =>
    rw [List.flatMap_cons, List.flatMap_cons, List.append_assoc, List.append_assoc]
    exact readTextFrom_backslash_of_error (escape_u_of_error (hexEscape_unpaired hhigh hlow _)) before
  | case7 a b c d pieces hnot hhigh hother =>
    rw [List.flatMap_cons, List.append_assoc]
    refine readTextFrom_backslash_of_error (escape_u_of_error ?_) before
    cases pieces with
    | nil => exact hexEscape_plain hhigh (by decide) rest
    | cons piece pieces =>
      cases piece with
      | plain next h => exact hexEscape_plain hhigh h.2.2 _
      | short letter named h => exact hexEscape_short hhigh (ne_u_of_mem_shortEscapes h) _
      | hex e f g h => exact absurd rfl (hother e f g h pieces)
  | case8 a b c d pieces hnot hhigh ih =>
    rw [← map_reverse_cons, ← ih, List.flatMap_cons, List.append_assoc]
    let digits := [a.char, b.char, c.char, d.char]
    exact congrArg Except.toOption (readTextFrom_hex digits (hexEscape_alone hnot hhigh _) before)

theorem toOption_readText (pieces : List Piece) (rest : List Char) :
    (readText (pieces.flatMap Piece.source ++ '"' :: rest)).toOption = (spelled? pieces).map fun cs => (cs, rest) :=
  toOption_readTextFrom pieces [] rest

end PodAttach.Json

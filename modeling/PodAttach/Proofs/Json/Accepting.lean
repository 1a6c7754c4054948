import Mathlib.Data.List.TakeWhile
import PodAttach.Proofs.Json.Completing
import PodAttach.Proofs.Json.Stopping

/-!
# What readers accept

A reader that does not fail has had a value of the grammar in front of it, and stands behind it. This holds for strings,
whole numbers and null by what they are made of, and for all other values by the machine that passes over them.
-/

namespace PodAttach.Json

variable {cs left rest : List Char}

/-- A reader that takes a value in front of `more` leaves that. -/
theorem Reader.Takes.rest_eq {α : Type} {reader : Reader α} {read : Tree → Option α} (h : reader.Takes read)
    {before : Blanks} {t : Tree} {more : List Char} {value : α} (hmore : EndsNumber more)
    (hread : reader (before.chars ++ (t.source ++ more)) = .ok (value, rest)) : rest = more := by
  have htakes := h before t hmore
  rw [hread] at htakes
  obtain ⟨found, -, hfound⟩ := Option.map_eq_some_iff.1 htakes.symm
  exact (Prod.mk.inj hfound).2.symm

/-- Whatever a reader takes is a value, with blanks in front of it. -/
def Reader.TakesTrees {α : Type} (reader : Reader α) : Prop :=
  ∀ {cs value rest}, reader cs = .ok (value, rest) →
    ∃ (before : Blanks) (t : Tree), cs = before.chars ++ (t.source ++ rest)

/-! ### Strings -/

theorem exists_hexDigits {values : List Nat} (h : cs.mapM Unicode.hexDigit? = some values) :
    ∃ digits : List HexDigit, cs = digits.map HexDigit.char := by
  induction cs generalizing values with
  | nil => exact ⟨[], rfl⟩
  | cons c cs ih =>
    obtain ⟨value, hvalue, values, hvalues, -⟩ : ∃ value, Unicode.hexDigit? c = some value ∧
        ∃ more, cs.mapM Unicode.hexDigit? = some more ∧ value :: more = values := by
      simpa [List.mapM_cons, Option.bind_eq_some_iff] using h
    obtain ⟨d, rfl⟩ := exists_hexDigit (Option.isSome_of_eq_some hvalue)
    obtain ⟨digits, rfl⟩ := ih hvalues
    exact ⟨d :: digits, rfl⟩

theorem exists_digits_of_hexFour {n : Nat} (h : hexFour cs = .ok n) :
    ∃ a b c d : HexDigit, cs = a.char :: b.char :: c.char :: d.char :: cs.drop 4 := by
  unfold hexFour at h
  split at h
  · next hvalues =>
    obtain ⟨digits, hdigits⟩ := exists_hexDigits hvalues
    have hlength : digits.length = 4 := by
      rw [← List.length_map (f := HexDigit.char), ← hdigits, ← length_of_mapM hvalues]
      rfl
    obtain ⟨a, b, c, d, rfl⟩ := exists_eq_of_length_eq_four hlength
    refine ⟨a, b, c, d, ?_⟩
    calc cs = cs.take 4 ++ cs.drop 4 := (List.take_append_drop 4 cs).symm
      _ = [a, b, c, d].map HexDigit.char ++ cs.drop 4 := by rw [hdigits]
  · split at h <;> cases h

/-- An escape of a character beyond the first plane is two pieces, and any other is one. -/
theorem exists_pieces_of_hexEscape {named : Char} {length : Nat} (h : hexEscape cs = .ok (named, length)) :
    ∃ pieces : List Piece, '\\' :: 'u' :: cs = pieces.flatMap Piece.source ++ cs.drop length := by
  obtain ⟨n, hn, hfound⟩ := exists_of_bind_eq_ok h
  obtain ⟨a, b, c, d, hdigits⟩ := exists_digits_of_hexFour hn
  split at hfound
  · cases hfound
  split at hfound
  · obtain ⟨rfl, rfl⟩ := Prod.mk.inj (Except.ok.inj hfound)
    exact ⟨[.hex a b c d], congrArg ('\\' :: 'u' :: ·) hdigits⟩
  split at hfound
  · cases hfound
  next back more hdrop =>
  split at hfound
  · cases hfound
  next hback =>
  split at hfound
  · cases hfound
  next u digits =>
  split at hfound
  · cases hfound
  next hu =>
  obtain ⟨m, hm, hfound⟩ := exists_of_bind_eq_ok hfound
  obtain ⟨e, f, g, i, hmore⟩ := exists_digits_of_hexFour hm
  split at hfound
  · obtain ⟨rfl, rfl⟩ := Prod.mk.inj (Except.ok.inj hfound)
    obtain rfl : back = '\\' := by simpa using hback
    obtain rfl : u = 'u' := by simpa using hu
    refine ⟨[.hex a b c d, .hex e f g i], ?_⟩
    rw [hdrop, hmore] at hdigits
    rw [hdigits]
    rfl
  · cases hfound

theorem exists_pieces_of_escape {named : Char} {length : Nat} (h : escape cs = .ok (named, length)) :
    ∃ pieces : List Piece, '\\' :: cs = pieces.flatMap Piece.source ++ cs.drop length := by
  cases cs with
  | nil => cases h
  | cons c cs =>
    simp only [escape] at h
    split at h
    · next letter hshort =>
      obtain ⟨rfl, rfl⟩ := Prod.mk.inj (Except.ok.inj h)
      exact ⟨[.short c letter (mem_of_shortEscape? hshort)], rfl⟩
    · split at h
      · next hu =>
        obtain ⟨⟨found, taken⟩, hescape, hlength⟩ := exists_of_map_eq_ok h
        obtain ⟨rfl, rfl⟩ := Prod.mk.inj hlength
        obtain rfl : c = 'u' := by simpa using hu
        exact exists_pieces_of_hexEscape hescape
      · cases h

theorem exists_pieces_of_readTextFrom {skip : Nat} {before text : List Char}
    (h : readTextFrom skip before cs = .ok (text, rest)) :
    ∃ pieces : List Piece, cs.drop skip = pieces.flatMap Piece.source ++ '"' :: rest := by
  fun_induction readTextFrom skip before cs with
  | case1 => cases h
  | case2 skip before c cs ih => exact ih h
  | case3 before c cs hquote =>
    obtain ⟨rfl, rfl⟩ := Prod.mk.inj (Except.ok.inj h)
    exact ⟨[], by simpa using hquote⟩
  | case4 before c cs hquote hback named length hescape ih =>
    obtain ⟨taken, htaken⟩ := exists_pieces_of_escape hescape
    obtain ⟨pieces, hpieces⟩ := ih h
    obtain rfl : c = '\\' := by simpa using hback
    refine ⟨taken ++ pieces, ?_⟩
    rw [List.drop_zero, htaken, hpieces, List.flatMap_append, List.append_assoc]
  | case5 => cases h
  | case6 => cases h
  | case7 before c cs hquote hback hle ih =>
    obtain ⟨pieces, hpieces⟩ := ih h
    have hplain : ' ' ≤ c ∧ c ≠ '"' ∧ c ≠ '\\' := ⟨Char.not_lt.1 hle, by simpa using hquote, by simpa using hback⟩
    exact ⟨.plain c hplain :: pieces, congrArg (c :: ·) hpieces⟩

theorem exists_pieces_of_readText {text : List Char} (h : readText cs = .ok (text, rest)) :
    ∃ pieces : List Piece, cs = pieces.flatMap Piece.source ++ '"' :: rest := exists_pieces_of_readTextFrom h

theorem takesTrees_readString : Reader.TakesTrees readString := by
  intro cs value rest h
  unfold readString at h
  split at h
  · next heq =>
    obtain ⟨⟨text, left⟩, htext, hvalue⟩ := exists_of_map_eq_ok h
    obtain ⟨rfl, rfl⟩ := Prod.mk.inj hvalue
    obtain ⟨before, rfl⟩ := exists_blanks_of_skipBlanks heq
    obtain ⟨pieces, rfl⟩ := exists_pieces_of_readText htext
    exact ⟨before, .text pieces, by simp [Tree.source, textSource]⟩
  · exact absurd h rejectType_ne_ok

/-! ### Numbers -/

theorem exists_numeral_append {negative : Bool} {found : Numeral × List Char} (h : readNumber negative cs = .ok found) :
    ∃ ds more, IsNumeral ds ∧ cs = ds ++ more ∧ ∀ c, more.head? = some c → c.isDigit = false := by
  cases cs with
  | nil => cases h
  | cons c cs =>
    simp only [readNumber, beq_iff_eq] at h
    split at h
    · next hzero =>
      subst hzero
      split at h
      · cases h
      · next hnext =>
        refine ⟨['0'], cs, isNumeral_zero, rfl, ?_⟩
        intro d hd
        cases cs with
        | nil => cases hd
        | cons e cs =>
          obtain rfl : e = d := by simpa using hd
          simpa using hnext
    next hzero =>
    split at h
    · next hdigit =>
      have htake : (c :: cs).takeWhile Char.isDigit = c :: cs.takeWhile Char.isDigit := by
        rw [List.takeWhile_cons, if_pos hdigit]
      refine ⟨(c :: cs).takeWhile Char.isDigit, (c :: cs).dropWhile Char.isDigit, ⟨?_, ?_, ?_⟩, ?_, ?_⟩
      · rw [htake]
        exact List.cons_ne_nil _ _
      · exact fun d hd => List.mem_takeWhile_imp hd
      · intro hhead
        rw [htake] at hhead
        exact absurd (Option.some.inj hhead) hzero
      · exact List.takeWhile_append_dropWhile.symm
      · intro d hd
        have hnot := List.head?_dropWhile_not Char.isDigit (c :: cs)
        rwa [hd] at hnot
    · cases h

theorem exists_numeral_of_readNumber {negative : Bool} {n : Nat} (h : readNumber negative cs = .ok (.natural n, left)) :
    negative = false ∧ ∃ ds more, IsNumeral ds ∧ cs = ds ++ more ∧ EndsNumber more := by
  obtain ⟨ds, more, hds, rfl, hmore⟩ := exists_numeral_append h
  obtain ⟨hnegative, -, hends⟩ := of_readNumber_natural hds hmore h
  exact ⟨hnegative, ds, more, hds, rfl, fun c hc => ⟨hmore c hc, hends c hc⟩⟩

theorem takesTrees_readUInt16 : Reader.TakesTrees readUInt16 := by
  intro cs value rest h
  have hread := h
  unfold readUInt16 at h
  split at h
  · obtain ⟨n, -, -, hn⟩ := exists_natural_of_toWord h
    exact absurd (exists_numeral_of_readNumber hn).1 (by decide)
  · next heq =>
    split at h
    · obtain ⟨n, -, -, hn⟩ := exists_natural_of_toWord h
      obtain ⟨-, ds, more, hds, hmore, hends⟩ := exists_numeral_of_readNumber hn
      obtain ⟨before, rfl⟩ := exists_blanks_of_skipBlanks heq
      let t : Tree := .number ⟨false, ds, hds, none, none⟩
      have hsource : ds ++ more = t.source ++ more := by simp [t, Tree.source, Literal.source, Literal.scale]
      rw [hmore, hsource] at hread ⊢
      rw [takes_readUInt16.rest_eq hends hread]
      exact ⟨before, t, rfl⟩
    · exact absurd h rejectType_ne_ok
  · exact absurd h rejectType_ne_ok

/-! ### Values that may be null -/

theorem eq_append_of_readWord {missing : List Char} (h : readWord missing cs = .ok rest) : cs = missing ++ rest := by
  fun_induction readWord missing cs with
  | case1 cs => exact Except.ok.inj h
  | case2 => cases h
  | case3 expected missing c cs hc ih =>
    obtain rfl : c = expected := by simpa using hc
    exact congrArg (c :: ·) (ih h)
  | case4 => cases h

theorem Reader.TakesTrees.nullable {α : Type} {reader : Reader α} (hreader : reader.TakesTrees) :
    Reader.TakesTrees (readNullable reader) := by
  intro cs value rest h
  unfold readNullable at h
  split at h
  · next heq =>
    obtain ⟨left, hword, hvalue⟩ := exists_of_map_eq_ok h
    obtain ⟨rfl, rfl⟩ := Prod.mk.inj hvalue
    obtain ⟨before, rfl⟩ := exists_blanks_of_skipBlanks heq
    obtain rfl := eq_append_of_readWord hword
    exact ⟨before, .null, rfl⟩
  · obtain ⟨⟨inner, left⟩, hinner, hvalue⟩ := exists_of_map_eq_ok h
    obtain ⟨rfl, rfl⟩ := Prod.mk.inj hvalue
    exact hreader hinner

/-! ### Between members and elements -/

section

open Skip

variable {isFirst : Bool} {stack : Stack}

/-- Where the machine stands if a member or an element may come next. -/
def placeOf (isFirst : Bool) : Place := if isFirst then .opened else .after

theorem completes_of_closing_member (hnext : nextMember isFirst cs = .ok (.closing left))
    (h : Completes rest stack .after (left.drop 1)) : Completes rest (.object :: stack) (placeOf isFirst) cs := by
  cases nextMember_eq_ok_iff.1 hnext with
  | closing isFirst gap behind =>
    cases isFirst with
    | true => exact .noMember gap h
    | false => exact .members gap [] h

theorem completes_of_next_member (hnext : nextMember isFirst cs = .ok (.item left))
    (h : Completes rest (.object :: stack) (.text true) left) :
    Completes rest (.object :: stack) (placeOf isFirst) cs := by
  cases nextMember_eq_ok_iff.1 hnext with
  | first gap => exact .firstMember (.key gap h)
  | later gap before => exact .comma_member gap (.key before h)

theorem completes_of_closing_element (hnext : nextElement isFirst cs = .ok (.closing left))
    (h : Completes rest (.list :: stack) .after left) : Completes rest (.list :: stack) .after cs := by
  cases nextElement_eq_ok_iff.1 hnext with
  | closing isFirst gap behind => exact .blanks_after gap h

theorem completes_of_next_element (hnext : nextElement isFirst cs = .ok (.item left))
    (h : Completes rest (.list :: stack) .value left) : Completes rest (.list :: stack) (placeOf isFirst) cs := by
  cases nextElement_eq_ok_iff.1 hnext with
  | first gap => exact .firstElement (.blanks_value gap h)
  | later gap before => exact .comma_element gap (.blanks_value before h)

end

end PodAttach.Json

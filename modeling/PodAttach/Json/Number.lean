import PodAttach.Json.Text
import PodAttach.Text.Decimal

/-!
# JSON numbers

Whole numbers within 64 bits are kept as they are. All others, and a negative zero, become binary numbers: the digits
that fit into 64 bits, scaled by the power of ten of the digits left out, the fraction and the exponent.
-/

namespace PodAttach.Json

open Number Text

inductive Numeral where
  | natural (n : Nat)
  | negative (n : Nat)
  | fraction (negative : Bool) (magnitude : Binary64)
deriving DecidableEq, Repr

def Numeral.found : Numeral → Found
  | .natural n => .integer n
  | .negative n => .integer (-n)
  | .fraction minus f => .fraction minus f

def maxWord : Nat := UInt64.size - 1

/-- The largest exponent that is counted digit by digit. -/
def maxExponent : Nat := UInt32.size / 2 - 1

/-- Adds digits to a number as long as it stays within a word; then how many digits were added, and the rest. -/
def takeDigits : (value count : Nat) → List Char → Nat × Nat × List Char
  | value, count, [] => (value, count, [])
  | value, count, c :: cs =>
    if c.isDigit && value * 10 + digitValue c ≤ maxWord then takeDigits (value * 10 + digitValue c) (count + 1) cs
    else (value, count, c :: cs)

theorem length_takeDigits_le (value count : Nat) (cs : List Char) :
    (takeDigits value count cs).2.2.length ≤ cs.length := by
  fun_induction takeDigits value count cs with
  | case1 => simp
  | case2 value count c cs _ ih =>
    simp only [List.length_cons]
    omega
  | case3 => simp

def scaledNumeral (negative : Bool) (significand : Nat) (exponent : Int) (rest : List Char) :
    Except Stop (Numeral × List Char) :=
  match (Binary64.ofNat significand).bind (·.scaleTen exponent) with
  | some f => .ok (.fraction negative f, rest)
  | none => Stop.before .numberTooLarge rest

/-- The digits of an exponent. One that is too large for any number is not read to its end unless it makes no
difference. -/
def readExponentDigits (negative : Bool) (significand : Nat) (exponent : Int) (minus : Bool) :
    (value : Nat) → List Char → Except Stop (Numeral × List Char)
  | value, [] => scaledNumeral negative significand (if minus then exponent - value else exponent + value) []
  | value, c :: cs =>
    if c.isDigit then
      if value * 10 + digitValue c > maxExponent then
        if significand ≠ 0 ∧ !minus then Stop.before .numberTooLarge cs
        else .ok (.fraction negative .zero, cs.dropWhile Char.isDigit)
      else readExponentDigits negative significand exponent minus (value * 10 + digitValue c) cs
    else scaledNumeral negative significand (if minus then exponent - value else exponent + value) (c :: cs)

/-- The exponent behind its letter: a sign, if there is one, and at least one digit. -/
def readExponent (negative : Bool) (significand : Nat) (exponent : Int) (cs : List Char) :
    Except Stop (Numeral × List Char) :=
  let minus := cs.head? == some '-'
  let digits := if minus || cs.head? == some '+' then cs.drop 1 else cs
  match digits with
  | [] => Stop.atEnd .endInValue
  | c :: _ =>
    if c.isDigit then readExponentDigits negative significand exponent minus 0 digits
    else Stop.within .invalidNumber digits

def readScale (negative : Bool) (significand : Nat) (exponent : Int) (cs : List Char) :
    Except Stop (Numeral × List Char) :=
  match cs with
  | [] => scaledNumeral negative significand exponent []
  | c :: rest =>
    if c == 'e' || c == 'E' then readExponent negative significand exponent rest
    else scaledNumeral negative significand exponent cs

/-- The fraction behind its point: at least one digit. -/
def readFraction (negative : Bool) (significand : Nat) (exponent : Int) (cs : List Char) :
    Except Stop (Numeral × List Char) :=
  match cs with
  | [] => Stop.atEnd .endInValue
  | c :: _ =>
    if !c.isDigit then Stop.within .invalidNumber cs
    else
      let (value, count, rest) := takeDigits significand 0 cs
      readScale negative value (exponent - count) (rest.dropWhile Char.isDigit)

/-- What may follow the digits of a whole number of which `omitted` digits did not fit. -/
def readRest (negative : Bool) (significand omitted : Nat) (cs : List Char) : Except Stop (Numeral × List Char) :=
  if cs.head? == some '.' then readFraction negative significand omitted (cs.drop 1)
  else if cs.head? == some 'e' || cs.head? == some 'E' then readExponent negative significand omitted (cs.drop 1)
  else if omitted ≠ 0 then scaledNumeral negative significand omitted cs
  else if !negative then .ok (.natural significand, cs)
  else if significand = 0 ∨ significand > UInt64.size / 2 then scaledNumeral true significand 0 cs
  else .ok (.negative significand, cs)

/-- Reads a number behind its sign. A leading zero stands alone. -/
def readNumber (negative : Bool) (cs : List Char) : Except Stop (Numeral × List Char) :=
  match cs with
  | [] => Stop.atEnd .endInValue
  | c :: more =>
    if c == '0' then
      if (more.take 1).any Char.isDigit then Stop.within .invalidNumber more else readRest negative 0 0 more
    else if c.isDigit then
      let (value, _, rest) := takeDigits 0 0 cs
      let after := rest.dropWhile Char.isDigit
      readRest negative value (rest.length - after.length) after
    else Stop.within .invalidNumber cs

/-! ### What is left behind a number -/

theorem length_dropWhile_le {α : Type} (p : α → Bool) (xs : List α) : (xs.dropWhile p).length ≤ xs.length :=
  (List.dropWhile_sublist p).length_le

theorem length_scaledNumeral_le {negative : Bool} {significand : Nat} {exponent : Int} {cs rest : List Char}
    {n : Numeral} (h : scaledNumeral negative significand exponent cs = .ok (n, rest)) : rest.length ≤ cs.length := by
  unfold scaledNumeral at h
  split at h
  · simp only [Except.ok.injEq, Prod.mk.injEq] at h
    simp [h.2]
  · simp [Stop.before] at h

theorem length_readExponentDigits_le {negative minus : Bool} {significand value : Nat} {exponent : Int}
    {cs rest : List Char} {n : Numeral}
    (h : readExponentDigits negative significand exponent minus value cs = .ok (n, rest)) :
    rest.length ≤ cs.length := by
  fun_induction readExponentDigits negative significand exponent minus value cs with
  | case1 => exact length_scaledNumeral_le h
  | case2 => simp [Stop.before] at h
  | case3 value c cs =>
    simp only [Except.ok.injEq, Prod.mk.injEq] at h
    have := length_dropWhile_le Char.isDigit cs
    simp only [← h.2, List.length_cons]
    omega
  | case4 value c cs hd hv ih =>
    have := ih h
    simp only [List.length_cons]
    omega
  | case5 => exact length_scaledNumeral_le h

theorem length_readExponent_le {negative : Bool} {significand : Nat} {exponent : Int} {cs rest : List Char}
    {n : Numeral} (h : readExponent negative significand exponent cs = .ok (n, rest)) : rest.length ≤ cs.length := by
  unfold readExponent at h
  dsimp only at h
  split at h
  · simp [Stop.atEnd] at h
  · next c more hd =>
    split at h
    · have h1 := length_readExponentDigits_le h
      have h2 : (cs.drop 1).length ≤ cs.length := by simp
      split at h1
      · exact Nat.le_trans h1 h2
      · exact h1
    · simp [Stop.within] at h

theorem length_readScale_le {negative : Bool} {significand : Nat} {exponent : Int} {cs rest : List Char}
    {n : Numeral} (h : readScale negative significand exponent cs = .ok (n, rest)) : rest.length ≤ cs.length := by
  unfold readScale at h
  split at h
  · exact length_scaledNumeral_le h
  · split at h
    · have := length_readExponent_le h
      simp only [List.length_cons]
      omega
    · exact length_scaledNumeral_le h

theorem length_readFraction_le {negative : Bool} {significand : Nat} {exponent : Int} {cs rest : List Char}
    {n : Numeral} (h : readFraction negative significand exponent cs = .ok (n, rest)) : rest.length ≤ cs.length := by
  unfold readFraction at h
  split at h
  · simp [Stop.atEnd] at h
  · next c more =>
    split at h
    · simp [Stop.within] at h
    · exact Nat.le_trans (length_readScale_le h)
        (Nat.le_trans (length_dropWhile_le _ _) (length_takeDigits_le significand 0 (c :: more)))

theorem length_readRest_le {negative : Bool} {significand omitted : Nat} {cs rest : List Char} {n : Numeral}
    (h : readRest negative significand omitted cs = .ok (n, rest)) : rest.length ≤ cs.length := by
  have hd : (cs.drop 1).length ≤ cs.length := by simp
  unfold readRest at h
  split at h
  · exact Nat.le_trans (length_readFraction_le h) hd
  split at h
  · exact Nat.le_trans (length_readExponent_le h) hd
  split at h
  · exact length_scaledNumeral_le h
  split at h
  · simp only [Except.ok.injEq, Prod.mk.injEq] at h
    simp [h.2]
  split at h
  · exact length_scaledNumeral_le h
  · simp only [Except.ok.injEq, Prod.mk.injEq] at h
    simp [h.2]

theorem length_readNumber_le {negative : Bool} {cs rest : List Char} {n : Numeral}
    (h : readNumber negative cs = .ok (n, rest)) : rest.length ≤ cs.length := by
  unfold readNumber at h
  split at h
  · simp [Stop.atEnd] at h
  · next c more =>
    split at h
    · split at h
      · simp [Stop.within] at h
      · have := length_readRest_le h
        simp only [List.length_cons]
        omega
    split at h
    · exact Nat.le_trans (length_readRest_le h)
        (Nat.le_trans (length_dropWhile_le _ _) (length_takeDigits_le 0 0 (c :: more)))
    · simp [Stop.within] at h

end PodAttach.Json

import PodAttach.Number.Binary64

/-!
# The shortest decimal of a binary number

The fewest digits that read back as the same number, and of those the nearest: on the decimal grids of 1, 2, … 17
digits the two neighbours of the value are tried in turn.
-/

namespace PodAttach.Number

namespace Binary64

/-- The decimal `digits * 10 ^ exponent`. -/
structure Decimal where
  digits : Nat
  exponent : Int
deriving DecidableEq, Repr

def ratio (f : Binary64) : Nat × Nat := scaled f.mantissa f.exponent

/-- Whether `digits * 10 ^ exponent` rounds to `f`. The gap below a power of two is half as wide as the one above, and
the ends of the interval belong to it when the mantissa is even. -/
def accepts (f : Binary64) (d : Decimal) : Bool :=
  let low := if f.mantissa = Nat.pow 2 52 ∧ minExponent < f.exponent then 4 * f.mantissa - 1 else 4 * f.mantissa - 2
  let high := 4 * f.mantissa + 2
  let (place, placeDen) := scaled 1 (f.exponent - 2)
  let (num, den) := if 0 ≤ d.exponent then (d.digits * Nat.pow 10 d.exponent.toNat, 1)
    else (d.digits, Nat.pow 10 (-d.exponent).toNat)
  let left := low * place * den
  let middle := num * placeDen
  let right := high * place * den
  if f.mantissa % 2 = 0 then left ≤ middle && middle ≤ right else left < middle && middle < right

/-- The two neighbours of the value on the grid of `10 ^ exponent`, the nearer one first, of two equally near ones the
even one. -/
def neighbours (f : Binary64) (exponent : Int) : List Decimal :=
  let (num, den) := f.ratio
  let (num, den) := if 0 ≤ exponent then (num, den * Nat.pow 10 exponent.toNat)
    else (num * Nat.pow 10 (-exponent).toNat, den)
  let below := num / den
  let near := roundDiv num den
  [⟨near, exponent⟩, ⟨if near = below then below + 1 else below, exponent⟩]

/-- The exponent of the leading decimal digit of a positive value. -/
def leading (f : Binary64) : Int :=
  let (num, den) := f.ratio
  if den ≤ num then ((Nat.toDigits 10 (num / den)).length : Int) - 1
  else
    -- `10 ^ (k - 1) < den / num ≤ 10 ^ k` for the number `k` of digits
    -((Nat.toDigits 10 ((den - 1) / num)).length : Int)

def shortestFrom (f : Binary64) : (digits tries : Nat) → Decimal
  | digits, 0 => ((f.neighbours (f.leading - digits + 1)).head?).getD ⟨0, 0⟩
  | digits, tries + 1 =>
    match (f.neighbours (f.leading - digits + 1)).find? f.accepts with
    | some d => d
    | none => f.shortestFrom (digits + 1) tries

/-- Moves zeros at the end of the digits into the exponent. -/
def Decimal.trim (d : Decimal) : Decimal :=
  if h : d.digits ≠ 0 ∧ d.digits % 10 = 0 then Decimal.trim ⟨d.digits / 10, d.exponent + 1⟩ else d
termination_by d.digits
decreasing_by omega

def shortest (f : Binary64) : Decimal :=
  if f.mantissa = 0 then ⟨0, 0⟩ else (f.shortestFrom 1 16).trim

/-- How a decimal is written: positionally while the leading digit has an exponent from `lowest` to `highest`, and
otherwise with an exponent that bears its sign. At least one digit follows a written point of a positional number. -/
structure Layout where
  lowest : Int
  highest : Int
  mark : Char

/-- Numbers in messages are positional from 10⁻⁵ up to 10¹⁶. -/
def messages : Layout := ⟨-5, 15, 'e'⟩

def Decimal.render (n : Layout) (d : Decimal) : List Char :=
  let digits := Nat.toDigits 10 d.digits
  let leading : Int := d.exponent + digits.length - 1
  if d.digits = 0 then ['0', '.', '0']
  else if leading < n.lowest ∨ n.highest < leading then
    let fraction := digits.drop 1
    digits.take 1 ++ (if fraction.isEmpty then [] else '.' :: fraction) ++
      [n.mark, if leading < 0 then '-' else '+'] ++ Nat.toDigits 10 leading.natAbs
  else if 0 ≤ d.exponent then digits ++ List.replicate d.exponent.toNat '0' ++ ['.', '0']
  else if 0 ≤ leading then
    digits.take (leading.toNat + 1) ++ '.' :: digits.drop (leading.toNat + 1)
  else ['0', '.'] ++ List.replicate (leading.natAbs - 1) '0' ++ digits

def text (negative : Bool) (f : Binary64) : String :=
  String.ofList ((if negative then ['-'] else []) ++ f.shortest.render messages)

end Binary64

end PodAttach.Number

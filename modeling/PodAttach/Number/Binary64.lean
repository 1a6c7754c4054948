/-!
# Binary numbers of 64 bits

Magnitudes in the binary format with 53 bits of precision, by exact arithmetic on natural numbers: every operation
rounds its exact result to the nearest magnitude of the format, a tie to the even one.
-/

namespace PodAttach.Number

/-- The magnitude `mantissa * 2 ^ exponent`. -/
structure Binary64 where
  mantissa : Nat
  exponent : Int
deriving DecidableEq, Repr

namespace Binary64

def minExponent : Int := -1074
def maxExponent : Int := 971

def zero : Binary64 := ⟨0, minExponent⟩

/-- `n * 2 ^ e` as a quotient of natural numbers. -/
def scaled (n : Nat) (e : Int) : Nat × Nat :=
  if 0 ≤ e then (n * Nat.pow 2 e.toNat, 1) else (n, Nat.pow 2 (-e).toNat)

/-- The quotient rounded to the nearest natural number, a tie to the even one. -/
def roundDiv (num den : Nat) : Nat :=
  let q := num / den
  let r := 2 * (num % den)
  if r < den ∨ (r = den ∧ q % 2 = 0) then q else q + 1

/-- The magnitude nearest to `num / den`, `none` where that is too large for the format. -/
def ofRatio (num den : Nat) : Option Binary64 :=
  if num = 0 then some zero
  else
    let guess : Int := (Nat.log2 num : Int) - (Nat.log2 den : Int) - 52
    -- `num / den` has 53 bits before the point at scale `guess` or one below it
    let (n, d) := scaled num (-guess)
    let exponent := max minExponent (if n < d * den * Nat.pow 2 52 then guess - 1 else guess)
    let (n, d) := scaled num (-exponent)
    let mantissa := roundDiv n (d * den)
    let result : Binary64 := if mantissa = Nat.pow 2 53 then ⟨Nat.pow 2 52, exponent + 1⟩ else ⟨mantissa, exponent⟩
    if result.exponent > maxExponent then none else some result

def ofNat (n : Nat) : Option Binary64 := ofRatio n 1

def mul (a b : Binary64) : Option Binary64 :=
  let (n, d) := scaled (a.mantissa * b.mantissa) (a.exponent + b.exponent)
  ofRatio n d

def div (a b : Binary64) : Option Binary64 :=
  let (n, d) := scaled a.mantissa (a.exponent - b.exponent)
  ofRatio n (d * b.mantissa)

def add (a b : Binary64) : Option Binary64 :=
  let low := min a.exponent b.exponent
  let sum := a.mantissa * Nat.pow 2 (a.exponent - low).toNat + b.mantissa * Nat.pow 2 (b.exponent - low).toNat
  let (n, d) := scaled sum low
  ofRatio n d

def atMost (a b : Binary64) : Bool :=
  let low := min a.exponent b.exponent
  a.mantissa * Nat.pow 2 (a.exponent - low).toNat ≤ b.mantissa * Nat.pow 2 (b.exponent - low).toNat

def tenPower (k : Nat) : Option Binary64 := ofNat (Nat.pow 10 k)

/-- Divides by the largest power of ten of the format, `times` times over. -/
def shrink : (times : Nat) → Binary64 → Option Binary64
  | 0, f => some f
  | times + 1, f =>
    if f.mantissa = 0 then some f
    else match (tenPower 308).bind f.div with
      | some smaller => shrink times smaller
      | none => none

/-- Multiplies by a power of ten, `none` where the result is too large. A power that the format does not hold is
applied in steps, each of them rounded. -/
def scaleTen (f : Binary64) (exponent : Int) : Option Binary64 :=
  if f.mantissa = 0 then some f
  else if 308 < exponent then none
  else if 0 ≤ exponent then (tenPower exponent.toNat).bind f.mul
  else
    let steps := (exponent.natAbs - 1) / 308
    match shrink steps f with
    | some smaller => (tenPower (exponent.natAbs - 308 * steps)).bind smaller.div
    | none => none

end Binary64

end PodAttach.Number

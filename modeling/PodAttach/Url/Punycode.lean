/-!
# Punycode

Writes any characters with ASCII letters, digits and hyphens: the ASCII characters first, then, after a hyphen, where
the others are inserted, each place as the distance from the one before in a number system whose digits adapt to the
distances seen so far.
-/

namespace PodAttach.Url.Punycode

def base : Nat := 36
def tMin : Nat := 1
def tMax : Nat := 26
def skew : Nat := 38
def damp : Nat := 700
def initialBias : Nat := 72
def firstCode : Nat := 128

/-- The format works with numbers below this one; a distance that goes beyond is refused. -/
def limit : Nat := UInt32.size

/-- The threshold below which a digit at position `k` is the last of its number. -/
def threshold (bias k : Nat) : Nat :=
  if k ≤ bias + tMin then tMin else if bias + tMax ≤ k then tMax else k - bias

def adaptLoop (k delta : Nat) : Nat :=
  if delta ≤ (base - tMin) * tMax / 2 then k + (base - tMin + 1) * delta / (delta + skew)
  else adaptLoop (k + base) (delta / (base - tMin))
termination_by delta
decreasing_by
  rename_i h
  simp only [base, tMin, tMax] at *
  omega

def adapt (delta count : Nat) (first : Bool) : Nat :=
  let delta := if first then delta / damp else delta / 2
  adaptLoop 0 (delta + delta / count)

/-! ### Reading -/

def digit? (c : Char) : Option Nat :=
  if c.isLower then some (c.toNat - 'a'.toNat)
  else if c.isUpper then some (c.toNat - 'A'.toNat)
  else if c.isDigit then some (c.toNat - '0'.toNat + 26)
  else none

structure Reader where
  done : List Char
  code : Nat := firstCode
  /-- Where the last character was inserted, plus the digits read since then. -/
  place : Nat := 0
  start : Nat := 0
  bias : Nat := initialBias
  weight : Nat := 1
  position : Nat := base

/-- Reads one digit; the last digit of a number inserts a character. -/
def Reader.step? (r : Reader) (c : Char) : Option Reader :=
  match digit? c with
  | none => none
  | some d =>
    let place := r.place + d * r.weight
    let t := threshold r.bias r.position
    if place ≥ limit then none
    else if d < t then
      let count := r.done.length + 1
      let code := r.code + place / count
      let at_ := place % count
      if h : code.isValidChar then
        some { done := r.done.take at_ ++ Char.ofNatAux code h :: r.done.drop at_,
               code := code, place := at_ + 1, start := at_ + 1,
               bias := adapt (place - r.start) count (r.start == 0) }
      else none
    else if r.weight * (base - t) ≥ limit then none
    else some { r with place := place, weight := r.weight * (base - t), position := r.position + base }

/-- Reads a Punycode text, `none` if it is not one. A hyphen with nothing before it separates nothing. -/
def decode? (cs : List Char) : Option (List Char) :=
  let tail := (cs.reverse.takeWhile (· != '-')).reverse
  let basic := cs.take (cs.length - tail.length - 1)
  let digits := if basic.isEmpty then cs else tail
  if !basic.all (·.toNat < 0x80) then none
  else match digits.foldlM (fun (r : Reader) c => r.step? c) { done := basic } with
    | some r => if r.weight == 1 && r.position == base then some r.done else none
    | none => none

/-! ### Writing -/

def digitChar (d : Nat) : Char := if d < 26 then Char.ofNat ('a'.toNat + d) else Char.ofNat ('0'.toNat + (d - 26))

/-- The digits of one distance, from position `k` on. -/
def number (bias k q : Nat) : List Char :=
  let t := threshold bias k
  if q < t then [digitChar q]
  else digitChar (t + (q - t) % (base - t)) :: number bias (k + base) ((q - t) / (base - t))
termination_by q
decreasing_by
  rename_i h
  have h1 : 1 ≤ threshold bias k := by
    unfold threshold tMin tMax
    split
    · omega
    · split <;> omega
  have h2 : (q - threshold bias k) / (base - threshold bias k) ≤ q - threshold bias k := Nat.div_le_self _ _
  omega

structure Writer where
  out : List Char
  placed : Nat
  basic : Nat
  delta : Nat := 0
  bias : Nat := initialBias

/-- Places every occurrence of `code`, having gone on from the code point before it. -/
def Writer.place (w : Writer) (code : Nat) (cs : List Char) : Writer :=
  cs.foldl (fun w c =>
    if c.toNat < code then { w with delta := w.delta + 1 }
    else if c.toNat = code then
      { w with out := w.out ++ number w.bias base w.delta, placed := w.placed + 1, delta := 0,
               bias := adapt w.delta (w.placed + 1) (w.placed == w.basic) }
    else w) w

/-- Places the code points beyond ASCII in increasing order, `codes` being those that occur. -/
def Writer.run (w : Writer) (next : Nat) (codes : List Nat) (cs : List Char) : Writer :=
  match codes with
  | [] => w
  | code :: codes =>
    let w := { w with delta := w.delta + (code - next) * (w.placed + 1) }
    let w := w.place code cs
    Writer.run { w with delta := w.delta + 1 } (code + 1) codes cs

def insertCode (code : Nat) : List Nat → List Nat
  | [] => [code]
  | c :: cs => if code < c then code :: c :: cs else if code = c then c :: cs else c :: insertCode code cs

def encode (cs : List Char) : List Char :=
  let basic := cs.filter (·.toNat < 0x80)
  let codes := (cs.filter (!·.toNat < 0x80)).foldl (fun codes c => insertCode c.toNat codes) []
  let out := if basic.isEmpty then [] else basic ++ ['-']
  (Writer.run { out := out, placed := basic.length, basic := basic.length } firstCode codes cs).out

end PodAttach.Url.Punycode

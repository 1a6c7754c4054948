import PodAttach.Text.Decimal
import PodAttach.Unicode.Table

/-!
# IPv6 addresses

Eight groups of up to four hexadecimal digits. A double colon stands once for one or more groups of zero, and the last
two groups may be written as a dotted IPv4 address. The written form shortens the first longest run of at least two
zero groups.
-/

namespace PodAttach.Url.Ipv6

open Text

def group? (cs : List Char) : Option UInt16 :=
  if cs.isEmpty || cs.length > 4 then none
  else (cs.mapM Unicode.hexDigit?).map fun ds => UInt16.ofNat (ds.foldl (fun n d => n * 16 + d) 0)

/-- A decimal byte without a leading zero. -/
def octet? (cs : List Char) : Option Nat :=
  match readDigits? cs with
  | some n => if n ≤ 255 ∧ (cs.length = 1 ∨ cs.head? ≠ some '0') then some n else none
  | none => none

def dotted? (cs : List Char) : Option (List UInt16) :=
  match (cs.splitOn '.').mapM octet? with
  | some [a, b, c, d] => some [UInt16.ofNat (a * 256 + b), UInt16.ofNat (c * 256 + d)]
  | _ => none

/-- The groups between single colons; only the last of an address may be dotted. -/
def groups? (mayEndDotted : Bool) (cs : List Char) : Option (List UInt16) :=
  if cs.isEmpty then some []
  else
    let texts := cs.splitOn ':'
    match texts.dropLast.mapM group?, texts.getLast? with
    | some before, some last =>
      match group? last with
      | some g => some (before ++ [g])
      | none => if mayEndDotted then (dotted? last).map (before ++ ·) else none
    | _, _ => none

def cutDouble? : List Char → Option (List Char × List Char)
  | ':' :: ':' :: after => some ([], after)
  | [] => none
  | c :: cs => (cutDouble? cs).map fun (before, after) => (c :: before, after)

def address? (cs : List Char) : Option (List UInt16) :=
  match cutDouble? cs with
  | none => (groups? true cs).bind fun gs => if gs.length = 8 then some gs else none
  | some (before, after) =>
    match groups? false before, groups? true after with
    | some xs, some ys =>
      if xs.length + ys.length ≤ 7 then some (xs ++ List.replicate (8 - xs.length - ys.length) 0 ++ ys) else none
    | _, _ => none

/-- The length of the run of zero groups that starts at `i`. -/
def zerosAt (gs : List UInt16) (i : Nat) : Nat := ((gs.drop i).takeWhile (· == 0)).length

/-- Start and length of the first longest run of zero groups. -/
def longestZeros (gs : List UInt16) : Nat × Nat :=
  (List.range gs.length).foldl (fun best i => if best.2 < zerosAt gs i then (i, zerosAt gs i) else best) (0, 0)

def render (gs : List UInt16) : String :=
  let hex := fun (part : List UInt16) =>
    String.intercalate ":" (part.map fun g => String.ofList (Nat.toDigits 16 g.toNat))
  let (start, length) := longestZeros gs
  if length < 2 then hex gs else hex (gs.take start) ++ "::" ++ hex (gs.drop (start + length))

end PodAttach.Url.Ipv6

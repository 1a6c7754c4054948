import PodAttach.Text.Decimal
import PodAttach.Unicode.Table

/-!
# IPv4 addresses in host names

A host name whose last part is a number is an address. It has up to four parts, each in decimal, in octal after a
leading zero or in hexadecimal after `0x`; the last part fills all bytes that are left.
-/

namespace PodAttach.Url.Ipv4

open Text

def digitsIn (radix : Nat) (cs : List Char) : Option Nat :=
  cs.foldl (fun n c => match n, Unicode.hexDigit? c with
    | some n, some d => if d < radix then some (n * radix + d) else none
    | _, _ => none) (some 0)

/-- One part; the prefix of a radix alone is zero. -/
def part? : List Char → Option Nat
  | [] => none
  | ['0'] => some 0
  | '0' :: c :: cs => if c == 'x' || c == 'X' then digitsIn 16 cs else digitsIn 8 (c :: cs)
  | cs => digitsIn 10 cs

/-- The parts of a name, without the empty one after a final point. -/
def parts (name : List Char) : List (List Char) :=
  let all := name.splitOn '.'
  if all.length > 1 && all.getLast? == some [] then all.dropLast else all

def endsInNumber (name : List Char) : Bool :=
  match (parts name).getLast? with
  | none => false
  | some [] => false
  | some last => last.all Char.isDigit || (part? last).isSome

/-- All parts but the last are single bytes; the last counts from the byte they leave off. -/
def value? (numbers : List Nat) : Option UInt32 :=
  match numbers.reverse with
  | [] => none
  | last :: before =>
    if numbers.length > 4 || last ≥ Nat.pow 256 (5 - numbers.length) || before.any (· > 255) then none
    else
      let high := before.reverse.foldl (fun n b => n * 256 + b) 0
      some (UInt32.ofNat (high * Nat.pow 256 (5 - numbers.length) + last))

def address? (name : List Char) : Option UInt32 := (parts name).mapM part? >>= value?

def render (address : UInt32) : String :=
  let byte := fun (k : Nat) => Nat.repr (address.toNat / Nat.pow 256 k % 256)
  String.intercalate "." [byte 3, byte 2, byte 1, byte 0]

end PodAttach.Url.Ipv4

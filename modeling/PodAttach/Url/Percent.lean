import PodAttach.Text.Utf8
import PodAttach.Unicode.Table

/-!
# Percent encoding

A byte may be written as a percent sign and two hexadecimal digits. Each part of a URL has its own set of characters
that are always written so; beyond ASCII every byte is.
-/

namespace PodAttach.Url

open Text

def hexChar (n : Nat) : Char := if n < 10 then Char.ofNat ('0'.toNat + n) else Char.ofNat ('A'.toNat + (n - 10))

def percentByte (b : UInt8) : List Char := ['%', hexChar (b.toNat / 16), hexChar (b.toNat % 16)]

/-- Writes the characters of `set` as the percent encoding of their UTF-8 bytes, and all others as they are. -/
def percentEncode (set : Char → Bool) (cs : List Char) : List Char :=
  cs.flatMap fun c => if set c then (String.utf8EncodeChar c).flatMap percentByte else [c]

/-- The byte that the first two characters write, if both are hexadecimal digits. -/
def hexPair? : List Char → Option UInt8
  | a :: b :: _ =>
    match Unicode.hexDigit? a, Unicode.hexDigit? b with
    | some high, some low => some (UInt8.ofNat (high * 16 + low))
    | _, _ => none
  | _ => none

/-- The bytes of a text after its first `skip` characters. -/
def percentDecodeFrom : (skip : Nat) → List Char → List UInt8
  | _, [] => []
  | skip + 1, _ :: cs => percentDecodeFrom skip cs
  | 0, c :: cs =>
    match if c == '%' then hexPair? cs else none with
    | some byte => byte :: percentDecodeFrom 2 cs
    | none => String.utf8EncodeChar c ++ percentDecodeFrom 0 cs

/-- The bytes of a text, with each percent sign and two hexadecimal digits read as one byte. A percent sign that no two
digits follow stands for itself. -/
def percentDecode (cs : List Char) : List UInt8 := percentDecodeFrom 0 cs

/-! ### Sets of characters that are always encoded -/

/-- Controls, and everything beyond ASCII. -/
def controlSet (c : Char) : Bool := c.toNat < 0x20 || 0x7e < c.toNat

def fragmentSet (c : Char) : Bool := controlSet c || " \"<>`".toList.contains c

def querySet (c : Char) : Bool := controlSet c || " \"#<>".toList.contains c

/-- Schemes with a host of their own kind encode the single quote too. -/
def specialQuerySet (c : Char) : Bool := querySet c || c == '\''

def pathSet (c : Char) : Bool := fragmentSet c || "#?\x7b\x7d".toList.contains c

/-! ### Forms

A query holds pairs of a name and a value, joined by ampersands. In them a plus sign stands for a space. -/

def formText (cs : List Char) : String :=
  String.ofList (Utf8.decodeLossy (percentDecode (cs.map fun c => if c == '+' then ' ' else c)))

/-- The name ends at the first equals sign. -/
def formPair (cs : List Char) : String × String :=
  (formText (cs.takeWhile (· != '=')), formText ((cs.dropWhile (· != '=')).drop 1))

/-- The pairs of a query, in order; nothing between two ampersands is no pair. -/
def formPairs (query : List Char) : List (String × String) :=
  ((query.splitOn '&').filter (!·.isEmpty)).map formPair

end PodAttach.Url

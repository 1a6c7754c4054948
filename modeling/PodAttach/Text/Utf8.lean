/-!
# UTF-8

Bytes are read one at a time by a machine whose state says how much of a sequence is still missing. A byte that cannot
continue the sequence ends it: each longest prefix of a sequence that is never completed reads as one U+FFFD, and the
byte itself is read again as the start of another. The strict reading refuses where the lossy one would put U+FFFD.
-/

namespace PodAttach.Text.Utf8

/-- What a lead byte announces: `missing` continuation bytes, the first of them between `low` and `high`, after the
payload bits `bits` of the lead byte itself. -/
structure Pending where
  missing : Nat
  low : UInt8
  high : UInt8
  bits : Nat
deriving DecidableEq, Repr

/-- `none` between characters. -/
abbrev State := Option Pending

/-- What the reader makes of a piece of input: a character, or a sequence that cannot be completed. -/
inductive Piece where
  | char (c : Char)
  | damaged
deriving DecidableEq, Repr

/-- A byte that starts a character. The second byte is narrowed where a sequence would be overlong, a surrogate or past
U+10FFFF. -/
def start (b : UInt8) : List Piece × State :=
  if b < 0x80 then ([.char (Char.ofNat b.toNat)], none)
  else if b < 0xc2 then ([.damaged], none)
  else if b < 0xe0 then ([], some ⟨1, 0x80, 0xbf, b.toNat % 32⟩)
  else if b = 0xe0 then ([], some ⟨2, 0xa0, 0xbf, 0⟩)
  else if b = 0xed then ([], some ⟨2, 0x80, 0x9f, 13⟩)
  else if b < 0xf0 then ([], some ⟨2, 0x80, 0xbf, b.toNat % 16⟩)
  else if b = 0xf0 then ([], some ⟨3, 0x90, 0xbf, 0⟩)
  else if b < 0xf4 then ([], some ⟨3, 0x80, 0xbf, b.toNat % 8⟩)
  else if b = 0xf4 then ([], some ⟨3, 0x80, 0x8f, 4⟩)
  else ([.damaged], none)

def step : State → UInt8 → List Piece × State
  | none, b => start b
  | some o, b =>
    if o.low ≤ b ∧ b ≤ o.high then
      let bits := o.bits * 64 + b.toNat % 64
      if o.missing ≤ 1 then ([.char (Char.ofNat bits)], none)
      else ([], some ⟨o.missing - 1, 0x80, 0xbf, bits⟩)
    else
      let (pieces, state) := start b
      (.damaged :: pieces, state)

/-- What is left of an unfinished sequence at the end of the input. -/
def finish : State → List Piece
  | none => []
  | some _ => [.damaged]

def read (state : State) : List UInt8 → List Piece
  | [] => finish state
  | b :: bs => (step state b).1 ++ read (step state b).2 bs

def Piece.lossy : Piece → Char
  | .char c => c
  | .damaged => '\ufffd'

def Piece.strict? : Piece → Option Char
  | .char c => some c
  | .damaged => none

/-- Reads any bytes, with one U+FFFD for each sequence that cannot be completed. -/
def decodeLossy (bytes : List UInt8) : List Char := (read none bytes).map Piece.lossy

/-- Reads well-formed bytes only. -/
def decode? (bytes : List UInt8) : Option (List Char) := (read none bytes).mapM Piece.strict?

def encode (cs : List Char) : List UInt8 := cs.flatMap String.utf8EncodeChar

/-- The length of a text in bytes. -/
def size (cs : List Char) : Nat := (cs.map Char.utf8Size).foldl (· + ·) 0

end PodAttach.Text.Utf8

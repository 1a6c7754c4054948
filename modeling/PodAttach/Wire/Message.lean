import PodAttach.Json.Fault
import PodAttach.Json.Text

/-!
# Shell messages

What a shell session and its server say to each other, one JSON object a frame, and what is wrong with a frame that is
no message.
-/

namespace PodAttach.Wire

inductive Message where
  | stdin (data : String)
  | stdout (data : String)
  | resize (cols rows : UInt16)
deriving DecidableEq, Repr

inductive Violation where
  | malformed (fault : Json.Fault)
  | unknownOperation (operation : String)
  | unexpectedOperation (operation : String)
  | missingData (operation : String)
  | invalidSize (cols rows : UInt16)
  | binaryFrame
deriving DecidableEq, Repr

def Violation.message : Violation → String
  | .malformed fault => "malformed frame: " ++ fault.message
  | .unknownOperation operation => "unknown operation '" ++ operation ++ "'"
  | .unexpectedOperation operation => "unexpected operation '" ++ operation ++ "'"
  | .missingData operation => "operation '" ++ operation ++ "' carries no data"
  | .invalidSize cols rows => "invalid terminal size " ++ Nat.repr cols.toNat ++ "x" ++ Nat.repr rows.toNat
  | .binaryFrame => "binary frame in shell session"

namespace Message

def operation : Message → String
  | stdin _ => "stdin"
  | stdout _ => "stdout"
  | resize _ _ => "resize"

/-- Both dimensions of a terminal are positive. -/
def sized (cols rows : UInt16) : Except Violation Message :=
  if cols = 0 ∨ rows = 0 then .error (.invalidSize cols rows) else .ok (.resize cols rows)

/-- Sets the type of the remote terminal; sent once, when a shell opens. -/
def priming : Message := stdin "export TERM=xterm && clear \r"

def members : Message → List Char
  | stdin data => ",\"data\":".toList ++ Json.writeText data
  | stdout data => ",\"data\":".toList ++ Json.writeText data
  | resize cols rows =>
    ",\"cols\":".toList ++ Nat.toDigits 10 cols.toNat ++ ",\"rows\":".toList ++ Nat.toDigits 10 rows.toNat

def encode (m : Message) : String :=
  String.ofList ("\x7b\"operation\":".toList ++ Json.writeText m.operation ++ m.members ++ ['\x7d'])

end Message

end PodAttach.Wire

import PodAttach.Number.Shortest
import PodAttach.Text.Quoted
import PodAttach.Text.Utf8

/-!
# Faults of a JSON text

Why a text does not read as the value that was wanted, and where in the text that showed. A reader only knows how much
of the text is left; line and column follow from that and the whole text.
-/

namespace PodAttach.Json

open Number

/-- A value of another kind than the one that was wanted. -/
inductive Found where
  | null
  | bool (value : Bool)
  | integer (value : Int)
  | fraction (negative : Bool) (magnitude : Binary64)
  | text (value : String)
  | list
  | object
deriving DecidableEq, Repr

def Found.describe : Found → String
  | .null => "null"
  | .bool true => "boolean `true`"
  | .bool false => "boolean `false`"
  | .integer n => "integer `" ++ toString n ++ "`"
  | .fraction negative f => "floating point `" ++ f.text negative ++ "`"
  | .text s => "string " ++ Text.quote s
  | .list => "sequence"
  | .object => "map"

inductive Cause where
  | missingField (name : String)
  | duplicateField (name : String)
  | wrongType (found : Found) (expected : String)
  | wrongValue (found : Found) (expected : String)
  | wrongLength (length : Nat) (expected : String)
  | endInValue
  | endInText
  | endInList
  | endInObject
  | expectedValue
  | expectedWord
  | expectedColon
  | expectedListEnd
  | expectedObjectEnd
  | keyNotText
  | trailingComma
  | trailingCharacters
  | controlCharacter
  | invalidEscape
  | loneSurrogate
  | endOfHexEscape
  | invalidNumber
  | numberTooLarge
deriving DecidableEq, Repr

def Cause.describe : Cause → String
  | .missingField name => "missing field `" ++ name ++ "`"
  | .duplicateField name => "duplicate field `" ++ name ++ "`"
  | .wrongType found expected => "invalid type: " ++ found.describe ++ ", expected " ++ expected
  | .wrongValue found expected => "invalid value: " ++ found.describe ++ ", expected " ++ expected
  | .wrongLength length expected => "invalid length " ++ Nat.repr length ++ ", expected " ++ expected
  | .endInValue => "EOF while parsing a value"
  | .endInText => "EOF while parsing a string"
  | .endInList => "EOF while parsing a list"
  | .endInObject => "EOF while parsing an object"
  | .expectedValue => "expected value"
  | .expectedWord => "expected ident"
  | .expectedColon => "expected `:`"
  | .expectedListEnd => "expected `,` or `]`"
  | .expectedObjectEnd => "expected `,` or `\x7d`"
  | .keyNotText => "key must be a string"
  | .trailingComma => "trailing comma"
  | .trailingCharacters => "trailing characters"
  | .controlCharacter => "control character (\\u0000-\\u001F) found while parsing a string"
  | .invalidEscape => "invalid escape"
  | .loneSurrogate => "lone leading surrogate in hex escape"
  | .endOfHexEscape => "unexpected end of hex escape"
  | .invalidNumber => "invalid number"
  | .numberTooLarge => "number out of range"

/-- A cause, with the number of bytes that are left behind it. -/
structure Stop where
  cause : Cause
  left : Nat
deriving DecidableEq, Repr

/-- Stops in front of `rest`. -/
def Stop.before {α : Type} (cause : Cause) (rest : List Char) : Except Stop α :=
  .error ⟨cause, Text.Utf8.size rest⟩

/-- Stops after the first byte of `rest`, or at the end. -/
def Stop.within {α : Type} (cause : Cause) (rest : List Char) : Except Stop α :=
  .error ⟨cause, Text.Utf8.size rest - 1⟩

def Stop.atEnd {α : Type} (cause : Cause) : Except Stop α := .error ⟨cause, 0⟩

/-- Lines count from 1; a column counts the bytes since the last line break. -/
structure Fault where
  cause : Cause
  line : Nat
  column : Nat
deriving DecidableEq, Repr

def Fault.message (fault : Fault) : String :=
  fault.cause.describe ++ " at line " ++ Nat.repr fault.line ++ " column " ++ Nat.repr fault.column

/-- Line and column after some bytes of a text. -/
def lineColumn (bytes : List UInt8) : Nat × Nat :=
  bytes.foldl (fun (place : Nat × Nat) (b : UInt8) => if b = 0x0a then (place.1 + 1, 0) else (place.1, place.2 + 1)) (1, 0)

def Stop.locate (text : List Char) (stop : Stop) : Fault :=
  let bytes := Text.Utf8.encode text
  let (line, column) := lineColumn (bytes.take (bytes.length - stop.left))
  ⟨stop.cause, line, column⟩

end PodAttach.Json

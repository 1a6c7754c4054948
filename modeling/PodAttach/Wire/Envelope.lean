import PodAttach.Json.Members
import PodAttach.Wire.Message

/-!
# Frames as envelopes

A shell frame is read in two steps. The envelope takes the four members that some message uses, each at most once and
of its own type, and passes over all others; a list holds the same four values by position. Which of them matter is up
to the operation.
-/

namespace PodAttach.Wire

open Json

structure Envelope where
  operation : String
  data : Option String
  cols : Option UInt16
  rows : Option UInt16
deriving DecidableEq, Repr

namespace Envelope

def title : String := "struct Envelope"

structure Seen where
  operation : Option String := none
  data : Option (Option String) := none
  cols : Option (Option UInt16) := none
  rows : Option (Option UInt16) := none
deriving DecidableEq, Repr

/-- Reads a member that must not have been seen. -/
def readOnce {α : Type} (name : String) (seen : Option α) (reader : Reader α) : Reader α := fun cs =>
  if seen.isSome then Stop.closing (.duplicateField name) '\x7d' cs else readMember reader cs

def Seen.read (seen : Seen) (key : String) (cs : List Char) : Except Stop (Seen × List Char) :=
  match key with
  | "operation" => (readOnce key seen.operation readString cs).map fun (value, rest) =>
    ({ seen with operation := some value }, rest)
  | "data" => (readOnce key seen.data (readNullable readString) cs).map fun (value, rest) =>
    ({ seen with data := some value }, rest)
  | "cols" => (readOnce key seen.cols (readNullable readUInt16) cs).map fun (value, rest) =>
    ({ seen with cols := some value }, rest)
  | "rows" => (readOnce key seen.rows (readNullable readUInt16) cs).map fun (value, rest) =>
    ({ seen with rows := some value }, rest)
  | _ => (readColon cs >>= skipValue).map fun rest => (seen, rest)

theorem readOnce_consumes {α : Type} {name : String} {seen : Option α} {reader : Reader α} (hr : reader.Consumes) :
    Reader.Consumes (readOnce name seen reader) := by
  intro cs value rest h
  unfold readOnce at h
  split at h
  · unfold Stop.closing at h
    split at h <;> simp [Stop.before] at h
  · exact readMember_consumes hr h

theorem Seen.length_read_le {seen next : Seen} {key : String} {cs rest : List Char}
    (h : seen.read key cs = .ok (next, rest)) : rest.length ≤ cs.length := by
  unfold Seen.read at h
  split at h
  · obtain ⟨⟨value, left⟩, hv, he⟩ := exists_of_map_eq_ok h
    simp only [Prod.mk.injEq] at he
    exact he.2 ▸ readOnce_consumes readString_consumes hv
  · obtain ⟨⟨value, left⟩, hv, he⟩ := exists_of_map_eq_ok h
    simp only [Prod.mk.injEq] at he
    exact he.2 ▸ readOnce_consumes (readNullable_consumes readString_consumes) hv
  · obtain ⟨⟨value, left⟩, hv, he⟩ := exists_of_map_eq_ok h
    simp only [Prod.mk.injEq] at he
    exact he.2 ▸ readOnce_consumes (readNullable_consumes readUInt16_consumes) hv
  · obtain ⟨⟨value, left⟩, hv, he⟩ := exists_of_map_eq_ok h
    simp only [Prod.mk.injEq] at he
    exact he.2 ▸ readOnce_consumes (readNullable_consumes readUInt16_consumes) hv
  · obtain ⟨left, hv, he⟩ := exists_of_map_eq_ok h
    simp only [Prod.mk.injEq] at he
    cases hc : readColon cs with
    | error stop => simp [hc, bind, Except.bind] at hv
    | ok more =>
      have h1 := length_readColon_lt hc
      have h2 := length_skipValue_le (by simpa [hc, bind, Except.bind] using hv)
      rw [← he.2]
      omega

/-- The envelope of an object all of whose members have been seen. `rest` starts with the closing bracket. -/
def Seen.complete (seen : Seen) (rest : List Char) : Except Stop (Envelope × List Char) :=
  match seen.operation with
  | some operation => .ok (⟨operation, seen.data.join, seen.cols.join, seen.rows.join⟩, rest.drop 1)
  | none => Stop.closing (.missingField "operation") '\x7d' rest

/-- Reads the members of an object behind its opening bracket. -/
def readMembers (isFirst : Bool) (seen : Seen) (cs : List Char) : Except Stop (Envelope × List Char) :=
  match _hn : nextMember isFirst cs with
  | .error stop => .error stop
  | .ok (.closing rest) => seen.complete rest
  | .ok (.item rest) =>
    match _hk : readText rest with
    | .error stop => .error stop
    | .ok (key, rest) =>
      match _hv : seen.read (String.ofList key) rest with
      | .error stop => .error stop
      | .ok (seen, rest) => readMembers false seen rest
termination_by cs.length
decreasing_by
  have h1 := length_nextMember_lt _hn
  have h2 := length_readText_lt _hk
  have h3 := Seen.length_read_le _hv
  omega

/-- Reads the elements of a list behind its opening bracket: the operation and up to three more. -/
def readElements (cs : List Char) : Except Stop (Envelope × List Char) := do
  match ← nextElement true cs with
  | .closing rest => Stop.closing (.wrongLength 0 (title ++ " with 4 elements")) ']' rest
  | .item rest =>
    let (operation, rest) ← readString rest
    let (data, rest) ← optionalElement (readNullable readString) rest
    let (cols, rest) ← optionalElement (readNullable readUInt16) rest
    let (rows, rest) ← optionalElement (readNullable readUInt16) rest
    return (⟨operation, data.join, cols.join, rows.join⟩, ← closeList rest)
where
  optionalElement {α : Type} (reader : Reader α) : Reader (Option α) := fun cs => do
    match ← nextElement false cs with
    | .closing rest => return (none, rest)
    | .item rest => (reader rest).map fun (value, rest) => (some value, rest)

def readValue : Reader Envelope := fun cs =>
  match skipBlanks cs with
  | '\x7b' :: rest => readMembers true {} rest
  | '[' :: rest => readElements rest
  | rest => rejectType title rest

def read (cs : List Char) : Except Stop Envelope := do
  let (envelope, rest) ← readValue cs
  match skipBlanks rest with
  | [] => return envelope
  | rest => Stop.within .trailingCharacters rest

/-- The message in an envelope. Members that its operation does not use have no say. -/
def toMessage (envelope : Envelope) : Except Violation Message :=
  match envelope.operation with
  | "stdin" => match envelope.data with
    | some data => .ok (.stdin data)
    | none => .error (.missingData "stdin")
  | "stdout" => match envelope.data with
    | some data => .ok (.stdout data)
    | none => .error (.missingData "stdout")
  | "resize" => Message.sized (envelope.cols.getD 0) (envelope.rows.getD 0)
  | other => .error (.unknownOperation other)

end Envelope

def Message.decode (frame : String) : Except Violation Message :=
  match Envelope.read frame.toList with
  | .ok envelope => envelope.toMessage
  | .error stop => .error (.malformed (stop.locate frame.toList))

end PodAttach.Wire

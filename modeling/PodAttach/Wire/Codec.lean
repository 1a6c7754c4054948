import PodAttach.Mode
import PodAttach.Terminal.Event
import PodAttach.Text.Utf8
import PodAttach.Wire.Envelope

/-!
# Frames of a mode

How each mode turns terminal events into frames, and frames into output. A log session sends nothing and shows every
frame as a line; a shell session exchanges messages, and shows only what they bring from the container's output.
-/

namespace PodAttach.Wire

inductive Frame where
  | text (text : String)
  | binary (bytes : List UInt8)
deriving DecidableEq, Repr

inductive Output where
  /-- Shown as it is; it may hold parts of lines and escape sequences. -/
  | raw (data : String)
  /-- Shown with a line break behind it. -/
  | line (text : String)
deriving DecidableEq, Repr

end PodAttach.Wire

namespace PodAttach.Mode

open Terminal Wire

/-- The message that an event calls for, if it calls for one in this mode. -/
def toMessage : Mode → Event → Except Violation (Option Message)
  | logs, _ => .ok none
  | shell, .input data => .ok (some (.stdin data))
  | shell, .resize cols rows => (Message.sized cols rows).map some

def encode (mode : Mode) (event : Event) : Except Violation (Option String) :=
  (mode.toMessage event).map (·.map Message.encode)

def decode : Mode → Frame → Except Violation Output
  | logs, .text text => .ok (.line text)
  | logs, .binary bytes => .ok (.line (String.ofList (Text.Utf8.decodeLossy bytes)))
  | shell, .binary _ => .error .binaryFrame
  | shell, .text text =>
    match Message.decode text with
    | .ok (.stdout data) => .ok (.raw data)
    | .ok other => .error (.unexpectedOperation other.operation)
    | .error violation => .error violation

end PodAttach.Mode

/-!
# Phases

The life of a session, from idle to closed, straight or by way of an error. Whatever is not in the table is refused and
changes nothing.
-/

namespace PodAttach

inductive Phase where
  | idle
  | connecting
  | opened
  /-- The connection failed, and the terminal is being given up. -/
  | erroring
  | closed
deriving DecidableEq, Repr

inductive Signal where
  | connect
  | transportOpened
  | cleanClose
  | transportFailed
  | tornDown
deriving DecidableEq, Repr

def Signal.name : Signal → String
  | connect => "Connect"
  | transportOpened => "TransportOpened"
  | cleanClose => "CleanClose"
  | transportFailed => "TransportFailed"
  | tornDown => "TornDown"

namespace Phase

def name : Phase → String
  | idle => "Idle"
  | connecting => "Connecting"
  | opened => "Open"
  | erroring => "Erroring"
  | closed => "Closed"

def next? : Phase → Signal → Option Phase
  | idle, .connect => some connecting
  | connecting, .transportOpened => some opened
  | opened, .cleanClose => some closed
  | connecting, .transportFailed => some erroring
  | opened, .transportFailed => some erroring
  | erroring, .tornDown => some closed
  | _, _ => none

/-- Input and frames pass only while the session is open. -/
def acceptsInput (phase : Phase) : Bool := phase = opened

def isFinal (phase : Phase) : Bool := phase = closed

def after (phase : Phase) (signal : Signal) : Phase := (phase.next? signal).getD phase

end Phase

/-- A signal that has no place in a phase. -/
structure InvalidTransition where
  source : Phase
  signal : Signal
deriving DecidableEq, Repr

def InvalidTransition.message (refusal : InvalidTransition) : String :=
  "invalid transition from " ++ refusal.source.name ++ " on " ++ refusal.signal.name

def Phase.apply (phase : Phase) (signal : Signal) : Except InvalidTransition Phase :=
  match phase.next? signal with
  | some next => .ok next
  | none => .error ⟨phase, signal⟩

end PodAttach

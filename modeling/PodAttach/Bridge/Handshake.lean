import PodAttach.Bridge.Socket
import PodAttach.Session.Basic

/-!
# The loop of a handshake

Until there is a socket, a loop waits for the end of dialling and for the terminal at once, and takes whichever it finds
first. What the terminal does then is not passed on to the session, but the latest size is kept for the opening. The loop
is left as soon as dialling ends, or when the terminal is gone.
-/

namespace PodAttach.Bridge

open Terminal

structure Handshake where
  session : Session
  /-- The latest size that came up. -/
  pending : Option Event

/-- How the loop is left, with the session as it is then. -/
inductive Exit where
  | opened (session : Session)
  | over (session : Session) (outcome : Outcome)

/-- The session is told that the connection is there, and then how large the terminal is. -/
def opening (session : Session) (pending : Option Event) : Session :=
  let session := session.onLink .opened
  match pending with
  | some event => session.onTerminal event
  | none => session

namespace Handshake

def start (session : Session) : Handshake := ⟨session, none⟩

/-- A pass that finds an event of the terminal. -/
def take (handshake : Handshake) : Event → Handshake
  | .resize cols rows => { handshake with pending := some (.resize cols rows) }
  | .input _ => handshake

/-- The pass that finds the end of the terminal's events. -/
def abandon (handshake : Handshake) : Exit := .over handshake.session .detached

/-- The pass that finds the end of dialling. -/
def conclude (handshake : Handshake) : Except DialFault Unit → Exit
  | .ok () => .opened (opening handshake.session handshake.pending)
  | .error fault =>
    let session := handshake.session.onLink (.failed fault.message)
    .over session session.outcome

/-- The passes up to the one that leaves the loop. The events are those that are found before dialling ends; `none` is
their end. -/
def run (result : Except DialFault Unit) (handshake : Handshake) : List (Option Event) → Exit
  | [] => handshake.conclude result
  | none :: _ => handshake.abandon
  | some event :: waiting => (handshake.take event).run result waiting

end Handshake

end PodAttach.Bridge

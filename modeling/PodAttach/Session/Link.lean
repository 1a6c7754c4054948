import PodAttach.Endpoint
import PodAttach.Wire.Codec

/-!
# Links

The side of a connection that a session sends on, and what the connection reports back. A link takes or refuses each
frame; the session it belongs to releases it when it is discarded.
-/

namespace PodAttach

/-- `refusal? n` is the text of the error that attempt number `n`, counted from 0, is refused with. -/
structure Link where
  refusal? : Nat → Option String
  attempts : Nat
  sent : List String
  releases : Nat

namespace Link

def new (refusal? : Nat → Option String) : Link := ⟨refusal?, 0, [], 0⟩

def unbounded : Link := new fun _ => none

def bounded (count : Nat) (reason : String) : Link :=
  new fun n => if n < count then none else some (AttachError.transport reason).message

def cut (link : Link) (reason : String) : Link :=
  { link with refusal? := fun _ => some (AttachError.transport reason).message }

def send (link : Link) (frame : String) : Link :=
  { link with
    attempts := link.attempts + 1
    sent := if (link.refusal? link.attempts).isNone then link.sent ++ [frame] else link.sent }

/-- The text of the error that the next frame will be refused with, if it will be. -/
def refusal (link : Link) : Option String := link.refusal? link.attempts

def release (link : Link) : Link := { link with releases := link.releases + 1 }

end Link

inductive LinkEvent where
  | opened
  | frame (frame : Wire.Frame)
  /-- A clean end is one that both sides agreed on. -/
  | closed (clean : Bool) (reason : String)
  | failed (reason : String)
deriving DecidableEq, Repr

end PodAttach

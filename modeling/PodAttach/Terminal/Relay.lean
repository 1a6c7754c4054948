import PodAttach.Terminal.Screen
import PodAttach.Wire.Codec

/-!
# Relays

Between a screen and the frames of a session. A relay that has been unsubscribed passes nothing on in either direction,
but still shows what it is told directly, until its screen is destroyed.
-/

namespace PodAttach.Terminal

open Wire

structure Relay where
  mode : Mode
  screen : Screen
  isSubscribed : Bool
  isDestroyed : Bool

namespace Relay

def new (screen : Screen) (mode : Mode) : Relay := ⟨mode, screen, true, false⟩

def unsubscribe (relay : Relay) : Relay := { relay with isSubscribed := false }

/-- Makes a call on the screen, unless that is destroyed. Whether the screen carries it out makes no difference. -/
def call (relay : Relay) (c : Call) : Relay :=
  if relay.isDestroyed then relay else { relay with screen := relay.screen.call c }

def write (relay : Relay) (data : String) : Relay := relay.call (.write data)

def writeLine (relay : Relay) (line : String) : Relay := relay.call (.writeLine line)

def destroy (relay : Relay) : Relay :=
  if relay.isDestroyed then relay else { relay.call .destroy with isDestroyed := true }

def outgoing (relay : Relay) (event : Event) : Except Violation (Option String) :=
  if relay.isSubscribed then relay.mode.encode event else .ok none

def showing : Output → Call
  | .raw data => .write data
  | .line text => .writeLine text

/-- Shows an incoming frame. One that violates the protocol shows nothing. -/
def incoming (relay : Relay) (frame : Frame) : Except Violation Relay :=
  if relay.isSubscribed then (relay.mode.decode frame).map fun output => relay.call (showing output)
  else .ok relay

end Relay

end PodAttach.Terminal

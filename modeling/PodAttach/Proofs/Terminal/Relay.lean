import PodAttach.Terminal.Relay

/-!
# What a relay does to its screen

Each operation of a relay by what it leaves of the four fields. A screen is only ever asked for more: its calls grow at
the end, and not at all once it is destroyed.
-/

namespace PodAttach.Terminal

@[simp] theorem Screen.calls_call (screen : Screen) (c : Call) : (screen.call c).calls = screen.calls ++ [c] := rfl

namespace Relay

@[simp] theorem mode_call (relay : Relay) (c : Call) : (relay.call c).mode = relay.mode := by
  unfold call
  split <;> rfl

@[simp] theorem isSubscribed_call (relay : Relay) (c : Call) : (relay.call c).isSubscribed = relay.isSubscribed := by
  unfold call
  split <;> rfl

@[simp] theorem isDestroyed_call (relay : Relay) (c : Call) : (relay.call c).isDestroyed = relay.isDestroyed := by
  unfold call
  split <;> rfl

theorem calls_call {relay : Relay} (c : Call) (h : relay.isDestroyed = false) :
    (relay.call c).screen.calls = relay.screen.calls ++ [c] := by
  rw [call, if_neg (by simp [h]), Screen.calls_call]

@[simp] theorem write_eq (relay : Relay) (data : String) : relay.write data = relay.call (.write data) := rfl

@[simp] theorem writeLine_eq (relay : Relay) (line : String) : relay.writeLine line = relay.call (.writeLine line) := rfl

@[simp] theorem mode_destroy (relay : Relay) : relay.destroy.mode = relay.mode := by
  unfold destroy
  split <;> simp

@[simp] theorem isDestroyed_destroy (relay : Relay) : relay.destroy.isDestroyed = true := by
  unfold destroy
  split <;> simp_all

theorem calls_destroy {relay : Relay} (h : relay.isDestroyed = false) :
    relay.destroy.screen.calls = relay.screen.calls ++ [.destroy] := by
  rw [destroy, if_neg (by simp [h])]
  exact calls_call .destroy h

@[simp] theorem mode_unsubscribe (relay : Relay) : relay.unsubscribe.mode = relay.mode := rfl

@[simp] theorem screen_unsubscribe (relay : Relay) : relay.unsubscribe.screen = relay.screen := rfl

@[simp] theorem isSubscribed_unsubscribe (relay : Relay) : relay.unsubscribe.isSubscribed = false := rfl

@[simp] theorem isDestroyed_unsubscribe (relay : Relay) : relay.unsubscribe.isDestroyed = relay.isDestroyed := rfl

/-- A subscribed relay shows what the mode makes of a frame. -/
theorem incoming_of_isSubscribed {relay : Relay} (frame : Wire.Frame) (h : relay.isSubscribed = true) :
    relay.incoming frame = (relay.mode.decode frame).map fun output => relay.call (showing output) := by
  rw [incoming, if_pos h]

theorem outgoing_of_isSubscribed {relay : Relay} (event : Event) (h : relay.isSubscribed = true) :
    relay.outgoing event = relay.mode.encode event := by
  rw [outgoing, if_pos h]

end Relay

end PodAttach.Terminal

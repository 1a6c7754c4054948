/-!
# Terminal events

What the local terminal reports to a session.
-/

namespace PodAttach.Terminal

inductive Event where
  /-- Keystrokes or pasted text, as a remote terminal expects them. -/
  | input (data : String)
  | resize (cols rows : UInt16)
deriving DecidableEq, Repr

end PodAttach.Terminal

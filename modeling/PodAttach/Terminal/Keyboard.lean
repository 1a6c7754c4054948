import PodAttach.Mode
import PodAttach.Terminal.Event

/-!
# The keyboard

What the keys of the local terminal mean to a session: most become the characters a remote terminal expects from them,
and a few make the session detach.
-/

namespace PodAttach.Terminal

inductive KeyCode where
  | char (c : Char)
  | function (number : UInt8)
  | enter | tab | backTab | backspace | escape
  | up | down | left | right
  | home | endKey | insert | delete | pageUp | pageDown
  | silent
deriving DecidableEq, Repr

structure Modifiers where
  shift : Bool
  ctrl : Bool
  alt : Bool
  superKey : Bool
  hyper : Bool
  metaKey : Bool
deriving DecidableEq, Repr

def Modifiers.none : Modifiers := ⟨false, false, false, false, false, false⟩

inductive KeyMotion where
  | press
  /-- The key is still held down. -/
  | again
  | release
deriving DecidableEq, Repr

structure Key where
  code : KeyCode
  modifiers : Modifiers
  motion : KeyMotion
deriving DecidableEq, Repr

inductive Input where
  | key (key : Key)
  | paste (text : String)
  | resize (cols rows : UInt16)
  | mouse
  | focus (gained : Bool)
deriving DecidableEq, Repr

inductive Action where
  | forward (event : Event)
  | detach
deriving DecidableEq, Repr

namespace Key

/-- Control and a closing bracket detach in every mode; so does a five, which some terminals send for it. A log, which
takes no input, is also left with control and `c`, or with a plain `q`. -/
def isDetach (key : Key) (mode : Mode) : Bool :=
  match key.code with
  | .char c =>
    (key.modifiers.ctrl && (c == ']' || c == '5')) ||
      (mode == .logs && ((key.modifiers.ctrl && c == 'c') || (key.modifiers == .none && c == 'q')))
  | _ => false

def controlChar? (c : Char) : Option Char :=
  let lower := c.toLower
  if lower.isLower then some (Char.ofNat (lower.toNat % 32))
  else if c == ' ' || c == '@' || c == '2' then some '\x00'
  else if c == '[' || c == '3' then some '\x1b'
  else if c == '\\' || c == '4' then some '\x1c'
  else if c == '^' || c == '6' then some '\x1e'
  else if c == '_' || c == '7' then some '\x1f'
  else none

def functionKey? : Nat → Option String
  | 1 => some "\x1bOP"
  | 2 => some "\x1bOQ"
  | 3 => some "\x1bOR"
  | 4 => some "\x1bOS"
  | 5 => some "\x1b[15~"
  | 6 => some "\x1b[17~"
  | 7 => some "\x1b[18~"
  | 8 => some "\x1b[19~"
  | 9 => some "\x1b[20~"
  | 10 => some "\x1b[21~"
  | 11 => some "\x1b[23~"
  | 12 => some "\x1b[24~"
  | _ => none

/-- What a key sends by itself or with control. -/
def plain? (key : Key) : Option String :=
  match key.code with
  | .char c => if key.modifiers.ctrl then (controlChar? c).map String.singleton else some (String.singleton c)
  | .function number => functionKey? number.toNat
  | .enter => some "\r"
  | .tab => some "\t"
  | .backTab => some "\x1b[Z"
  | .backspace => some "\x7f"
  | .escape => some "\x1b"
  | .up => some "\x1b[A"
  | .down => some "\x1b[B"
  | .right => some "\x1b[C"
  | .left => some "\x1b[D"
  | .home => some "\x1b[H"
  | .endKey => some "\x1b[F"
  | .insert => some "\x1b[2~"
  | .delete => some "\x1b[3~"
  | .pageUp => some "\x1b[5~"
  | .pageDown => some "\x1b[6~"
  | .silent => none

/-- What a key sends. Alt puts an escape in front, except together with control. -/
def text? (key : Key) : Option String :=
  key.plain?.map fun text => if key.modifiers.alt && !key.modifiers.ctrl then "\x1b" ++ text else text

end Key

/-- What an input means to a session, if anything. -/
def Input.action? (input : Input) (mode : Mode) : Option Action :=
  match input with
  | .key pressed =>
    if pressed.motion == .release then none
    else if pressed.isDetach mode then some .detach
    else pressed.text?.map fun text => .forward (.input text)
  | .paste text => some (.forward (.input text))
  | .resize cols rows => some (.forward (.resize cols rows))
  | .mouse => none
  | .focus _ => none

end PodAttach.Terminal

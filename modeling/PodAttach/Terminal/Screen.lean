/-!
# Screens

The screen of the local terminal: a writer of text, and what is shown through it. Any write may be refused; a refusal is
reported to the caller and touches nothing else. A destroyed screen stays dark.
-/

namespace PodAttach.Terminal

/-- Takes texts one after the other; `refuses n` says whether its write number `n`, counted from 0, comes to nothing. -/
structure Writer where
  refuses : Nat → Bool
  attempts : Nat
  output : String

namespace Writer

def new (refuses : Nat → Bool) : Writer := ⟨refuses, 0, ""⟩

def takes (writer : Writer) (text : String) : Bool := text = "" || !writer.refuses writer.attempts

/-- Writes a text, which for an empty one means nothing at all. -/
def write (writer : Writer) (text : String) : Writer :=
  if text = "" then writer
  else if writer.refuses writer.attempts then { writer with attempts := writer.attempts + 1 }
  else { writer with attempts := writer.attempts + 1, output := writer.output ++ text }

end Writer

inductive Call where
  | write (data : String)
  | writeLine (line : String)
  | destroy
deriving DecidableEq, Repr

structure Screen where
  writer : Writer
  isDestroyed : Bool
  calls : List Call

namespace Screen

def new (writer : Writer) : Screen := ⟨writer, false, []⟩

def output (screen : Screen) : String := screen.writer.output

/-- A raw terminal moves to a new line only if it is told both to go back and to go down. -/
def lineBreak : String := "\r\n"

/-- The texts that a call writes, each only if those before it were taken. -/
def Call.texts : Call → List String
  | .write data => [data]
  | .writeLine line => [line, lineBreak]
  | .destroy => []

def writeAll (writer : Writer) : List String → Writer
  | [] => writer
  | text :: texts => if writer.takes text then writeAll (writer.write text) texts else writer.write text

def takesAll (writer : Writer) : List String → Bool
  | [] => true
  | text :: texts => writer.takes text && takesAll (writer.write text) texts

def call (screen : Screen) (c : Call) : Screen :=
  { writer := if screen.isDestroyed then screen.writer else writeAll screen.writer (Call.texts c)
    isDestroyed := screen.isDestroyed || c = .destroy
    calls := screen.calls ++ [c] }

/-- The call will be carried out in full. A destroyed screen refuses nothing, for it writes nothing. -/
def accepts (screen : Screen) (c : Call) : Bool := screen.isDestroyed || takesAll screen.writer (Call.texts c)

end Screen

end PodAttach.Terminal

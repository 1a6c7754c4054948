import PodAttach.CommandLine.Order
import PodAttach.Program.Disk
import PodAttach.Settings.Location

/-!
# Launching

A run of the program up to the point where it takes over the terminal: the command line is read, then the settings, then
logging begins, and at last the target and the URL are settled. Whatever goes wrong on the way ends the run.
-/

namespace PodAttach.Program

open CommandLine

/-- How a run ends. -/
structure Finish where
  exitCode : UInt8
  output : String
  errors : String
deriving DecidableEq, Repr

/-- What a run has come to. -/
inductive Launch where
  | finished (finish : Finish)
  /-- Everything is settled, and the session can start. -/
  | ready (target : Target) (url : AttachUrl)
deriving DecidableEq, Repr

/-- Moves every line of a text to the right. -/
def indent (text : String) : String :=
  "\n".intercalate ((text.splitOn "\n").map ("    " ++ ·))

/-- The run fails for a reason that lies outside of what was asked for. -/
def failed (what reason : String) : Finish :=
  ⟨1, "", "Error: " ++ what ++ "\n\nCaused by:\n" ++ indent reason ++ "\n"⟩

/-- There can be no such session. -/
def rejected (e : AttachError) : Finish := ⟨2, "", "podbridge: " ++ e.message ++ "\n"⟩

/-- The command line leads to no run. -/
def refused (program : String) (refusal : Refusal) : Finish :=
  let text := refusal.text Grammars.program program
  if refusal.isAnswer then ⟨0, text, ""⟩ else ⟨2, "", text⟩

def badSettings (fault : Settings.Fault) : Finish := failed fault.message fault.reason

variable {m : Type → Type} [Monad m]

/-- The settings in a file that was named, or in the one that is read by default, if it is there. -/
def loadSettings (disk : Disk m) (env : Environment) (named : Option String) : m (Except Settings.Fault Settings) := do
  match named with
  | some path => return Settings.ofFile path (← disk.read path)
  | none => match env.settingsPath? with
    | none => return .ok .default
    | some path =>
      if ← disk.contains path then return Settings.ofFile path (← disk.read path) else return .ok .default

/-- Begins the log of a run. -/
def startLogging (disk : Disk m) (directory : String) : m (Except Finish Unit) := do
  match ← disk.makeDirectory directory with
  | .error reason => return .error (failed ("failed to create log directory " ++ directory) reason)
  | .ok () => match ← disk.startLog directory with
    | .error reason => return .error (failed ("failed to create log file in " ++ directory) reason)
    | .ok () => return .ok ()

/-- The target and the URL of an order. -/
def settle (order : Order) (settings : Settings) : Except AttachError (Target × AttachUrl) :=
  match order.resolve settings with
  | .error fault => .error (.target fault)
  | .ok (target, endpoint) => (endpoint.preflight target).map fun url => (target, url)

/-- A run with the given arguments, the program's name apart. -/
def launch (disk : Disk m) (env : Environment) (program : String) (arguments : List String) : m Launch := do
  match Order.read arguments with
  | .error refusal => return .finished (refused program refusal)
  | .ok order => match ← loadSettings disk env order.settingsPath with
    | .error fault => return .finished (badSettings fault)
    | .ok settings => match ← startLogging disk (env.logDirectory settings) with
      | .error finish => return .finished finish
      | .ok () => match settle order settings with
        | .error e => return .finished (rejected e)
        | .ok (target, url) => return .ready target url

end PodAttach.Program

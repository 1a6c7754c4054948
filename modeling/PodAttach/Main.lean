import PodAttach.Program.Launch
import Std.Time.Format

/-!
# The program

Runs on the real file system, with the environment of the process. The log file of a run is named for the local time at
which it began.
-/

namespace PodAttach.Program

/-- The system's words for an error. -/
def reasonOf (e : IO.Error) : String :=
  match e with
  | .noFileOrDirectory _ _ _ => notFound
  | .alreadyExists _ _ _ => fileExists
  | .inappropriateType _ _ _ => isDirectory
  | e => toString e

/-- Carries out an action; an error of the system becomes its result. -/
def attempt {α : Type} (action : IO α) : IO (Except String α) := do
  try return .ok (← action) catch e => return .error (reasonOf e)

/-- The name of the log file of a run that begins now. -/
def logNameNow : IO String := do
  let now ← Std.Time.PlainDateTime.now
  return "podbridge-" ++ now.format "uuuuMMdd-HHmmss" ++ ".log"

def realDisk : Disk IO where
  contains path := do return (← attempt (IO.FS.Handle.mk path .read)).isOk
  read path := attempt do return (← IO.FS.readBinFile path).toList
  makeDirectory path := attempt do if path ≠ "" then IO.FS.createDirAll path
  startLog path := attempt do
    let _ ← IO.FS.Handle.mk (Environment.below path (← logNameNow)) .append

def realEnvironment : IO Environment :=
  return ⟨← IO.getEnv "HOME", none, ← IO.getEnv "XDG_CONFIG_HOME", ← IO.getEnv "XDG_DATA_HOME"⟩

/-- Shows how a run ended. A terminal cannot be taken over from here, so a run that gets that far ends there. -/
def Launch.conclude : Launch → IO UInt32
  | .finished finish => do
    (← IO.getStdout).putStr finish.output
    (← IO.getStderr).putStr finish.errors
    return finish.exitCode.toUInt32
  | .ready _ _ => do
    (← IO.getStderr).putStr "Error: failed to put terminal in raw mode\n"
    return 1

end PodAttach.Program

open PodAttach in
def main (arguments : List String) : IO UInt32 := do
  let program := CommandLine.programName Grammars.program (some (← IO.appPath).toString)
  let launch ← Program.launch Program.realDisk (← Program.realEnvironment) program arguments
  launch.conclude

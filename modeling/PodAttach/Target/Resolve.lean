import PodAttach.Target.Basic
import PodAttach.Target.Fields

/-!
# Fields to target

Which target some fields describe. A blank value counts as none. Of several faults the first is reported: a missing pod,
a missing container, a namespace that is invalid or missing, a bad tail, a bad follow, an invalid pod, an invalid
container.
-/

namespace PodAttach.Target

open Text

/-- The namespace of a log session that names none. -/
def defaultNamespace : String := "default"

/-- Would change the meaning of the path that a coordinate becomes a part of. -/
def isUnsafe (c : Char) : Bool := isBlank c || c == '/' || c == '?' || c == '#' || c == '%'

def coordinate (part : Part) (value : String) : Except Fault String :=
  if value.toList.any isUnsafe then .error (.invalid part value) else .ok value

def readTail (value : String) : Except Fault Tail :=
  match Tail.read? value with
  | some tail => .ok tail
  | none => .error (.invalid .tail value)

def readFollow (value : String) : Except Fault Bool :=
  if value = "true" then .ok true
  else if value = "false" then .ok false
  else .error (.invalid .follow value)

/-- Reads a value if there is one. -/
def readOptional {α : Type} (read : String → Except Fault α) : Option String → Except Fault (Option α)
  | none => .ok none
  | some value => (read value).map some

/-- A value that has to be there. -/
def required (part : Part) : Option String → Except Fault String
  | some value => .ok value
  | none => .error (.missing part)

def namespaceOf (mode : Mode) : Option String → Except Fault String
  | some value => coordinate .ns value
  | none => match mode with
    | .logs => .ok defaultNamespace
    | .shell => .error .missingNamespace

/-- What is asked of a log; a shell has none. -/
def logOptions (mode : Mode) (fields : Fields) : Except Fault (Option Tail × Option Bool) :=
  match mode with
  | .shell => .ok (none, none)
  | .logs => do
    let tail ← readOptional readTail (fields.find? ["tail"])
    let follow ← readOptional readFollow (fields.find? ["follow"])
    return (tail, follow)

/-- The target that some fields describe. A container may also go by the name `container_name`. -/
def resolve (fields : Fields) (mode : Mode) : Except Fault Target := do
  let pod ← required .pod (fields.find? ["pod"])
  let container ← required .container (fields.find? ["container", "container_name"])
  let ns ← namespaceOf mode (fields.find? ["namespace"])
  let (tail, follow) ← logOptions mode fields
  let pod ← coordinate .pod pod
  let container ← coordinate .container container
  return { ns, pod, container, mode, tail, follow }

end PodAttach.Target

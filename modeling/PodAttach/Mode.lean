/-!
# Modes

A session either follows a container's log or holds a shell in it. A log session only receives.
-/

namespace PodAttach

inductive Mode where
  | logs
  | shell
deriving DecidableEq, Repr

def Mode.name : Mode → String
  | .logs => "logs"
  | .shell => "shell"

/-- The last segment of the path a session of this mode connects to. -/
def Mode.pathSegment : Mode → String
  | .logs => "logs"
  | .shell => "webshell"

end PodAttach

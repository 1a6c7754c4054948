import PodAttach.Target.Basic
import PodAttach.Wire.Message

/-!
# Endpoints

The server that sessions connect to, and the URL under which it serves a target. Nothing here connects to anything: a
URL is built from text, and it is a fault of the endpoint if what was built is no URL.
-/

namespace PodAttach

structure Endpoint where
  /-- The name or address of the server, with a port or without. -/
  host : String
  secure : Bool
deriving DecidableEq, Repr

namespace Endpoint

/-- The server that is meant where none is named. -/
def defaultHost : String := "127.0.0.1:8090"

def scheme (endpoint : Endpoint) : String := if endpoint.secure then "wss" else "ws"

/-- What is wrong with an endpoint. -/
inductive Fault where
  | badHost (host : String)
  | badUrl (url : String) (fault : Url.Fault)
deriving DecidableEq, Repr

def Fault.message : Fault → String
  | badHost host => "bad host " ++ Text.quote host
  | badUrl url fault => url ++ ": " ++ fault.message

end Endpoint

/-- Why there is no session, or none any more. -/
inductive AttachError where
  | target (fault : Target.Fault)
  | unsupported (reason : String)
  | transport (reason : String)
  | endpoint (fault : Endpoint.Fault)
  | protocol (violation : Wire.Violation)
deriving DecidableEq, Repr

def AttachError.message : AttachError → String
  | target fault => fault.message
  | unsupported reason => "transport unsupported: " ++ reason
  | transport reason => "transport error: " ++ reason
  | endpoint fault => "invalid endpoint: " ++ fault.message
  | protocol violation => "protocol violation: " ++ violation.message

/-- A URL under which a target is served. -/
structure AttachUrl where
  text : String
deriving DecidableEq, Repr

namespace AttachUrl

def isSecure (url : AttachUrl) : Bool := "wss://".toList.isPrefixOf url.text.toList

/-- The query that asks for the options of a log. -/
def optionPairs (target : Target) : List (String × String) :=
  (target.tail.map fun tail => ("tail", tail.render)).toList ++
    (target.follow.map fun follow => ("follow", if follow then "true" else "false")).toList

def query (target : Target) : String :=
  match target.mode, optionPairs target with
  | .shell, _ => ""
  | .logs, [] => ""
  | .logs, pairs => "?" ++ "&".intercalate (pairs.map fun (key, value) => key ++ "=" ++ value)

def path (target : Target) : String :=
  "/ws/" ++ target.ns ++ "/" ++ target.pod ++ "/" ++ target.container ++ "/" ++ target.mode.pathSegment

/-- Would end the host, or is no part of one. -/
def isOutsideHost (c : Char) : Bool := c == '/' || c == '?' || c == '#' || c == ' '

/-- Builds the URL of a target. Its text is what was put together, not what a URL reader would write. -/
def build (endpoint : Endpoint) (target : Target) : Except AttachError AttachUrl :=
  let host := Text.trim endpoint.host
  if host = "" ∨ host.toList.any isOutsideHost then .error (.endpoint (.badHost host))
  else
    let text := endpoint.scheme ++ "://" ++ host ++ path target ++ query target
    match Url.read text with
    | .ok _ => .ok ⟨text⟩
    | .error fault => .error (.endpoint (.badUrl text fault))

/-- The URL can be connected to: its scheme is one of those that sessions use. -/
def checkScheme (url : AttachUrl) : Except AttachError Unit :=
  match Url.read url.text with
  | .error fault => .error (.endpoint (.badUrl url.text fault))
  | .ok parsed => match parsed.scheme with
    | .ws => .ok ()
    | .wss => .ok ()
    | other => .error (.unsupported ("'" ++ other.name ++ "' is not a WebSocket scheme"))

end AttachUrl

/-- Everything about a session that can be settled before a connection is made. -/
def Endpoint.preflight (endpoint : Endpoint) (target : Target) : Except AttachError AttachUrl := do
  let url ← AttachUrl.build endpoint target
  url.checkScheme
  return url

end PodAttach

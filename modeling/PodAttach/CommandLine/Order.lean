import PodAttach.CommandLine.Scan
import PodAttach.Settings.Basic

/-!
# Orders

What this program's command line can ask for: a mode, a server, and a target, given by options or by a page address.
Options count for more than the address, and both for more than the settings.
-/

namespace PodAttach

open CommandLine

namespace Grammars

def settingsOption : Opt := ⟨"config", none, .value .filled, "Config file (default: platform config dir)"⟩

def hostOption : Opt := ⟨"host", none, .value .any, "Server host[:port], overrides config and page address"⟩

def secureOption : Opt := ⟨"secure", none, .switch, "Connect with wss"⟩

def namespaceOption : Opt := ⟨"namespace", some 'n', .value .any, ""⟩

def podOption : Opt := ⟨"pod", some 'p', .value .any, ""⟩

def containerOption : Opt := ⟨"container", some 'c', .value .any, ""⟩

def addressOption : Opt :=
  ⟨"address", none, .value .any,
    "Page address carrying the coordinates, e.g. `http://host/logs?pod=..&container=..`"⟩

def styleOption : Opt :=
  ⟨"address-style", none, .value (.oneOf ["query", "path"]),
    "How the page address carries coordinates (default from config)"⟩

def tailOption : Opt := ⟨"tail", none, .value .any, "Number of trailing lines, or `all`"⟩

def followOption : Opt := ⟨"follow", none, .value .any, "Keep streaming new lines (`true` or `false`)"⟩

def helpOption : Opt := ⟨"help", some 'h', .help, "Print help"⟩

def versionOption : Opt := ⟨"version", some 'V', .version, "Print version"⟩

def targetOptions : List Opt :=
  [settingsOption, namespaceOption, hostOption, podOption, containerOption, secureOption, addressOption, styleOption]

def logs : Command :=
  ⟨"logs", "Stream a container's logs (receive-only)", targetOptions ++ [tailOption, followOption, helpOption]⟩

def shell : Command := ⟨"shell", "Open an interactive shell in a container", targetOptions ++ [helpOption]⟩

def program : Grammar where
  version := "0.1.0"
  top :=
    { name := "podbridge"
      about := "Attach to a container's log stream or shell over WebSocket"
      options := [settingsOption, hostOption, secureOption, helpOption, versionOption] }
  commands := [logs, shell]

end Grammars

structure Order where
  mode : Mode
  settingsPath : Option String
  host : Option String
  secure : Bool
  ns : Option String
  pod : Option String
  container : Option String
  address : Option String
  style : Option AddressStyle
  tail : Option String
  follow : Option String
deriving DecidableEq, Repr

namespace Order

def ofReading (reading : Reading) : Order where
  mode := if reading.command.name = Mode.logs.name then .logs else .shell
  settingsPath := reading.value? "config"
  host := reading.value? "host"
  secure := (reading.value? "secure").isSome
  ns := reading.value? "namespace"
  pod := reading.value? "pod"
  container := reading.value? "container"
  address := reading.value? "address"
  style := (reading.value? "address-style").bind AddressStyle.ofName?
  tail := reading.value? "tail"
  follow := reading.value? "follow"

def read (arguments : List String) : Except Refusal Order := (CommandLine.read Grammars.program arguments).map ofReading

/-- The fields that options give, under their names. A shell has no options for a log. -/
def flags (order : Order) : List (String × Option String) :=
  [("namespace", order.ns), ("pod", order.pod), ("container", order.container)] ++
    match order.mode with
    | .logs => [("tail", order.tail), ("follow", order.follow)]
    | .shell => []

/-- Puts the fields that are given over those that are there. -/
def overlay (fields : Fields) (flags : List (String × Option String)) : Fields :=
  flags.foldl (fun fields (key, value) => match value with
    | some value => fields.insert key value
    | none => fields) fields

/-- The page that the address leads to, with the options over its fields. -/
def page (order : Order) (settings : Settings) : Except Target.Fault Page := do
  let page ← match order.address with
    | some address => Page.read (order.style.getD settings.style) address
    | none => .ok .unknown
  return { page with fields := overlay page.fields order.flags }

/-- The server to connect to: the one that is named, the one the page came from, or that of the settings. What the
settings say of security holds for the first and the last. -/
def endpoint (order : Order) (settings : Settings) (page : Page) : Endpoint :=
  match order.host, page.host with
  | some host, _ => ⟨host, order.secure || settings.secure⟩
  | none, some host => ⟨host, order.secure || page.secure⟩
  | none, none => ⟨settings.host, order.secure || settings.secure⟩

def resolve (order : Order) (settings : Settings) : Except Target.Fault (Target × Endpoint) := do
  let page ← order.page settings
  let target ← Target.resolve page.fields order.mode
  return (target, order.endpoint settings page)

end Order

end PodAttach

import PodAttach.Url.Host
import PodAttach.Url.Scheme
import PodAttach.Text.Decimal

/-!
# Authorities

The part of a URL that says whom to ask: credentials before the last at sign, the host, and a port. Credentials are read
past; that there are some only matters where the host is missing.
-/

namespace PodAttach.Url

open Text

/-- The text up to the last at sign and the text after it. -/
def cutCredentials (cs : List Char) : Option (List Char) × List Char :=
  if cs.contains '@' then
    let host := (cs.reverse.takeWhile (· != '@')).reverse
    (some (cs.take (cs.length - host.length - 1)), host)
  else (none, cs)

/-- The text before the first colon that stands outside brackets. -/
def hostText (inBrackets : Bool) : List Char → List Char
  | [] => []
  | c :: cs =>
    if c == ':' && !inBrackets then []
    else c :: hostText (if c == '[' then true else if c == ']' then false else inBrackets) cs

/-- Reads the digits of a port; none at all, or those of the scheme's own port, name no port. -/
def readPort (scheme : Scheme) (cs : List Char) : Except Fault (Option UInt16) :=
  if cs.isEmpty then .ok none
  else match readDigits? cs with
    | some n =>
      if n ≥ 65536 then .error .invalidPort
      else .ok (if some (UInt16.ofNat n) = scheme.defaultPort? then none else some (UInt16.ofNat n))
    | none => .error .invalidPort

structure Authority where
  host : Host
  port : Option UInt16
  rest : List Char
deriving Repr

/-- Reads the host and the port of an authority. `rest` is the text behind the authority; outside special schemes a
backslash after the port belongs to it. -/
def readHostPort (scheme : Scheme) (cs rest : List Char) : Except Fault Authority := do
  let hostChars := hostText false cs
  if scheme.isSpecial && hostChars.isEmpty then throw .emptyHost
  let host ← if scheme.isSpecial then Host.ofDomain hostChars else Host.ofOther hostChars
  match cs.drop hostChars.length with
  | [] => return ⟨host, none, rest⟩
  | _ :: portChars =>
    if host.isEmpty then throw .emptyHost
    let port ← readPort scheme (portChars.takeWhile (· != '\\'))
    return ⟨host, port, portChars.dropWhile (· != '\\') ++ rest⟩

def Authority.read (scheme : Scheme) (cs : List Char) : Except Fault Authority := do
  let text := cs.takeWhile (!scheme.endsAuthority ·)
  let rest := cs.dropWhile (!scheme.endsAuthority ·)
  match cutCredentials text with
  | (none, hostPort) => readHostPort scheme hostPort rest
  | (some credentials, hostPort) =>
    if credentials.isEmpty && hostPort.isEmpty && !rest.isEmpty then throw .emptyHost
    let authority ← readHostPort scheme hostPort rest
    if authority.host.isEmpty && !credentials.isEmpty && credentials != [':'] then throw .emptyHost
    return authority

end PodAttach.Url

/-!
# Schemes

The schemes whose hosts and paths follow rules of their own, and all others.
-/

namespace PodAttach.Url

inductive Scheme where
  | http | https | ws | wss | ftp | file
  | other (name : String)
deriving DecidableEq, Repr

namespace Scheme

def name : Scheme → String
  | http => "http"
  | https => "https"
  | ws => "ws"
  | wss => "wss"
  | ftp => "ftp"
  | file => "file"
  | other name => name

def ofName : String → Scheme
  | "http" => http
  | "https" => https
  | "ws" => ws
  | "wss" => wss
  | "ftp" => ftp
  | "file" => file
  | name => other name

/-- A special scheme has hosts that are domain names or addresses, and a path with at least one segment. -/
def isSpecial : Scheme → Bool
  | other _ => false
  | _ => true

/-- The port that is left out of a URL. -/
def defaultPort? : Scheme → Option UInt16
  | http => some 80
  | https => some 443
  | ws => some 80
  | wss => some 443
  | ftp => some 21
  | _ => none

def isSecure : Scheme → Bool
  | https => true
  | wss => true
  | _ => false

/-- Separates the segments of a path: a slash, and under a special scheme a backslash too. -/
def isSlash (scheme : Scheme) (c : Char) : Bool := c == '/' || (scheme.isSpecial && c == '\\')

/-- Ends the part of a URL that names the host. -/
def endsAuthority (scheme : Scheme) (c : Char) : Bool := scheme.isSlash c || c == '?' || c == '#'

end Scheme

/-- Letters, digits and a few signs may follow the first letter of a scheme. -/
def isSchemeChar (c : Char) : Bool := c.isAlphanum || c == '+' || c == '-' || c == '.'

def cutScheme? (cs : List Char) : Option (Scheme × List Char) :=
  if (cs.take 1).any Char.isAlpha then
    match cs.dropWhile isSchemeChar with
    | ':' :: rest => some (.ofName (String.ofList ((cs.takeWhile isSchemeChar).map Char.toLower)), rest)
    | _ => none
  else none

end PodAttach.Url

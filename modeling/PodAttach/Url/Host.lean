import PodAttach.Url.DomainName
import PodAttach.Url.Ipv4
import PodAttach.Url.Ipv6
import PodAttach.Url.Percent

/-!
# Hosts

The host of a URL is a name or an address. Schemes with a host of their own kind read it as a domain name or an
address; all others keep it as it is written, apart from addresses in brackets.
-/

namespace PodAttach.Url

open Text

inductive Fault where
  | emptyHost
  | invalidPort
  | invalidIpv4
  | invalidIpv6
  | invalidHostCharacter
  | invalidDomainName
  /-- The text has no scheme, and nothing was given that it could be relative to. -/
  | relative
deriving DecidableEq, Repr

def Fault.message : Fault → String
  | .emptyHost => "empty host"
  | .invalidPort => "invalid port number"
  | .invalidIpv4 => "invalid IPv4 address"
  | .invalidIpv6 => "invalid IPv6 address"
  | .invalidHostCharacter => "invalid domain character"
  | .invalidDomainName => "invalid international domain name"
  | .relative => "relative URL without a base"

inductive Host where
  | name (text : String)
  | ipv4 (address : UInt32)
  | ipv6 (groups : List UInt16)
deriving DecidableEq, Repr

def Host.render : Host → String
  | .name text => text
  | .ipv4 address => Ipv4.render address
  | .ipv6 groups => "[" ++ Ipv6.render groups ++ "]"

def Host.isEmpty (host : Host) : Bool := host == .name ""

/-- An address in brackets, given without the opening one. -/
def Host.ofBrackets (cs : List Char) : Except Fault Host :=
  if cs.getLast? == some ']' then
    match Ipv6.address? cs.dropLast with
    | some groups => .ok (.ipv6 groups)
    | none => .error .invalidIpv6
  else .error .invalidIpv6

/-- The host of a scheme with hosts of its own kind: percent-decoded, then a domain name or an address. -/
def Host.ofDomain (cs : List Char) : Except Fault Host :=
  match cs with
  | '[' :: rest => ofBrackets rest
  | _ =>
    match (Utf8.decode? (percentDecode cs)).bind DomainName.ascii? with
    | none => .error .invalidDomainName
    | some [] => .error .emptyHost
    | some domain =>
      if Ipv4.endsInNumber domain then
        match Ipv4.address? domain with
        | some address => .ok (.ipv4 address)
        | none => .error .invalidIpv4
      else .ok (.name (String.ofList domain))

/-- Characters that no host holds, of whatever scheme. -/
def isForbiddenHostChar (c : Char) : Bool := "\x00\t\n\r #/:<>?@[\\]^|".toList.contains c

/-- The host of any other scheme: kept, but for what is percent-encoded. -/
def Host.ofOther (cs : List Char) : Except Fault Host :=
  match cs with
  | '[' :: rest => ofBrackets rest
  | _ =>
    if cs.any isForbiddenHostChar then .error .invalidHostCharacter
    else .ok (.name (String.ofList (percentEncode controlSet cs)))

end PodAttach.Url

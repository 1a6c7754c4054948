import PodAttach.Mode
import PodAttach.Text.Decimal
import PodAttach.Text.Quoted
import PodAttach.Url.Basic

/-!
# Targets

The container a session attaches to, with what is asked of its log, and what can be wrong with a description of it.
-/

namespace PodAttach

/-- How many lines from the end of a log are wanted. -/
inductive Tail where
  | lines (count : UInt64)
  | all
deriving DecidableEq, Repr

namespace Tail

def render : Tail → String
  | lines count => Nat.repr count.toNat
  | all => "all"

/-- Reads `all` in any letters, or a number that fits into 64 bits, with or without a plus. -/
def read? (s : String) : Option Tail :=
  let cs := s.toList
  if cs.map Char.toLower = ['a', 'l', 'l'] then some all
  else
    (Text.readDigits? (if cs.head? = some '+' then cs.drop 1 else cs)).bind fun n =>
      if n < UInt64.size then some (lines (UInt64.ofNat n)) else none

end Tail

structure Target where
  ns : String
  pod : String
  container : String
  mode : Mode
  tail : Option Tail
  follow : Option Bool
deriving DecidableEq, Repr

namespace Target

/-- The parts of a description that can be missing or invalid. -/
inductive Part where
  | ns
  | pod
  | container
  | tail
  | follow
deriving DecidableEq, Repr

def Part.name : Part → String
  | ns => "namespace"
  | pod => "pod"
  | container => "container"
  | tail => "tail"
  | follow => "follow"

/-- What is wrong with the address of a page. -/
inductive AddressFault where
  | malformed (fault : Url.Fault)
  | noHost (url : Url)
deriving DecidableEq, Repr

def AddressFault.message : AddressFault → String
  | malformed fault => fault.message
  | noHost url => "'" ++ url.render ++ "' has no host"

inductive Fault where
  | missing (part : Part)
  | missingNamespace
  | invalid (part : Part) (value : String)
  | invalidAddress (fault : AddressFault)
deriving DecidableEq, Repr

def Fault.message : Fault → String
  | missing part => "missing required field '" ++ part.name ++ "'"
  | missingNamespace => "namespace is required for shell sessions"
  | invalid part value => "invalid value for '" ++ part.name ++ "': " ++ Text.quote value
  | invalidAddress fault => "invalid page address: " ++ fault.message

end Target

end PodAttach

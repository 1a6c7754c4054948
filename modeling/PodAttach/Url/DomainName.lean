import PodAttach.Text.Utf8
import PodAttach.Unicode.Composition
import PodAttach.Unicode.HostMapping
import PodAttach.Unicode.LabelRules
import PodAttach.Url.Punycode

/-!
# Domain names

A domain name is brought into ASCII: its characters are mapped and composed, and each label that is not ASCII then is
written in Punycode behind `xn--`. A label that comes with that prefix is read and has to be what such writing yields.
A name of plain ASCII labels only goes to small letters.
-/

namespace PodAttach.Url.DomainName

open Text Unicode

/-- ASCII characters that no domain name holds: controls, the space and what separates the parts of a URL. -/
def isForbidden (c : Char) : Bool :=
  c.toNat ≤ 0x20 || c.toNat == 0x7f || "%#/:<>?@[\\]^|".toList.contains c

def acePrefix : List Char := ['x', 'n', '-', '-']

def isAce (label : List Char) : Bool := label.take 4 == acePrefix

def isVirama (c : Char) : Bool := combiningClass c == 9

/-- A label whose characters are those that mapping leaves alone, in composed form, within the rules for marks and
joiners. -/
def isValidLabel (label : List Char) : Bool :=
  label.all (fun c => isHostValid c && !isForbidden c) && compose label == label &&
    !(label.take 1).any isMark && joinersAllowed isVirama [] label

/-- The characters a mapped label stands for: those that Punycode writes, for a label with the prefix. -/
def readLabel? (label : List Char) : Option (List Char) :=
  if isAce label then
    match Punycode.decode? (label.drop 4) with
    | some text => if text.all (·.toNat < 0x80) then none else some text
    | none => none
  else some label

def writeLabel (label : List Char) : List Char :=
  if label.all (·.toNat < 0x80) then label else acePrefix ++ Punycode.encode label

/-- Labels of plain ASCII, none of them behind the prefix. -/
def isPlain (name : List Char) : Bool :=
  name.all (·.toNat < 0x80) && !((name.map Char.toLower).splitOn '.').any isAce

/-- The ASCII form of any name. -/
def encodeLabels? (name : List Char) : Option (List Char) := do
  let mapped ← name.mapM mapHostChar
  let labels ← ((compose mapped.flatten).splitOn '.').mapM readLabel?
  let rightToLeft := labels.any (·.any turnsRight)
  if labels.all (fun label => isValidLabel label && (!rightToLeft || directionAllowed label)) then
    some (List.intercalate ['.'] (labels.map writeLabel))
  else none

/-- The ASCII form of a name given as characters, `none` if it has none. -/
def ascii? (name : List Char) : Option (List Char) :=
  if isPlain name then
    let small := name.map Char.toLower
    if small.any isForbidden then none else some small
  else encodeLabels? name

end PodAttach.Url.DomainName

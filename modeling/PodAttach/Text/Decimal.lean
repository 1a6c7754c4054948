/-!
# Decimal digits

Whole numbers as the text of their digits, and the texts that are such numbers. Digits are ASCII digits; leading zeros
are read and never written.
-/

namespace PodAttach.Text

def digitValue (c : Char) : Nat := c.toNat - '0'.toNat

/-- The number that digits write, whatever else the text holds. -/
def digitsValue (cs : List Char) : Nat := cs.foldl (fun n c => n * 10 + digitValue c) 0

/-- Reads a text that consists of digits, at least one. -/
def readDigits? (cs : List Char) : Option Nat :=
  if cs.isEmpty || !cs.all Char.isDigit then none else some (digitsValue cs)

end PodAttach.Text

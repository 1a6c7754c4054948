/-!
# Tables of character properties

A table is written as text, one entry per range of code points, in hexadecimal and in increasing order, with spaces or
line breaks between them: `41-5A` is a range, `AD` a single code point and `100/12E` every second code point from the
first to the last. What follows a colon is the entry's value. Reading turns the text into an array of rows, in which a
code point is found by bisection.
-/

namespace PodAttach.Unicode

/-- Code points `first`, `first + stride`, … up to `last`, and the value they share. -/
structure Row where
  first : Nat
  last : Nat
  stride : Nat
  value : List Char
deriving DecidableEq, Repr, Inhabited

abbrev Table := Array Row

def hexDigit? (c : Char) : Option Nat :=
  if '0' ≤ c ∧ c ≤ '9' then some (c.toNat - '0'.toNat)
  else if 'A' ≤ c ∧ c ≤ 'F' then some (c.toNat - 'A'.toNat + 10)
  else if 'a' ≤ c ∧ c ≤ 'f' then some (c.toNat - 'a'.toNat + 10)
  else none

/-- The number written by hexadecimal digits; anything else in the text is passed over. -/
def hexNumber (cs : List Char) : Nat :=
  cs.foldl (fun n c => match hexDigit? c with | some d => n * 16 + d | none => n) 0

def Row.ofEntry (entry : List Char) : Row :=
  let range := entry.takeWhile (· != ':')
  let value := (entry.dropWhile (· != ':')).drop 1
  let first := range.takeWhile (fun c => c != '-' && c != '/')
  match range.dropWhile (fun c => c != '-' && c != '/') with
  | [] => ⟨hexNumber first, hexNumber first, 1, value⟩
  | sign :: last => ⟨hexNumber first, hexNumber last, if sign == '/' then 2 else 1, value⟩

def Table.ofText (text : String) : Table :=
  (((text.toList.splitOnP fun c => c == ' ' || c == '\n').filter (!·.isEmpty)).map Row.ofEntry).toArray

def Row.contains (row : Row) (code : Nat) : Bool :=
  row.first ≤ code && code ≤ row.last && (code - row.first) % row.stride == 0

/-- The last row between `low` and `high` that starts at or before `code`. -/
def Table.locate (table : Table) (code low high : Nat) : Option Row :=
  if high ≤ low then none
  else if high = low + 1 then table[low]?
  else
    let middle := (low + high) / 2
    match table[middle]? with
    | none => none
    | some row =>
      if row.first ≤ code then table.locate code middle high else table.locate code low middle
termination_by high - low

def Table.find? (table : Table) (code : Nat) : Option Row :=
  match table.locate code 0 table.size with
  | some row => if row.contains code then some row else none
  | none => none

def Table.mem (table : Table) (c : Char) : Bool := (table.find? c.toNat).isSome

end PodAttach.Unicode

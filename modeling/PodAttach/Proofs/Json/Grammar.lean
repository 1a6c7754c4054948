import PodAttach.Proofs.Json.Numerals
import PodAttach.Proofs.Json.Strings

/-!
# JSON texts as trees

The grammar of JSON (RFC 8259) as the trees that it derives. A tree keeps everything that its text may vary in: the
blanks between its parts, the escapes in its strings, the digits of its numbers, the order and the repetition of its
members. `Tree.source` is its text. What a tree means is told by functions on it, and no reader has a part in that.
-/

namespace PodAttach.Json

open Text

/-! ### Blanks -/

structure Blanks where
  chars : List Char
  isBlank_of_mem : ∀ c ∈ chars, c = ' ' ∨ c = '\t' ∨ c = '\n' ∨ c = '\r'

def Blanks.none : Blanks := ⟨[], by simp⟩

/-- A part of a text with the blanks around it. -/
structure Padded (α : Type) where
  before : Blanks
  item : α
  after : Blanks

def Padded.bare {α : Type} (item : α) : Padded α := ⟨.none, item, .none⟩

/-! ### Strings -/

def shortEscapes : List (Char × Char) :=
  [('"', '"'), ('\\', '\\'), ('/', '/'), ('b', '\x08'), ('f', '\x0c'), ('n', '\n'), ('r', '\r'), ('t', '\t')]

def hexDigits : List (Char × Nat) :=
  [('0', 0), ('1', 1), ('2', 2), ('3', 3), ('4', 4), ('5', 5), ('6', 6), ('7', 7), ('8', 8), ('9', 9), ('a', 10),
    ('b', 11), ('c', 12), ('d', 13), ('e', 14), ('f', 15), ('A', 10), ('B', 11), ('C', 12), ('D', 13), ('E', 14), ('F', 15)]

structure HexDigit where
  char : Char
  value : Nat
  mem_hexDigits : (char, value) ∈ hexDigits

/-- Something between the quotes of a string: a character that stands for itself, or an escape. -/
inductive Piece where
  | plain (c : Char) (h : ' ' ≤ c ∧ c ≠ '"' ∧ c ≠ '\\')
  | short (letter named : Char) (h : (letter, named) ∈ shortEscapes)
  | hex (a b c d : HexDigit)

def Piece.source : Piece → List Char
  | plain c _ => [c]
  | short letter _ _ => ['\\', letter]
  | hex a b c d => ['\\', 'u', a.char, b.char, c.char, d.char]

/-- Characters that stand for themselves. -/
def plainPieces (cs : List Char) (h : ∀ c ∈ cs, ' ' ≤ c ∧ c ≠ '"' ∧ c ≠ '\\') : List Piece :=
  cs.attach.map fun c => .plain c.1 (h c.1 c.2)

def hexUnit (a b c d : HexDigit) : Nat := ((a.value * 16 + b.value) * 16 + c.value) * 16 + d.value

abbrev IsHighSurrogate (unit : Nat) : Prop := 0xd800 ≤ unit ∧ unit ≤ 0xdbff

abbrev IsLowSurrogate (unit : Nat) : Prop := 0xdc00 ≤ unit ∧ unit ≤ 0xdfff

/-- The character beyond the first plane that a pair of surrogates names. -/
def pairChar (high low : Nat) : Char := Char.ofNat (0x10000 + (high - 0xd800) * 0x400 + (low - 0xdc00))

/-- The characters that a string spells, if it spells any: surrogates have to come in pairs. -/
def spelled? : List Piece → Option (List Char)
  | [] => some []
  | .plain c _ :: pieces => (spelled? pieces).map (c :: ·)
  | .short _ named _ :: pieces => (spelled? pieces).map (named :: ·)
  | .hex a b c d :: pieces =>
    if IsLowSurrogate (hexUnit a b c d) then none
    else if IsHighSurrogate (hexUnit a b c d) then
      match pieces with
      | .hex e f g h :: pieces =>
        if IsLowSurrogate (hexUnit e f g h) then
          (spelled? pieces).map (pairChar (hexUnit a b c d) (hexUnit e f g h) :: ·)
        else none
      | _ => none
    else (spelled? pieces).map (Char.ofNat (hexUnit a b c d) :: ·)

/-! ### Numbers -/

structure Digits where
  chars : List Char
  ne_nil : chars ≠ []
  isDigit_of_mem : ∀ c ∈ chars, c.isDigit = true

structure Exponent where
  letter : Char
  letter_mem : letter ∈ ['e', 'E']
  sign : List Char
  sign_mem : sign ∈ [[], ['+'], ['-']]
  digits : Digits

def Exponent.source (e : Exponent) : List Char := e.letter :: (e.sign ++ e.digits.chars)

structure Literal where
  isNegative : Bool
  whole : List Char
  isNumeral_whole : IsNumeral whole
  fraction : Option Digits
  exponent : Option Exponent

namespace Literal

/-- What stands behind the digits of the whole part. -/
def scale (l : Literal) : List Char :=
  ((l.fraction.map fun digits => '.' :: digits.chars).getD []) ++ ((l.exponent.map Exponent.source).getD [])

def source (l : Literal) : List Char := (if l.isNegative then ['-'] else []) ++ (l.whole ++ l.scale)

/-- The value of a literal that consists of digits alone. -/
def natural? (l : Literal) : Option Nat :=
  if l.isNegative ∨ l.fraction.isSome ∨ l.exponent.isSome then none else some (digitsValue l.whole)

end Literal

/-! ### Values -/

/-- A member of an object: its name as it is written, and its value. -/
structure Member (α : Type) where
  name : Padded (List Piece)
  value : Padded α

inductive Tree where
  | null
  | bool (value : Bool)
  | number (literal : Literal)
  | text (pieces : List Piece)
  | emptyList (gap : Blanks)
  | list (first : Padded Tree) (more : List (Padded Tree))
  | emptyObject (gap : Blanks)
  | object (first : Member Tree) (more : List (Member Tree))

def textSource (pieces : List Piece) : List Char := '"' :: (pieces.flatMap Piece.source ++ ['"'])

/-- The name of a member as it is written, up to the colon. -/
def nameSource (name : Padded (List Piece)) : List Char :=
  name.before.chars ++ (textSource name.item ++ (name.after.chars ++ [':']))

mutual

def Tree.source : Tree → List Char
  | .null => ['n', 'u', 'l', 'l']
  | .bool true => ['t', 'r', 'u', 'e']
  | .bool false => ['f', 'a', 'l', 's', 'e']
  | .number literal => literal.source
  | .text pieces => textSource pieces
  | .emptyList gap => '[' :: (gap.chars ++ [']'])
  | .list ⟨before, value, after⟩ more =>
    '[' :: (before.chars ++ (value.source ++ (after.chars ++ (Tree.elementsSource more ++ [']']))))
  | .emptyObject gap => '\x7b' :: (gap.chars ++ ['\x7d'])
  | .object ⟨name, before, value, after⟩ more =>
    '\x7b' :: (nameSource name ++
      (before.chars ++ (value.source ++ (after.chars ++ (Tree.membersSource more ++ ['\x7d'])))))

/-- Elements behind the first one, each with its comma. -/
def Tree.elementsSource : List (Padded Tree) → List Char
  | [] => []
  | ⟨before, value, after⟩ :: more =>
    ',' :: (before.chars ++ (value.source ++ (after.chars ++ Tree.elementsSource more)))

/-- Members behind the first one, each with its comma. -/
def Tree.membersSource : List (Member Tree) → List Char
  | [] => []
  | ⟨name, before, value, after⟩ :: more =>
    ',' :: (nameSource name ++ (before.chars ++ (value.source ++ (after.chars ++ Tree.membersSource more))))

end

/-! ### What a value means -/

namespace Tree

inductive IsObject : Tree → Prop where
  | empty (gap : Blanks) : IsObject (emptyObject gap)
  | members (first : Member Tree) (more : List (Member Tree)) : IsObject (object first more)

inductive IsList : Tree → Prop where
  | empty (gap : Blanks) : IsList (emptyList gap)
  | elements (first : Padded Tree) (more : List (Padded Tree)) : IsList (list first more)

/-- The elements of a list. A value of another kind has none. -/
def elements : Tree → List Tree
  | list first more => first.item :: more.map Padded.item
  | _ => []

/-- The string that a value is. -/
def string? : Tree → Option String
  | text pieces => (spelled? pieces).map String.ofList
  | _ => none

/-- The number of sixteen bits that a value is, written with digits alone. -/
def word? : Tree → Option UInt16
  | number literal => literal.natural?.bind fun n => if n ≤ 65535 then some (UInt16.ofNat n) else none
  | _ => none

/-- A value that may be null. -/
def orNull {α : Type} (read : Tree → Option α) : Tree → Option (Option α)
  | null => some none
  | t => (read t).map some

end Tree

/-- The name of a member, if it spells one. -/
def Member.name? (m : Member Tree) : Option String := (spelled? m.name.item).map String.ofList

/-- The values of all members of a name, in their order. -/
def valuesOf (name : String) (members : List (Member Tree)) : List Tree :=
  (members.filter fun m => m.name? = some name).map fun m => m.value.item

/-- A value that has to be there, once. -/
def required {α : Type} (read : Tree → Option α) : List Tree → Option α
  | [t] => read t
  | _ => none

/-- A value that may be missing or null, and is not there twice. -/
def optional {α : Type} (read : Tree → Option α) : List Tree → Option (Option α)
  | [] => some none
  | [t] => t.orNull read
  | _ => none

end PodAttach.Json

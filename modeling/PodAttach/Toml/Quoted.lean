import PodAttach.Toml.Reader
import PodAttach.Unicode.Table

/-!
# TOML strings

Four kinds of quotes: single ones keep what stands between them, double ones know escapes, and three of either may span
lines. Line breaks inside are read as line feeds.
-/

namespace PodAttach.Toml

/-- May stand in a comment, and unescaped in a string: anything but controls, a tab excepted. -/
def isPlain (c : Char) : Bool := c == '\t' || (' ' ≤ c && c != '\x7f')

def isBlank (c : Char) : Bool := c == ' ' || c == '\t'

/-- The length of the line break at the front of a text. -/
def lineBreak? : List Char → Option Nat
  | '\n' :: _ => some 1
  | '\r' :: '\n' :: _ => some 2
  | _ => none

/-- The length of the blanks and line breaks at the front of a text. -/
def gap : List Char → Nat
  | '\r' :: '\n' :: cs => gap cs + 2
  | c :: cs => if isBlank c || c == '\n' then gap cs + 1 else 0
  | [] => 0

/-- The length of what a backslash at the end of a line joins: everything up to the next visible character. -/
def joint? (cs : List Char) : Option Nat :=
  if (lineBreak? (cs.dropWhile isBlank)).isSome then some (gap cs) else none

structure Quoting where
  mark : Char
  isLong : Bool
deriving DecidableEq, Repr

namespace Quoting

def hasEscapes (q : Quoting) : Bool := q.mark == '"'

def name (q : Quoting) : String :=
  (if q.isLong then "multiline " else "") ++ (if q.hasEscapes then "basic string" else "literal string")

/-- The string does not go on at a place, and does not end there either. -/
def unclosed (q : Quoting) (left : Nat) : Trouble := ⟨true, left, .about q.name⟩

/-- Whether a long string goes on with more than its marks. -/
def goesOn (cs : List Char) : Bool := cs.head?.any isPlain || (lineBreak? cs).isSome

end Quoting

/-! ### Escapes -/

def letterEscapes : List (Char × Char) :=
  [('b', '\x08'), ('f', '\x0c'), ('n', '\n'), ('r', '\r'), ('t', '\t'), ('\\', '\\'), ('"', '"')]

/-- There is no such escape. The trouble lies behind its letter, unless that takes up several bytes. -/
def unknownEscape (letter : Char) (left : Nat) : Trouble :=
  ⟨true, if letter.utf8Size = 1 then left else left + 1,
    ⟨some "escape sequence", ["`b`", "`f`", "`n`", "`r`", "`t`", "`u`", "`U`", "`\\`", "`\"`"], none⟩⟩

/-- The character that some hexadecimal digits name, and the length of its escape. -/
def codeEscape (length : Nat) (cs : List Char) : Except Trouble (Char × Nat) :=
  let digits := cs.take length
  let code := Unicode.hexNumber digits
  let subject := "unicode " ++ toString length ++ "-digit hex code"
  if digits.length = length ∧ digits.all (fun c => (Unicode.hexDigit? c).isSome) then
    if code.isValidChar then .ok (Char.ofNat code, length + 1)
    else .error ⟨true, cs.length, (Complaint.of .outOfRange).name subject⟩
  else .error ⟨true, cs.length, .about subject⟩

/-- The character that an escape names, by its letter and what stands behind that, and the length of the escape. -/
def escape (letter : Char) (cs : List Char) : Except Trouble (Char × Nat) :=
  if letter = 'u' then codeEscape 4 cs
  else if letter = 'U' then codeEscape 8 cs
  else match letterEscapes.lookup letter with
    | some named => .ok (named, 1)
    | none => .error (unknownEscape letter cs.length)

/-! ### Strings -/

/-- Reads a string to its closing marks, past the first `skip` characters, after the characters `before` in reverse. Up
to two marks in front of three closing ones belong to the string. -/
def readQuotedFrom (q : Quoting) :
    (skip : Nat) → (before : List Char) → List Char → Except Trouble (List Char × List Char)
  | _, _, [] => .error (q.unclosed 0)
  | skip + 1, before, _ :: cs => readQuotedFrom q skip before cs
  | 0, before, c :: cs =>
    if c == q.mark then
      if q.isLong then
        let marks := (cs.takeWhile (· == q.mark)).length + 1
        let inside := min (marks - 3) 2
        if 3 ≤ marks then .ok ((List.replicate inside c ++ before).reverse, cs.drop (inside + 2))
        else if Quoting.goesOn (cs.drop (marks - 1)) then readQuotedFrom q 0 (c :: before) cs
        else .error (q.unclosed (cs.length + 1))
      else .ok (before.reverse, cs)
    else if c == '\\' && q.hasEscapes then
      match if q.isLong then joint? cs else none with
      | some length => readQuotedFrom q length before cs
      | none => match cs with
        | [] => .error (q.unclosed 1)
        | letter :: rest => match escape letter rest with
          | .ok (named, length) => readQuotedFrom q length (named :: before) cs
          | .error trouble => .error trouble
    else if isPlain c then readQuotedFrom q 0 (c :: before) cs
    else if q.isLong then
      match lineBreak? (c :: cs) with
      | some length => readQuotedFrom q (length - 1) ('\n' :: before) cs
      | none => .error (q.unclosed (cs.length + 1))
    else .error (q.unclosed (cs.length + 1))

/-- Reads a string on one line, behind its opening mark. -/
def readShort (mark : Char) : Reader String := fun cs =>
  (readQuotedFrom ⟨mark, false⟩ 0 [] cs).map fun (text, rest) => (String.ofList text, rest)

/-- Reads a string with three marks behind the opening ones. A line break directly behind those does not count. -/
def readLong (mark : Char) : Reader String := fun cs =>
  (readQuotedFrom ⟨mark, true⟩ ((lineBreak? cs).getD 0) [] cs).map fun (text, rest) => (String.ofList text, rest)

def readQuoted (mark : Char) : Reader String := fun cs =>
  if cs.take 2 = [mark, mark] then readLong mark (cs.drop 2) else readShort mark cs

end PodAttach.Toml

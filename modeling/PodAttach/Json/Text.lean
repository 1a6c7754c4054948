import PodAttach.Json.Fault
import PodAttach.Unicode.Table

/-!
# JSON strings

The characters between two quotes, read and written. Escapes may name any character, those beyond the first plane as a
pair of surrogates; writing escapes only what has to be.
-/

namespace PodAttach.Json

open Text

def isBlank (c : Char) : Bool := c == ' ' || c == '\n' || c == '\t' || c == '\r'

def skipBlanks (cs : List Char) : List Char := cs.dropWhile isBlank

theorem length_skipBlanks_le (cs : List Char) : (skipBlanks cs).length ≤ cs.length :=
  (List.dropWhile_sublist isBlank).length_le

/-! ### Reading -/

/-- The characters that a single letter after a backslash names. -/
def shortEscape? (c : Char) : Option Char :=
  if c == '"' || c == '\\' || c == '/' then some c
  else if c == 'b' then some '\x08'
  else if c == 'f' then some '\x0c'
  else if c == 'n' then some '\n'
  else if c == 'r' then some '\r'
  else if c == 't' then some '\t'
  else none

/-- The number that four hexadecimal digits write at the start of a text. Four bytes are taken, whatever they are. -/
def hexFour (cs : List Char) : Except Stop Nat :=
  match (cs.take 4).mapM Unicode.hexDigit? with
  | some [a, b, c, d] => .ok (((a * 16 + b) * 16 + c) * 16 + d)
  | _ => if Utf8.size cs < 4 then Stop.atEnd .endInText else .error ⟨.invalidEscape, Utf8.size cs - 4⟩

def isLeading (n : Nat) : Bool := 0xd800 ≤ n && n ≤ 0xdbff

def isTrailing (n : Nat) : Bool := 0xdc00 ≤ n && n ≤ 0xdfff

/-- The character behind `\u`, and how many characters write it. A leading surrogate needs a trailing one. -/
def hexEscape (cs : List Char) : Except Stop (Char × Nat) := do
  let n ← hexFour cs
  if isTrailing n then Stop.before .loneSurrogate (cs.drop 4)
  else if !isLeading n then return (Char.ofNat n, 4)
  else
    match cs.drop 4 with
    | [] => Stop.atEnd .endInText
    | c :: more =>
      if c != '\\' then Stop.within .endOfHexEscape (c :: more)
      else match more with
        | [] => Stop.atEnd .endInText
        | u :: digits =>
          if u != 'u' then Stop.within .endOfHexEscape (u :: digits)
          else
            let m ← hexFour digits
            if isTrailing m then return (Char.ofNat (0x10000 + (n - 0xd800) * 1024 + (m - 0xdc00)), 10)
            else Stop.before .loneSurrogate (digits.drop 4)

/-- The character behind a backslash, and how many characters write it. -/
def escape : List Char → Except Stop (Char × Nat)
  | [] => Stop.atEnd .endInText
  | c :: cs =>
    match shortEscape? c with
    | some named => .ok (named, 1)
    | none => if c == 'u' then (hexEscape cs).map fun (named, length) => (named, length + 1)
      else Stop.within .invalidEscape (c :: cs)

/-- Reads up to the closing quote, past the first `skip` characters, after the characters `before` in reverse. -/
def readTextFrom : (skip : Nat) → (before : List Char) → List Char → Except Stop (List Char × List Char)
  | _, _, [] => Stop.atEnd .endInText
  | skip + 1, before, _ :: cs => readTextFrom skip before cs
  | 0, before, c :: cs =>
    if c == '"' then .ok (before.reverse, cs)
    else if c == '\\' then
      match escape cs with
      | .ok (named, length) => readTextFrom length (named :: before) cs
      | .error stop => .error stop
    else if c < ' ' then Stop.before .controlCharacter cs
    else readTextFrom 0 (c :: before) cs

/-- Reads a string behind its opening quote: its characters and the text that follows it. -/
def readText (cs : List Char) : Except Stop (List Char × List Char) := readTextFrom 0 [] cs

theorem length_readTextFrom_lt {skip : Nat} {before cs text rest : List Char}
    (h : readTextFrom skip before cs = .ok (text, rest)) : rest.length < cs.length := by
  fun_induction readTextFrom skip before cs with
  | case1 => simp [Stop.atEnd] at h
  | case2 skip before c cs ih =>
    have := ih h
    simp only [List.length_cons]
    omega
  | case3 before c cs hc =>
    simp only [Except.ok.injEq, Prod.mk.injEq] at h
    simp [h.2]
  | case4 before c cs hq hc named length he ih =>
    have := ih h
    simp only [List.length_cons]
    omega
  | case5 => simp at h
  | case6 => simp [Stop.before] at h
  | case7 before c cs hq hc hl ih =>
    have := ih h
    simp only [List.length_cons]
    omega

theorem length_readText_lt {cs text rest : List Char} (h : readText cs = .ok (text, rest)) :
    rest.length < cs.length := length_readTextFrom_lt h

/-! ### Writing -/

def hexLetter (n : Nat) : Char := if n < 10 then Char.ofNat ('0'.toNat + n) else Char.ofNat ('a'.toNat + (n - 10))

/-- Quotes, backslashes and controls are escaped, and nothing else is. -/
def writeChar (c : Char) : List Char :=
  if c == '"' then ['\\', '"']
  else if c == '\\' then ['\\', '\\']
  else if c == '\x08' then ['\\', 'b']
  else if c == '\x0c' then ['\\', 'f']
  else if c == '\n' then ['\\', 'n']
  else if c == '\r' then ['\\', 'r']
  else if c == '\t' then ['\\', 't']
  else if c < ' ' then ['\\', 'u', '0', '0', hexLetter (c.toNat / 16), hexLetter (c.toNat % 16)]
  else [c]

def writeText (s : String) : List Char := '"' :: s.toList.flatMap writeChar ++ ['"']

end PodAttach.Json

import PodAttach.Json.Text

/-!
# Passing over a JSON value

A value that nobody asked for is checked for its form and dropped. The brackets that are open around the place where
the reader stands are a stack, so values may be nested to any depth. Strings are checked for their escapes, not for
paired surrogates, and numbers for their form, not for their size.
-/

namespace PodAttach.Json.Skip

open Text

inductive Bracket where
  | list
  | object
deriving DecidableEq, Repr

/-- What the reader stands in, or what it wants next. -/
inductive Place where
  | value
  | opened
  | after
  | key
  | colon
  | text (isKey : Bool)
  | escape (isKey : Bool)
  | hex (isKey : Bool) (seen : Nat)
  | word (missing : List Char)
  | minus
  | zero
  | whole
  | point
  | fraction
  | letter
  | sign
  | exponent
deriving DecidableEq, Repr

abbrev Stack := List Bracket

def beginValue (stack : Stack) (c : Char) : Except Cause (Stack × Place) :=
  if c == 'n' then .ok (stack, .word ['u', 'l', 'l'])
  else if c == 't' then .ok (stack, .word ['r', 'u', 'e'])
  else if c == 'f' then .ok (stack, .word ['a', 'l', 's', 'e'])
  else if c == '-' then .ok (stack, .minus)
  else if c == '0' then .ok (stack, .zero)
  else if c.isDigit then .ok (stack, .whole)
  else if c == '"' then .ok (stack, .text false)
  else if c == '[' then .ok (.list :: stack, .opened)
  else if c == '\x7b' then .ok (.object :: stack, .opened)
  else .error .expectedValue

def beginKey (stack : Stack) (c : Char) : Except Cause (Stack × Place) :=
  if c == '"' then .ok (stack, .text true) else .error .keyNotText

def step (stack : Stack) : Place → Char → Except Cause (Stack × Place)
  | .value, c => if isBlank c then .ok (stack, .value) else beginValue stack c
  | .opened, c =>
    if isBlank c then .ok (stack, .opened)
    else match stack with
      | .object :: outer => if c == '\x7d' then .ok (outer, .after) else beginKey stack c
      | .list :: outer => if c == ']' then .ok (outer, .after) else beginValue stack c
      | [] => beginValue stack c
  | .after, c =>
    if isBlank c then .ok (stack, .after)
    else match stack with
      | .object :: outer =>
        if c == ',' then .ok (stack, .key)
        else if c == '\x7d' then .ok (outer, .after)
        else .error .expectedObjectEnd
      | .list :: outer =>
        if c == ',' then .ok (stack, .value)
        else if c == ']' then .ok (outer, .after)
        else .error .expectedListEnd
      | [] => .error .trailingCharacters
  | .key, c => if isBlank c then .ok (stack, .key) else beginKey stack c
  | .colon, c =>
    if isBlank c then .ok (stack, .colon)
    else if c == ':' then .ok (stack, .value)
    else .error .expectedColon
  | .text isKey, c =>
    if c == '"' then .ok (stack, if isKey then .colon else .after)
    else if c == '\\' then .ok (stack, .escape isKey)
    else if c < ' ' then .error .controlCharacter
    else .ok (stack, .text isKey)
  | .escape isKey, c =>
    if (shortEscape? c).isSome then .ok (stack, .text isKey)
    else if c == 'u' then .ok (stack, .hex isKey 0)
    else .error .invalidEscape
  | .hex isKey seen, c =>
    if (Unicode.hexDigit? c).isNone then .error .invalidEscape
    else .ok (stack, if seen < 3 then .hex isKey (seen + 1) else .text isKey)
  | .word [], _ => .error .expectedWord
  | .word (expected :: missing), c =>
    if c == expected then .ok (stack, if missing.isEmpty then .after else .word missing) else .error .expectedWord
  | .minus, c =>
    if c == '0' then .ok (stack, .zero) else if c.isDigit then .ok (stack, .whole) else .error .invalidNumber
  | .zero, c =>
    if c == '.' then .ok (stack, .point)
    else if c == 'e' || c == 'E' then .ok (stack, .letter)
    else .error .invalidNumber
  | .whole, c =>
    if c.isDigit then .ok (stack, .whole)
    else if c == '.' then .ok (stack, .point)
    else if c == 'e' || c == 'E' then .ok (stack, .letter)
    else .error .invalidNumber
  | .point, c => if c.isDigit then .ok (stack, .fraction) else .error .invalidNumber
  | .fraction, c =>
    if c.isDigit then .ok (stack, .fraction)
    else if c == 'e' || c == 'E' then .ok (stack, .letter)
    else .error .invalidNumber
  | .letter, c =>
    if c == '+' || c == '-' then .ok (stack, .sign)
    else if c.isDigit then .ok (stack, .exponent)
    else .error .invalidNumber
  | .sign, c => if c.isDigit then .ok (stack, .exponent) else .error .invalidNumber
  | .exponent, c => if c.isDigit then .ok (stack, .exponent) else .error .invalidNumber

/-- A number is over in front of a character that cannot belong to it. -/
def settle (place : Place) (next : Option Char) : Place :=
  let continued := fun (p : Char → Bool) => next.any p
  match place with
  | .zero => if continued fun c => c.isDigit || c == '.' || c == 'e' || c == 'E' then .zero else .after
  | .whole => if continued fun c => c.isDigit || c == '.' || c == 'e' || c == 'E' then .whole else .after
  | .fraction => if continued fun c => c.isDigit || c == 'e' || c == 'E' then .fraction else .after
  | .exponent => if continued Char.isDigit then .exponent else .after
  | place => place

def endCause (stack : Stack) : Place → Cause
  | .value => .endInValue
  | .opened => if stack.head? == some .object then .endInObject else .endInList
  | .after => if stack.head? == some .object then .endInObject else .endInList
  | .key => .endInObject
  | .colon => .endInObject
  | .text _ => .endInText
  | .escape _ => .endInText
  | .hex _ _ => .endInText
  | .word _ => .endInValue
  | _ => .invalidNumber

/-- How a character that does not fit stops the reader. Of a hexadecimal escape four bytes are taken, whatever they
are; a control character in a string is not taken. -/
def stopAt (place : Place) (cause : Cause) (cs : List Char) : Stop :=
  match place with
  | .hex _ seen => if Utf8.size cs + seen < 4 then ⟨.endInText, 0⟩ else ⟨cause, Utf8.size cs + seen - 4⟩
  | .text _ => ⟨cause, Utf8.size cs⟩
  | _ => ⟨cause, Utf8.size cs - 1⟩

/-- Goes on until the value is complete, and returns the text behind it. -/
def run (stack : Stack) (place : Place) (cs : List Char) : Except Stop (List Char) :=
  if settle place cs.head? = .after ∧ stack = [] then .ok cs
  else match cs with
    | [] => Stop.atEnd (endCause stack (settle place none))
    | c :: rest =>
      match step stack (settle place (some c)) c with
      | .ok (stack, place) => run stack place rest
      | .error cause => .error (stopAt place cause (c :: rest))

theorem length_run_le {stack : Stack} {place : Place} {cs rest : List Char} (h : run stack place cs = .ok rest) :
    rest.length ≤ cs.length := by
  fun_induction run stack place cs with
  | case1 stack place cs hp =>
    simp only [Except.ok.injEq] at h
    simp [h]
  | case2 => simp [Stop.atEnd] at h
  | case3 stack place c cs hp stack' place' hs ih =>
    have := ih h
    simp only [List.length_cons]
    omega
  | case4 => simp at h

end PodAttach.Json.Skip

namespace PodAttach.Json

/-- Passes over one value of any kind. -/
def skipValue (cs : List Char) : Except Stop (List Char) := Skip.run [] .value cs

theorem length_skipValue_le {cs rest : List Char} (h : skipValue cs = .ok rest) : rest.length ≤ cs.length :=
  Skip.length_run_le h

end PodAttach.Json

import PodAttach.Json.Number
import PodAttach.Json.Skip

/-!
# Values of a wanted kind

Readers for strings, whole numbers and values that may be null. A value of another kind is still read, so that the fault
can name it; lists and objects are named without being read.
-/

namespace PodAttach.Json

/-- A reader takes a value from the front of a text and returns it with the text behind it. -/
abbrev Reader (α : Type) : Type := List Char → Except Stop (α × List Char)

/-- Takes the characters that complete a word. -/
def readWord : (missing : List Char) → List Char → Except Stop (List Char)
  | [], cs => .ok cs
  | _ :: _, [] => Stop.atEnd .endInValue
  | expected :: missing, c :: cs =>
    if c == expected then readWord missing cs else Stop.within .expectedWord (c :: cs)

/-- The value at the front of a text, as far as a fault names it. The text does not start with a blank. -/
def readFound : Reader Found
  | [] => Stop.atEnd .endInValue
  | c :: cs =>
    if c == 'n' then (readWord ['u', 'l', 'l'] cs).map fun rest => (.null, rest)
    else if c == 't' then (readWord ['r', 'u', 'e'] cs).map fun rest => (.bool true, rest)
    else if c == 'f' then (readWord ['a', 'l', 's', 'e'] cs).map fun rest => (.bool false, rest)
    else if c == '-' then (readNumber true cs).map fun (n, rest) => (n.found, rest)
    else if c.isDigit then (readNumber false (c :: cs)).map fun (n, rest) => (n.found, rest)
    else if c == '"' then (readText cs).map fun (text, rest) => (.text (String.ofList text), rest)
    else if c == '[' then .ok (.list, c :: cs)
    else if c == '\x7b' then .ok (.object, c :: cs)
    else Stop.within .expectedValue (c :: cs)

/-- Stops behind a value of the wrong kind. -/
def rejectType {α : Type} (expected : String) (cs : List Char) : Except Stop α := do
  let (found, rest) ← readFound cs
  Stop.before (.wrongType found expected) rest

def readString : Reader String := fun cs =>
  match skipBlanks cs with
  | '"' :: rest => (readText rest).map fun (text, rest) => (String.ofList text, rest)
  | rest => rejectType "a string" rest

/-- A whole number that fits into sixteen bits. -/
def Numeral.toUInt16 (rest : List Char) : Numeral → Except Stop UInt16
  | .natural n =>
    if n < UInt16.size then .ok (UInt16.ofNat n) else Stop.before (.wrongValue (.integer n) "u16") rest
  | .negative n => Stop.before (.wrongValue (.integer (-n)) "u16") rest
  | .fraction minus f => Stop.before (.wrongType (.fraction minus f) "u16") rest

def readUInt16 : Reader UInt16 := fun cs =>
  match skipBlanks cs with
  | '-' :: rest => do
    let (n, rest) ← readNumber true rest
    return (← n.toUInt16 rest, rest)
  | c :: rest =>
    if c.isDigit then do
      let (n, rest) ← readNumber false (c :: rest)
      return (← n.toUInt16 rest, rest)
    else rejectType "u16" (c :: rest)
  | [] => rejectType "u16" []

def readNullable {α : Type} (reader : Reader α) : Reader (Option α) := fun cs =>
  match skipBlanks cs with
  | 'n' :: rest => (readWord ['u', 'l', 'l'] rest).map fun rest => (none, rest)
  | _ => (reader cs).map fun (value, rest) => (some value, rest)

/-! ### A reader never leaves more than it was given -/

/-- Whatever is left behind a value is no longer than the text the value was read from. -/
def Reader.Consumes {α : Type} (reader : Reader α) : Prop :=
  ∀ {cs value rest}, reader cs = .ok (value, rest) → rest.length ≤ cs.length

theorem rejectType_ne_ok {α : Type} {expected : String} {cs : List Char} {a : α} :
    rejectType expected cs ≠ .ok a := by
  unfold rejectType
  cases h : readFound cs with
  | error stop => simp [bind, Except.bind]
  | ok found => simp [bind, Except.bind, Stop.before]

theorem exists_of_map_eq_ok {α β ε : Type} {f : α → β} {x : Except ε α} {b : β} (h : x.map f = .ok b) :
    ∃ a, x = .ok a ∧ f a = b := by
  cases x with
  | error e => simp [Except.map] at h
  | ok a => exact ⟨a, rfl, by simpa [Except.map] using h⟩

theorem length_readWord_le {missing cs rest : List Char} (h : readWord missing cs = .ok rest) :
    rest.length ≤ cs.length := by
  fun_induction readWord missing cs with
  | case1 cs =>
    simp only [Except.ok.injEq] at h
    simp [h]
  | case2 => simp [Stop.atEnd] at h
  | case3 expected missing c cs hc ih =>
    have := ih h
    simp only [List.length_cons]
    omega
  | case4 => simp [Stop.within] at h

theorem readString_consumes : Reader.Consumes readString := by
  intro cs value rest h
  unfold readString at h
  have hs := length_skipBlanks_le cs
  split at h
  · next more heq =>
    obtain ⟨⟨text, left⟩, ht, hv⟩ := exists_of_map_eq_ok h
    have := length_readText_lt ht
    simp only [Prod.mk.injEq] at hv
    rw [heq, List.length_cons] at hs
    rw [← hv.2]
    omega
  · exact absurd h rejectType_ne_ok

theorem readUInt16_consumes : Reader.Consumes readUInt16 := by
  intro cs value rest h
  unfold readUInt16 at h
  have hs := length_skipBlanks_le cs
  split at h
  · next more heq =>
    rw [heq, List.length_cons] at hs
    cases hn : readNumber true more with
    | error stop => simp [hn, bind, Except.bind] at h
    | ok pair =>
      obtain ⟨n, left⟩ := pair
      have := length_readNumber_le hn
      cases hu : n.toUInt16 left with
      | error stop => simp [hn, hu, bind, Except.bind] at h
      | ok word =>
        simp only [hn, hu, bind, Except.bind, pure, Except.pure, Except.ok.injEq, Prod.mk.injEq] at h
        rw [← h.2]
        omega
  · next c more _ heq =>
    rw [heq] at hs
    split at h
    · cases hn : readNumber false (c :: more) with
      | error stop => simp [hn, bind, Except.bind] at h
      | ok pair =>
        obtain ⟨n, left⟩ := pair
        have := length_readNumber_le hn
        cases hu : n.toUInt16 left with
        | error stop => simp [hn, hu, bind, Except.bind] at h
        | ok word =>
          simp only [hn, hu, bind, Except.bind, pure, Except.pure, Except.ok.injEq, Prod.mk.injEq] at h
          rw [← h.2]
          omega
    · exact absurd h rejectType_ne_ok
  · exact absurd h rejectType_ne_ok

theorem readNullable_consumes {α : Type} {reader : Reader α} (hr : reader.Consumes) :
    Reader.Consumes (readNullable reader) := by
  intro cs value rest h
  unfold readNullable at h
  have hs := length_skipBlanks_le cs
  split at h
  · next more heq =>
    obtain ⟨left, ht, hv⟩ := exists_of_map_eq_ok h
    have := length_readWord_le ht
    simp only [Prod.mk.injEq] at hv
    rw [heq, List.length_cons] at hs
    rw [← hv.2]
    omega
  · obtain ⟨⟨inner, left⟩, ht, hv⟩ := exists_of_map_eq_ok h
    simp only [Prod.mk.injEq] at hv
    rw [← hv.2]
    exact hr ht

end PodAttach.Json

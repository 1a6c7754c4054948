import PodAttach.Json.Scalar

/-!
# Between the members of an object and the elements of a list

Commas, colons, keys and closing brackets. A member's key is taken here; its value belongs to whoever wants it.
-/

namespace PodAttach.Json

/-- What stands at a place where a member or an element may stand. -/
inductive Next where
  /-- The closing bracket, which stays in front of `rest`. -/
  | closing (rest : List Char)
  | item (rest : List Char)
deriving DecidableEq, Repr

/-- Goes on to the next element of a list, past the comma behind an earlier one. -/
def nextElement (isFirst : Bool) (cs : List Char) : Except Stop Next :=
  match skipBlanks cs with
  | [] => Stop.atEnd .endInList
  | c :: rest =>
    if c == ']' then .ok (.closing (c :: rest))
    else if isFirst then .ok (.item (c :: rest))
    else if c == ',' then
      match skipBlanks rest with
      | [] => Stop.atEnd .endInValue
      | d :: rest => if d == ']' then Stop.within .trailingComma (d :: rest) else .ok (.item (d :: rest))
    else Stop.within .expectedListEnd (c :: rest)

/-- Goes on to the next member of an object, and stops behind the quote that opens its key. -/
def nextMember (isFirst : Bool) (cs : List Char) : Except Stop Next :=
  match skipBlanks cs with
  | [] => Stop.atEnd .endInObject
  | c :: rest =>
    if c == '\x7d' then .ok (.closing (c :: rest))
    else if isFirst then if c == '"' then .ok (.item rest) else Stop.within .keyNotText (c :: rest)
    else if c == ',' then
      match skipBlanks rest with
      | [] => Stop.atEnd .endInValue
      | d :: rest =>
        if d == '"' then .ok (.item rest)
        else if d == '\x7d' then Stop.within .trailingComma (d :: rest)
        else Stop.within .keyNotText (d :: rest)
    else Stop.within .expectedObjectEnd (c :: rest)

def readColon (cs : List Char) : Except Stop (List Char) :=
  match skipBlanks cs with
  | [] => Stop.atEnd .endInObject
  | c :: rest => if c == ':' then .ok rest else Stop.within .expectedColon (c :: rest)

/-- Takes the value of a member, with the colon in front of it. -/
def readMember {α : Type} (reader : Reader α) : Reader α := fun cs => do reader (← readColon cs)

/-- Closes a list in which no further element is wanted. -/
def closeList (cs : List Char) : Except Stop (List Char) :=
  match skipBlanks cs with
  | [] => Stop.atEnd .endInList
  | c :: rest =>
    if c == ']' then .ok rest
    else if c == ',' then
      let more := skipBlanks rest
      Stop.within (if more.head? == some ']' then .trailingComma else .trailingCharacters) more
    else Stop.within .trailingCharacters (c :: rest)

/-- Stops where something is wrong with a list or an object as a whole: behind its closing bracket, if that is what
comes next. -/
def Stop.closing {α : Type} (cause : Cause) (bracket : Char) (cs : List Char) : Except Stop α :=
  match skipBlanks cs with
  | c :: rest => Stop.before cause (if c == bracket then rest else c :: rest)
  | [] => Stop.before cause []

/-! ### A reader never leaves more than it was given -/

def Next.rest : Next → List Char
  | .closing rest => rest
  | .item rest => rest

theorem length_readColon_lt {cs rest : List Char} (h : readColon cs = .ok rest) : rest.length < cs.length := by
  unfold readColon at h
  have hs := length_skipBlanks_le cs
  split at h
  · simp [Stop.atEnd] at h
  · next c more heq =>
    rw [heq, List.length_cons] at hs
    split at h
    · simp only [Except.ok.injEq] at h
      rw [← h]
      omega
    · simp [Stop.within] at h

theorem readMember_consumes {α : Type} {reader : Reader α} (hr : reader.Consumes) :
    Reader.Consumes (readMember reader) := by
  intro cs value rest h
  unfold readMember at h
  cases hc : readColon cs with
  | error stop => simp [hc, bind, Except.bind] at h
  | ok more =>
    have h1 := length_readColon_lt hc
    have h2 := hr (by simpa [hc, bind, Except.bind] using h)
    omega

theorem length_nextMember_lt {isFirst : Bool} {cs rest : List Char} (h : nextMember isFirst cs = .ok (.item rest)) :
    rest.length < cs.length := by
  unfold nextMember at h
  have hs := length_skipBlanks_le cs
  split at h
  · simp [Stop.atEnd] at h
  · next c more heq =>
    rw [heq, List.length_cons] at hs
    split at h
    · simp at h
    split at h
    · split at h
      · simp only [Except.ok.injEq, Next.item.injEq] at h
        rw [← h]
        omega
      · simp [Stop.within] at h
    split at h
    · have ht := length_skipBlanks_le more
      split at h
      · simp [Stop.atEnd] at h
      · next d left heq' =>
        rw [heq', List.length_cons] at ht
        split at h
        · simp only [Except.ok.injEq, Next.item.injEq] at h
          rw [← h]
          omega
        · split at h <;> simp [Stop.within] at h
    · simp [Stop.within] at h

end PodAttach.Json

import PodAttach.Proofs.Json.Separators
import PodAttach.Wire.Envelope

/-!
# The members of an envelope, one by one

How the readers of an object go on: a member whose key and value can be read adds what it holds to what has been seen, and
the closing bracket ends the envelope. A list gives its elements one after the other. Each value that an envelope takes is
read in front of whatever follows it.
-/

namespace PodAttach.Json

theorem nextMember_first (rest : List Char) : nextMember true ('"' :: rest) = .ok (.item rest) :=
  nextMember_eq_ok_iff.2 (.first .none rest)

theorem nextMember_comma (rest : List Char) : nextMember false (',' :: '"' :: rest) = .ok (.item rest) :=
  nextMember_eq_ok_iff.2 (.later .none .none rest)

theorem nextMember_bracket (isFirst : Bool) (rest : List Char) :
    nextMember isFirst ('\x7d' :: rest) = .ok (.closing ('\x7d' :: rest)) :=
  nextMember_eq_ok_iff.2 (.closing isFirst .none rest)

theorem readMember_colon {α : Type} (reader : Reader α) (rest : List Char) :
    readMember reader (':' :: rest) = reader rest := by
  have hcolon : readColon (':' :: rest) = .ok rest := readColon_eq_ok_iff.2 ⟨.none, rfl⟩
  rw [readMember, hcolon]
  rfl

theorem readString_writeText (s : String) (rest : List Char) : readString (writeText s ++ rest) = .ok (s, rest) := by
  rw [writeText_append, readString, skipBlanks_cons (by decide)]
  simp [readText_flatMap_writeChar, Except.map]

/-- A value that does not start like the word for nothing is read as the value it is. -/
theorem readNullable_of_head {α : Type} {reader : Reader α} {c : Char} {cs rest : List Char} {value : α}
    (hc : isBlank c = false) (hn : c ≠ 'n') (h : reader (c :: cs) = .ok (value, rest)) :
    readNullable reader (c :: cs) = .ok (some value, rest) := by
  rw [readNullable, skipBlanks_cons hc]
  split
  · next heq => exact absurd (List.cons.inj heq).1 hn
  · rw [h]
    rfl

theorem readNullable_writeText (s : String) (rest : List Char) :
    readNullable readString (writeText s ++ rest) = .ok (some s, rest) := by
  have hread := readString_writeText s rest
  rw [writeText_append] at hread ⊢
  exact readNullable_of_head (by decide) (by decide) hread

theorem readNullable_toDigits (n : UInt16) {rest : List Char} (hrest : EndsNumber rest) :
    readNullable readUInt16 (Nat.toDigits 10 n.toNat ++ rest) = .ok (some n, rest) := by
  have hread := readUInt16_toDigits n hrest
  have hds := isNumeral_toDigits n.toNat
  cases hd : Nat.toDigits 10 n.toNat with
  | nil => exact absurd hd hds.ne_nil
  | cons c more =>
    have hdigit := hds.isDigit_of_mem c (hd ▸ List.mem_cons_self)
    rw [hd] at hread
    refine readNullable_of_head (not_isBlank_of_isDigit hdigit) ?_ hread
    rintro rfl
    simp [Char.isDigit] at hdigit

end PodAttach.Json

namespace PodAttach.Wire.Envelope

open Json

variable {isFirst : Bool} {seen next : Seen} {cs opened rest left : List Char}

theorem closing_ne_ok {α : Type} {cause : Cause} {bracket : Char} {cs : List Char} {a : α} :
    Stop.closing cause bracket cs ≠ .ok a := by
  unfold Stop.closing
  split <;> simp [Stop.before]

theorem readMembers_of_item (hn : nextMember isFirst cs = .ok (.item opened)) :
    readMembers isFirst seen cs = (do
      let (key, rest) ← readText opened
      let (next, left) ← seen.read (String.ofList key) rest
      readMembers false next left) := by
  rw [readMembers]
  split
  · next heq => simp [hn] at heq
  · next heq => simp [hn] at heq
  · next inner heq =>
    obtain rfl : opened = inner := by simpa [hn] using heq
    split
    · next heq => rw [heq]; rfl
    · next key rest heq =>
      rw [heq]
      change _ = seen.read (String.ofList key) rest >>= fun found => readMembers false found.1 found.2
      split
      · next heq => rw [heq]; rfl
      · next next left heq => rw [heq]; rfl

theorem readMembers_item {key : List Char} (hn : nextMember isFirst cs = .ok (.item opened))
    (hk : readText opened = .ok (key, rest)) (hv : seen.read (String.ofList key) rest = .ok (next, left)) :
    readMembers isFirst seen cs = readMembers false next left := by
  rw [readMembers_of_item hn, hk]
  change seen.read (String.ofList key) rest >>= _ = _
  rw [hv]
  rfl

theorem readMembers_closing (hn : nextMember isFirst cs = .ok (.closing rest)) :
    readMembers isFirst seen cs = seen.complete rest := by
  rw [readMembers]
  split <;> simp_all

/-- Members that are read end with the bracket, or with one member fewer they are read as well. -/
theorem readMembers_induction {envelope : Envelope} {motive : Bool → Seen → List Char → Prop}
    (closing : ∀ {isFirst seen cs left}, nextMember isFirst cs = .ok (.closing left) →
      seen.complete left = .ok (envelope, rest) → motive isFirst seen cs)
    (item : ∀ {isFirst seen cs opened key behind next left}, nextMember isFirst cs = .ok (.item opened) →
      readText opened = .ok (key, behind) → seen.read (String.ofList key) behind = .ok (next, left) →
      readMembers false next left = .ok (envelope, rest) → motive false next left → motive isFirst seen cs)
    (h : readMembers isFirst seen cs = .ok (envelope, rest)) : motive isFirst seen cs := by
  induction isFirst, seen, cs using readMembers.induct with
  | case1 isFirst seen cs stop hn =>
    rw [readMembers] at h
    split at h <;> simp_all
  | case2 isFirst seen cs left hn =>
    rw [readMembers_closing hn] at h
    exact closing hn h
  | case3 isFirst seen cs opened hn stop hk =>
    rw [readMembers_of_item hn, hk] at h
    cases h
  | case4 isFirst seen cs opened hn key behind hk stop hv =>
    rw [readMembers_of_item hn, hk] at h
    change seen.read (String.ofList key) behind >>= _ = _ at h
    rw [hv] at h
    cases h
  | case5 isFirst seen cs opened hn key behind hk next left hv ih =>
    rw [readMembers_item hn hk hv] at h
    exact item hn hk hv h (ih h)

/-! ### Lists -/

open readElements in
/-- An envelope is read from a list one element after the other, and the bracket behind them. -/
theorem readElements_eq_ok_iff {envelope : Envelope} :
    readElements cs = .ok (envelope, rest) ↔
      ∃ first operation afterOperation data afterData cols afterCols rows afterRows,
        nextElement true cs = .ok (.item first) ∧ readString first = .ok (operation, afterOperation) ∧
        optionalElement (readNullable readString) afterOperation = .ok (data, afterData) ∧
        optionalElement (readNullable readUInt16) afterData = .ok (cols, afterCols) ∧
        optionalElement (readNullable readUInt16) afterCols = .ok (rows, afterRows) ∧
        closeList afterRows = .ok rest ∧ envelope = ⟨operation, data.join, cols.join, rows.join⟩ := by
  constructor
  · intro h
    obtain ⟨next, hnext, hfound⟩ := exists_of_bind_eq_ok h
    cases next with
    | closing left => exact absurd hfound closing_ne_ok
    | item first =>
      obtain ⟨⟨operation, afterOperation⟩, hoperation, hfound⟩ := exists_of_bind_eq_ok hfound
      obtain ⟨⟨data, afterData⟩, hdata, hfound⟩ := exists_of_bind_eq_ok hfound
      obtain ⟨⟨cols, afterCols⟩, hcols, hfound⟩ := exists_of_bind_eq_ok hfound
      obtain ⟨⟨rows, afterRows⟩, hrows, hfound⟩ := exists_of_bind_eq_ok hfound
      obtain ⟨left, hclose, hfound⟩ := exists_of_bind_eq_ok hfound
      obtain ⟨rfl, rfl⟩ := Prod.mk.inj (Except.ok.inj hfound)
      exact ⟨first, operation, afterOperation, data, afterData, cols, afterCols, rows, afterRows, hnext, hoperation,
        hdata, hcols, hrows, hclose, rfl⟩
  · rintro ⟨first, operation, afterOperation, data, afterData, cols, afterCols, rows, afterRows, hnext, hoperation,
      hdata, hcols, hrows, hclose, rfl⟩
    simp only [readElements, hnext, hoperation, hdata, hcols, hrows, hclose, bind, Except.bind]
    rfl

end PodAttach.Wire.Envelope

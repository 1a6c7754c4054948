import PodAttach.Proofs.Wire.Members

/-!
# Messages that are read back

A frame that was written for a message is an object whose members are read in the order in which they were written; what
they leave behind is the message. A size that no terminal can have is written like any other and refused by the reader.
-/

namespace PodAttach.Wire

open Json Envelope

/-! ### What is written -/

/-- A member as it is written, with a key that needs no escapes, in front of a text that starts with its value. -/
def memberText (key : String) (text : List Char) : List Char := '"' :: (key.toList ++ '"' :: ':' :: text)

theorem memberText_append (key : String) (text rest : List Char) :
    memberText key text ++ rest = memberText key (text ++ rest) := by
  simp only [memberText, List.cons_append, List.append_assoc]

namespace Message

theorem encode_eq (m : Message) :
    m.encode =
      String.ofList ("\x7b\"operation\":".toList ++ writeText m.operation ++ m.members ++ ['\x7d']) := rfl

theorem toList_encode (m : Message) :
    m.encode.toList = '\x7b' :: memberText "operation" (writeText m.operation ++ (m.members ++ ['\x7d'])) := by
  have hkey : "\x7b\"operation\":".toList = '\x7b' :: '"' :: ("operation".toList ++ ['"', ':']) := by decide
  rw [encode_eq, hkey, String.toList_ofList]
  simp only [memberText, List.cons_append, List.append_assoc, List.nil_append]

theorem data_eq_memberText (data : String) :
    ",\"data\":".toList ++ writeText data = ',' :: memberText "data" (writeText data) := by
  have hkey : ",\"data\":".toList = ',' :: '"' :: ("data".toList ++ ['"', ':']) := by decide
  rw [hkey]
  simp only [memberText, List.cons_append, List.append_assoc, List.nil_append]

theorem members_stdin (data : String) : (stdin data).members = ',' :: memberText "data" (writeText data) :=
  data_eq_memberText data

theorem members_stdout (data : String) : (stdout data).members = ',' :: memberText "data" (writeText data) :=
  data_eq_memberText data

theorem members_resize (cols rows : UInt16) :
    (resize cols rows).members =
      ',' :: memberText "cols" (Nat.toDigits 10 cols.toNat ++ ',' :: memberText "rows" (Nat.toDigits 10 rows.toNat)) := by
  have hcols : ",\"cols\":".toList = ',' :: '"' :: ("cols".toList ++ ['"', ':']) := by decide
  have hrows : ",\"rows\":".toList = ',' :: '"' :: ("rows".toList ++ ['"', ':']) := by decide
  change ",\"cols\":".toList ++ Nat.toDigits 10 cols.toNat ++ ",\"rows\":".toList ++ Nat.toDigits 10 rows.toNat = _
  rw [hcols, hrows]
  simp only [memberText, List.cons_append, List.append_assoc, List.nil_append]

end Message

/-! ### What is read -/

section

variable {seen next : Seen} {key : String} {text left : List Char}

theorem readText_key (hkey : key.toList.flatMap writeChar = key.toList) (rest : List Char) :
    readText (key.toList ++ '"' :: rest) = .ok (key.toList, rest) := by
  have hread := readText_flatMap_writeChar key.toList rest
  rwa [hkey] at hread

theorem readMembers_memberText (hkey : key.toList.flatMap writeChar = key.toList)
    (hv : seen.read key (':' :: text) = .ok (next, left)) :
    readMembers true seen (memberText key text) = readMembers false next left :=
  readMembers_item (nextMember_first _) (readText_key hkey _) (by rw [String.ofList_toList, hv])

theorem readMembers_comma_memberText (hkey : key.toList.flatMap writeChar = key.toList)
    (hv : seen.read key (':' :: text) = .ok (next, left)) :
    readMembers false seen (',' :: memberText key text) = readMembers false next left :=
  readMembers_item (nextMember_comma _) (readText_key hkey _) (by rw [String.ofList_toList, hv])

theorem readOnce_none {α : Type} {name : String} {reader : Reader α} {value : α}
    (h : reader text = .ok (value, left)) : readOnce name (none : Option α) reader (':' :: text) = .ok (value, left) := by
  rw [readOnce, if_neg (by simp), readMember_colon, h]

end

theorem read_operation {seen : Seen} (h : seen.operation = none) (s : String) (rest : List Char) :
    seen.read "operation" (':' :: (writeText s ++ rest)) = .ok ({ seen with operation := some s }, rest) := by
  change (readOnce "operation" seen.operation readString _).map _ = _
  rw [h, readOnce_none (readString_writeText s rest)]
  rfl

theorem read_data {seen : Seen} (h : seen.data = none) (s : String) (rest : List Char) :
    seen.read "data" (':' :: (writeText s ++ rest)) = .ok ({ seen with data := some (some s) }, rest) := by
  change (readOnce "data" seen.data (readNullable readString) _).map _ = _
  rw [h, readOnce_none (readNullable_writeText s rest)]
  rfl

theorem read_cols {seen : Seen} (h : seen.cols = none) (n : UInt16) {rest : List Char} (hrest : EndsNumber rest) :
    seen.read "cols" (':' :: (Nat.toDigits 10 n.toNat ++ rest)) = .ok ({ seen with cols := some (some n) }, rest) := by
  change (readOnce "cols" seen.cols (readNullable readUInt16) _).map _ = _
  rw [h, readOnce_none (readNullable_toDigits n hrest)]
  rfl

theorem read_rows {seen : Seen} (h : seen.rows = none) (n : UInt16) {rest : List Char} (hrest : EndsNumber rest) :
    seen.read "rows" (':' :: (Nat.toDigits 10 n.toNat ++ rest)) = .ok ({ seen with rows := some (some n) }, rest) := by
  change (readOnce "rows" seen.rows (readNullable readUInt16) _).map _ = _
  rw [h, readOnce_none (readNullable_toDigits n hrest)]
  rfl

theorem complete_bracket {seen : Seen} {operation : String} (h : seen.operation = some operation) :
    seen.complete ['\x7d'] = .ok (⟨operation, seen.data.join, seen.cols.join, seen.rows.join⟩, []) := by
  rw [Seen.complete, h]
  rfl

namespace Message

/-- The four values that the frame of a message holds. -/
def envelope : Message → Envelope
  | stdin data => ⟨"stdin", some data, none, none⟩
  | stdout data => ⟨"stdout", some data, none, none⟩
  | resize cols rows => ⟨"resize", none, some cols, some rows⟩

theorem readMembers_members (m : Message) :
    readMembers false { operation := some m.operation } (m.members ++ ['\x7d']) = .ok (m.envelope, []) := by
  have hend : readMembers false ⟨some m.operation, m.envelope.data.map some, m.envelope.cols.map some,
      m.envelope.rows.map some⟩ ['\x7d'] = .ok (m.envelope, []) := by
    rw [readMembers_closing (nextMember_bracket false []), complete_bracket rfl]
    cases m <;> rfl
  have hdata : ∀ (data : String) (seen : Seen), seen.data = none →
      readMembers false seen (',' :: memberText "data" (writeText data) ++ ['\x7d']) =
        readMembers false { seen with data := some (some data) } ['\x7d'] := by
    intro data seen hseen
    rw [List.cons_append, memberText_append, readMembers_comma_memberText (by decide) (read_data hseen data _)]
  cases m with
  | stdin data =>
    rw [members_stdin, hdata data _ rfl]
    exact hend
  | stdout data =>
    rw [members_stdout, hdata data _ rfl]
    exact hend
  | resize cols rows =>
    have hcomma := endsNumber_cons (c := ',') (by decide)
    have hbracket := endsNumber_cons (c := '\x7d') (by decide) []
    rw [members_resize, List.cons_append, memberText_append, List.append_assoc, List.cons_append, memberText_append,
      readMembers_comma_memberText (by decide) (read_cols rfl cols (hcomma _)),
      readMembers_comma_memberText (by decide) (read_rows rfl rows hbracket)]
    exact hend

theorem read_encode (m : Message) : Envelope.read m.encode.toList = .ok m.envelope := by
  have hmembers : readMembers true {} (memberText "operation" (writeText m.operation ++ (m.members ++ ['\x7d']))) =
      .ok (m.envelope, []) := by
    rw [readMembers_memberText (by decide) (read_operation rfl m.operation _)]
    exact m.readMembers_members
  have hvalue : Envelope.readValue m.encode.toList = .ok (m.envelope, []) := by
    rw [toList_encode, Envelope.readValue, skipBlanks_cons (by decide)]
    exact hmembers
  rw [Envelope.read, hvalue]
  rfl

theorem toMessage_envelope (m : Message) :
    m.envelope.toMessage = match m with
      | stdin data => .ok (stdin data)
      | stdout data => .ok (stdout data)
      | resize cols rows => sized cols rows := by
  cases m <;> rfl

/-! ### Nothing below a space -/

end Message

/-- Holds no control character of the first block. -/
def IsVisible (cs : List Char) : Prop := ∀ c ∈ cs, ' ' ≤ c

theorem isVisible_append {xs ys : List Char} (hx : IsVisible xs) (hy : IsVisible ys) : IsVisible (xs ++ ys) := by
  intro c hc
  rcases List.mem_append.1 hc with hc | hc
  · exact hx c hc
  · exact hy c hc

theorem isVisible_cons {c : Char} {cs : List Char} (hc : ' ' ≤ c) (hcs : IsVisible cs) : IsVisible (c :: cs) := by
  intro d hd
  rcases List.mem_cons.1 hd with rfl | hd
  · exact hc
  · exact hcs d hd

theorem isVisible_memberText {key : String} {text : List Char} (hkey : IsVisible key.toList) (htext : IsVisible text) :
    IsVisible (memberText key text) :=
  isVisible_cons (by decide)
    (isVisible_append hkey (isVisible_cons (by decide) (isVisible_cons (by decide) htext)))

theorem isVisible_writeText (s : String) : IsVisible (writeText s) := fun _ hc => le_of_mem_writeText hc

theorem isVisible_toDigits (n : Nat) : IsVisible (Nat.toDigits 10 n) := by
  intro c hc
  have hdigit := Nat.isDigit_of_mem_toDigits (b := 10) (by decide) (by decide) hc
  simp only [Char.isDigit, ge_iff_le, Bool.and_eq_true, decide_eq_true_eq] at hdigit
  exact Char.le_trans (by decide) hdigit.1

namespace Message

theorem isVisible_members (m : Message) : IsVisible m.members := by
  have hdata : ∀ data : String, IsVisible (',' :: memberText "data" (writeText data)) := fun data =>
    isVisible_cons (by decide) (isVisible_memberText (by simp [IsVisible]) (isVisible_writeText data))
  cases m with
  | stdin data => exact members_stdin data ▸ hdata data
  | stdout data => exact members_stdout data ▸ hdata data
  | resize cols rows =>
    rw [members_resize]
    refine isVisible_cons (by decide) (isVisible_memberText (by simp [IsVisible]) ?_)
    refine isVisible_append (isVisible_toDigits _) (isVisible_cons (by decide) ?_)
    exact isVisible_memberText (by simp [IsVisible]) (isVisible_toDigits _)

theorem isVisible_encode (m : Message) : IsVisible m.encode.toList := by
  rw [toList_encode]
  refine isVisible_cons (by decide) (isVisible_memberText (by simp [IsVisible]) ?_)
  refine isVisible_append (isVisible_writeText _) (isVisible_append m.isVisible_members ?_)
  simp [IsVisible]

/-- Every message is written as one line of visible characters and read back as it was, but for a size with an empty
dimension, which is refused as what it is. A character is escaped only if it has to be. -/
theorem decode_encode (m : Message) :
    (∀ c ∈ m.encode.toList, ' ' ≤ c) ∧
      decode m.encode = (match m with
        | stdin data => .ok (stdin data)
        | stdout data => .ok (stdout data)
        | resize cols rows => if cols = 0 ∨ rows = 0 then .error (.invalidSize cols rows) else .ok (resize cols rows)) ∧
      ∀ c, writeChar c = [c] ↔ ¬ (c < ' ' ∨ c = '"' ∨ c = '\\') := by
  refine ⟨m.isVisible_encode, ?_, writeChar_eq_self_iff⟩
  rw [decode, read_encode]
  exact m.toMessage_envelope

end Message

end PodAttach.Wire

import PodAttach.Proofs.Text.Utf8
import PodAttach.Wire.Codec

/-!
# Binary frames of a log

A binary frame of a log may start or end within a character, and may be damaged anywhere. Damage never reaches into the
text around it: no character starts with a byte that could continue another, so the reader gives up what it waits for
just where the text begins, and behind the text it waits for nothing.
-/

namespace PodAttach.Text.Utf8

/-! ### Bytes that end a sequence -/

/-- A byte that can only stand behind another byte of its character. -/
def IsContinuation (b : UInt8) : Prop := 0x80 ≤ b ∧ b ≤ 0xbf

/-- Whatever the reader waits for is a continuation byte. -/
def IsWaiting (state : State) : Prop := ∀ pending ∈ state, 0x80 ≤ pending.low ∧ pending.high ≤ 0xbf

theorem isWaiting_none : IsWaiting none := by simp [IsWaiting]

theorem isWaiting_some {missing bits : Nat} {low high : UInt8} (hlow : 0x80 ≤ low) (hhigh : high ≤ 0xbf) :
    IsWaiting (some ⟨missing, low, high, bits⟩) := by
  rintro _ ⟨⟩
  exact ⟨hlow, hhigh⟩

theorem isWaiting_start (b : UInt8) : IsWaiting (start b).2 := by
  unfold start
  repeat' split
  all_goals first
    | exact isWaiting_none
    | exact isWaiting_some (by decide) (by decide)

theorem isWaiting_step (state : State) (b : UInt8) : IsWaiting (step state b).2 := by
  cases state with
  | none => exact isWaiting_start b
  | some pending =>
    rw [step]
    split
    · dsimp only
      split
      · exact isWaiting_none
      · exact isWaiting_some (by decide) (by decide)
    · exact isWaiting_start b

theorem step_of_not_within {pending : Pending} {b : UInt8} (h : ¬ (pending.low ≤ b ∧ b ≤ pending.high)) :
    step (some pending) b = (.damaged :: (start b).1, (start b).2) := by
  simp only [step, if_neg h]

/-- A byte that continues nothing ends what the reader waits for, and is read as if the input started with it. -/
theorem read_cons_of_not_isContinuation {state : State} {b : UInt8} (hstate : IsWaiting state) (hb : ¬ IsContinuation b)
    (bytes : List UInt8) : read state (b :: bytes) = finish state ++ read none (b :: bytes) := by
  cases state with
  | none => rfl
  | some pending =>
    obtain ⟨hlow, hhigh⟩ := hstate pending rfl
    have hout : ¬ (pending.low ≤ b ∧ b ≤ pending.high) := fun hin =>
      hb ⟨UInt8.le_trans hlow hin.1, UInt8.le_trans hin.2 hhigh⟩
    rw [read_cons, read_cons, step_of_not_within hout]
    rfl

/-- Where the second of two inputs does not start within a character, each is read as if it stood alone. -/
theorem read_append {state : State} (hstate : IsWaiting state) (before : List UInt8) {bytes : List UInt8}
    (hbytes : ∀ b ∈ bytes.head?, ¬ IsContinuation b) :
    read state (before ++ bytes) = read state before ++ read none bytes := by
  induction before generalizing state with
  | nil =>
    cases bytes with
    | nil => simp [read, finish]
    | cons b bytes => exact read_cons_of_not_isContinuation hstate (hbytes b rfl) bytes
  | cons b before ih =>
    rw [List.cons_append, read_cons, read_cons, ih (isWaiting_step state b), List.append_assoc]

/-! ### Characters -/

/-- No character starts with a continuation byte. -/
theorem not_isContinuation_of_head?_utf8EncodeChar (c : Char) :
    ∀ b ∈ (String.utf8EncodeChar c).head?, ¬ IsContinuation b := by
  have hvalid : c.val.toNat < 0xd800 ∨ 0xdfff < c.val.toNat ∧ c.val.toNat < 0x110000 := c.valid
  unfold String.utf8EncodeChar IsContinuation
  dsimp only
  repeat' split
  all_goals
    rintro b hb ⟨hlow, hhigh⟩
    obtain rfl := Option.some.inj hb
    rw [UInt8.le_iff_toNat_le, UInt8.toNat_ofNat'] at hlow hhigh
    change 0x80 ≤ _ at hlow
    change _ ≤ 0xbf at hhigh
    omega

theorem read_embedded (before after : List UInt8) {text : List Char} (htext : text ≠ []) :
    read none (before ++ encode text ++ after) = read none before ++ text.map .char ++ read none after := by
  obtain ⟨c, cs, rfl⟩ := List.exists_cons_of_ne_nil htext
  have hcons : encode (c :: cs) ++ after = String.utf8EncodeChar c ++ (encode cs ++ after) := by
    rw [encode, List.flatMap_cons, List.append_assoc, encode]
  have hhead : ∀ b ∈ (encode (c :: cs) ++ after).head?, ¬ IsContinuation b := by
    intro b hb
    refine not_isContinuation_of_head?_utf8EncodeChar c b ?_
    obtain ⟨lead, more, hlead⟩ := List.exists_cons_of_ne_nil (String.utf8EncodeChar_ne_nil (c := c))
    rw [hcons, hlead] at hb
    rwa [hlead]
  rw [List.append_assoc, read_append isWaiting_none before hhead, read_encode, List.append_assoc]

theorem decodeLossy_embedded (before after : List UInt8) {text : List Char} (htext : text ≠ []) :
    decodeLossy (before ++ encode text ++ after) = decodeLossy before ++ text ++ decodeLossy after := by
  have hplain : (text.map Piece.char).map Piece.lossy = text := by
    rw [List.map_map]
    exact List.map_id text
  rw [decodeLossy, read_embedded before after htext, List.map_append, List.map_append, hplain]
  rfl

end PodAttach.Text.Utf8

namespace PodAttach.Mode

open Text Wire

/-- Text in a binary frame is shown as it is between what the bytes before it and behind it are shown as alone, wherever
those are damaged or cut. A frame of nothing but text shows what a text frame with the same content does. -/
theorem decode_embedded (before after : List UInt8) (s : String) :
    (s ≠ "" → ∃ x y, logs.decode (.binary before) = .ok (.line x) ∧ logs.decode (.binary after) = .ok (.line y) ∧
      logs.decode (.binary (before ++ Utf8.encode s.toList ++ after)) = .ok (.line (x ++ s ++ y))) ∧
    logs.decode (.binary (Utf8.encode s.toList)) = logs.decode (.text s) := by
  constructor
  · intro hs
    have htext : s.toList ≠ [] := fun hnil => hs (String.toList_eq_nil_iff.1 hnil)
    refine ⟨_, _, rfl, rfl, ?_⟩
    simp only [decode, Utf8.decodeLossy_embedded before after htext, String.ofList_append, String.ofList_toList]
  · simp only [decode, Utf8.decodeLossy_encode, String.ofList_toList]

/-- The bytes on both sides are parts of a euro sign, which together with nothing between them would make one. -/
theorem decode_embedded_euro :
    "é" ≠ "" ∧ logs.decode (.binary ([0x68, 0xe2, 0x82] ++ Utf8.encode "é".toList ++ [0xac, 0x21])) =
      .ok (.line "h\ufffdé\ufffd!") := by
  have hs : "é" ≠ "" := by decide
  obtain ⟨x, y, hx, hy, hline⟩ := (decode_embedded [0x68, 0xe2, 0x82] [0xac, 0x21] "é").1 hs
  obtain rfl : "h\ufffd" = x := by
    have hbefore : logs.decode (.binary [0x68, 0xe2, 0x82]) = .ok (.line "h\ufffd") := rfl
    simpa [hx] using hbefore.symm
  obtain rfl : "\ufffd!" = y := by
    have hafter : logs.decode (.binary [0xac, 0x21]) = .ok (.line "\ufffd!") := rfl
    simpa [hy] using hafter.symm
  exact ⟨hs, hline⟩

end PodAttach.Mode

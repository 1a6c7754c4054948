import PodAttach.Text.Utf8

/-!
# UTF-8 that is read back

The bytes of a text, read from between two characters, yield the characters of the text and leave the reader between
two characters again. So both readings of well-formed bytes give back the text, whatever stands behind it.
-/

namespace PodAttach.Text.Utf8

/-! ### Lead bytes

What each lead byte announces, told by its payload bits. The second byte is narrowed at both ends of the range of three
bytes and of four. -/

theorem start_of_one : ∀ x < 0x80, start (UInt8.ofNat x) = ([.char (Char.ofNat x)], none) := by decide

theorem start_of_two : ∀ x < 32, 2 ≤ x → start (UInt8.ofNat (x + 0xc0)) = ([], some ⟨1, 0x80, 0xbf, x⟩) := by decide

theorem start_of_three : ∀ x < 16, start (UInt8.ofNat (x + 0xe0)) =
    ([], some ⟨2, if x = 0 then UInt8.ofNat 0xa0 else 0x80, if x = 13 then UInt8.ofNat 0x9f else 0xbf, x⟩) := by decide

theorem start_of_four : ∀ x < 5, start (UInt8.ofNat (x + 0xf0)) =
    ([], some ⟨3, if x = 0 then UInt8.ofNat 0x90 else 0x80, if x = 4 then UInt8.ofNat 0x8f else 0xbf, x⟩) := by decide

/-! ### Continuation bytes -/

variable {bits x : Nat} {low high : UInt8}

theorem toNat_continuation (hx : x < 64) : (UInt8.ofNat (x + 0x80)).toNat = x + 0x80 := by
  rw [UInt8.toNat_ofNat']
  omega

theorem toNat_continuation_mod (hx : x < 64) : (UInt8.ofNat (x + 0x80)).toNat % 64 = x := by
  rw [toNat_continuation hx]
  omega

theorem within_iff (hx : x < 64) :
    low ≤ UInt8.ofNat (x + 0x80) ∧ UInt8.ofNat (x + 0x80) ≤ high ↔ low.toNat ≤ x + 0x80 ∧ x + 0x80 ≤ high.toNat := by
  rw [UInt8.le_iff_toNat_le, UInt8.le_iff_toNat_le, toNat_continuation hx]

/-- The last byte of a sequence completes its character. -/
theorem step_last (hx : x < 64) (hwithin : low.toNat ≤ x + 0x80 ∧ x + 0x80 ≤ high.toNat) :
    step (some ⟨1, low, high, bits⟩) (UInt8.ofNat (x + 0x80)) = ([.char (Char.ofNat (bits * 64 + x))], none) := by
  simp only [step, if_pos ((within_iff hx).2 hwithin), toNat_continuation_mod hx, Nat.le_refl, if_true]

theorem step_more {missing : Nat} (hx : x < 64) (hwithin : low.toNat ≤ x + 0x80 ∧ x + 0x80 ≤ high.toNat) :
    step (some ⟨missing + 2, low, high, bits⟩) (UInt8.ofNat (x + 0x80)) =
      ([], some ⟨missing + 1, 0x80, 0xbf, bits * 64 + x⟩) := by
  have hmissing : ¬missing + 2 ≤ 1 := by omega
  simp only [step, if_pos ((within_iff hx).2 hwithin), toNat_continuation_mod hx, if_neg hmissing]
  rfl

/-- A byte after the second one may be any continuation byte. -/
theorem within_continuation (hx : x < 64) : (0x80 : UInt8).toNat ≤ x + 0x80 ∧ x + 0x80 ≤ (0xbf : UInt8).toNat := by
  change 0x80 ≤ x + 0x80 ∧ x + 0x80 ≤ 0xbf
  omega

/-- The second byte may be any continuation byte, unless the lead byte is the first or the last of its kind. -/
theorem step_second {missing a b : Nat} {first last : Prop} [Decidable first] [Decidable last] (hx : x < 64)
    (hfirst : first → a ≤ x + 0x80) (hlast : last → x + 0x80 ≤ b ∧ b < 0x100) :
    step (some ⟨missing + 2, if first then UInt8.ofNat a else 0x80, if last then UInt8.ofNat b else 0xbf, bits⟩)
        (UInt8.ofNat (x + 0x80)) = ([], some ⟨missing + 1, 0x80, 0xbf, bits * 64 + x⟩) := by
  have hany := within_continuation hx
  refine step_more hx ⟨?_, ?_⟩
  · split
    · next h =>
      rw [UInt8.toNat_ofNat']
      exact Nat.le_trans (Nat.mod_le _ _) (hfirst h)
    · exact hany.1
  · split
    · next h =>
      rw [UInt8.toNat_ofNat', Nat.mod_eq_of_lt (hlast h).2]
      exact (hlast h).1
    · exact hany.2

/-! ### Whole texts -/

theorem read_cons (state : State) (b : UInt8) (bytes : List UInt8) :
    read state (b :: bytes) = (step state b).1 ++ read (step state b).2 bytes := rfl

theorem read_utf8EncodeChar (c : Char) (bytes : List UInt8) :
    read none (String.utf8EncodeChar c ++ bytes) = .char c :: read none bytes := by
  have hchar : ∀ {n}, n = c.val.toNat → Char.ofNat n = c := by
    rintro n rfl
    exact Char.ofNat_toNat c
  have hvalid : c.val.toNat < 0xd800 ∨ 0xdfff < c.val.toNat ∧ c.val.toNat < 0x110000 := c.valid
  unfold String.utf8EncodeChar
  dsimp only
  -- one case for each length of the sequence
  split
  · next hone =>
    rw [List.singleton_append, read_cons, step, start_of_one _ (by omega), hchar rfl]
    rfl
  split
  · next hone htwo =>
    have hlast := within_continuation (x := c.val.toNat % 64) (by omega)
    rw [List.cons_append, List.singleton_append, read_cons, step, start_of_two _ (by omega) (by omega), read_cons,
      step_last (by omega) hlast, hchar (by omega)]
    rfl
  split
  · next htwo hthree =>
    have hlast := within_continuation (x := c.val.toNat % 64) (by omega)
    rw [List.cons_append, List.cons_append, List.singleton_append, read_cons, step, start_of_three _ (by omega),
      read_cons, step_second (by omega) (by omega) (by omega), read_cons, step_last (by omega) hlast, hchar (by omega)]
    rfl
  · next hthree =>
    have hlead : c.val.toNat / 262144 % 8 < 5 := by omega
    have hthird := within_continuation (x := c.val.toNat / 64 % 64) (by omega)
    have hlast := within_continuation (x := c.val.toNat % 64) (by omega)
    rw [List.cons_append, List.cons_append, List.cons_append, List.singleton_append, read_cons, step,
      start_of_four _ hlead, read_cons, step_second (by omega) (by omega) (by omega), read_cons,
      step_more (by omega) hthird, read_cons, step_last (by omega) hlast, hchar (by omega)]
    rfl

theorem read_encode (cs : List Char) (bytes : List UInt8) :
    read none (encode cs ++ bytes) = cs.map .char ++ read none bytes := by
  induction cs with
  | nil => rfl
  | cons c cs ih =>
    have hcons : encode (c :: cs) = String.utf8EncodeChar c ++ encode cs := List.flatMap_cons
    rw [hcons, List.append_assoc, read_utf8EncodeChar, ih]
    rfl

theorem read_encode_nil (cs : List Char) : read none (encode cs) = cs.map .char := by
  have hread := read_encode cs []
  rwa [List.append_nil, read, finish, List.append_nil] at hread

theorem decodeLossy_encode (cs : List Char) : decodeLossy (encode cs) = cs := by
  rw [decodeLossy, read_encode_nil, List.map_map]
  exact List.map_id cs

theorem decode?_encode (cs : List Char) : decode? (encode cs) = some cs := by
  rw [decode?, read_encode_nil]
  induction cs with
  | nil => rfl
  | cons c cs ih =>
    rw [List.map_cons, List.mapM_cons, ih]
    rfl

end PodAttach.Text.Utf8

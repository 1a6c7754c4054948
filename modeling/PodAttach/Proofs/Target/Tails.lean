import PodAttach.Proofs.Target.Resolution
import PodAttach.Proofs.Text.Letters

/-!
# Tails as they are written

A tail is the word `all` in small or capital letters, or a number in decimal digits, with or without a plus in front and
with any number of leading zeros, as long as it fits into 64 bits. What the digits are worth is also what comes out when
they are added up one after the other within 64 bits, where no step may leave them.
-/

namespace PodAttach

open Text

/-! ### What digits are worth -/

namespace Text

/-- What digits are worth, each at its place. -/
def worth : List Char → Nat
  | [] => 0
  | c :: cs => digitValue c * 10 ^ cs.length + worth cs

theorem foldl_digits_eq (value : Nat) (cs : List Char) :
    cs.foldl (fun n c => n * 10 + digitValue c) value = value * 10 ^ cs.length + worth cs := by
  induction cs generalizing value with
  | nil => simp [worth]
  | cons c cs ih =>
    rw [List.foldl_cons, ih, worth, List.length_cons]
    ring

theorem digitsValue_eq_worth (cs : List Char) : digitsValue cs = worth cs := by
  rw [digitsValue, foldl_digits_eq, Nat.zero_mul, Nat.zero_add]

/-- Puts a digit behind a number, unless a product or a sum on the way does not fit into 64 bits. -/
def addDigit? (n : UInt64) (c : Char) : Option UInt64 :=
  if n.toNat * 10 < UInt64.size then
    if (n * 10).toNat + digitValue c < UInt64.size then some (n * 10 + UInt64.ofNat (digitValue c)) else none
  else none

/-- Adds digits up one after the other. -/
def accumulate? (cs : List Char) : Option UInt64 := cs.foldlM addDigit? 0

theorem addDigit?_eq_some_iff {n m : UInt64} {c : Char} :
    addDigit? n c = some m ↔ n.toNat * 10 + digitValue c = m.toNat := by
  have hm : m.toNat < UInt64.size := m.toNat_lt_size
  unfold addDigit?
  split
  · next hproduct =>
    have hten : (n * 10).toNat = n.toNat * 10 := by
      rw [UInt64.toNat_mul, UInt64.toNat_ofNat]
      exact Nat.mod_eq_of_lt hproduct
    rw [hten]
    split
    · next hsum =>
      have hvalue : (n * 10 + UInt64.ofNat (digitValue c)).toNat = n.toNat * 10 + digitValue c := by
        rw [UInt64.toNat_add, hten, UInt64.toNat_ofNat_of_lt' (by omega)]
        exact Nat.mod_eq_of_lt hsum
      rw [Option.some_inj, ← UInt64.toNat_inj, hvalue]
    · exact iff_of_false nofun (by omega)
  · exact iff_of_false nofun (by omega)

theorem foldlM_addDigit?_eq_some_iff {n m : UInt64} {cs : List Char} :
    cs.foldlM addDigit? n = some m ↔ n.toNat * 10 ^ cs.length + worth cs = m.toNat := by
  induction cs generalizing n with
  | nil => simp [worth, UInt64.toNat_inj]
  | cons c cs ih =>
    rw [List.foldlM_cons, Option.bind_eq_bind, Option.bind_eq_some_iff, worth, List.length_cons]
    simp only [addDigit?_eq_some_iff, ih]
    constructor
    · rintro ⟨next, hnext, hm⟩
      rw [← hm, ← hnext]
      ring
    · intro hm
      have hvalue : (n.toNat * 10 + digitValue c) * 10 ^ cs.length + worth cs = m.toNat := by
        rw [← hm]
        ring
      have hle : n.toNat * 10 + digitValue c ≤ (n.toNat * 10 + digitValue c) * 10 ^ cs.length :=
        Nat.le_mul_of_pos_right _ (by positivity)
      have hlt : n.toNat * 10 + digitValue c < UInt64.size := by
        have hm := m.toNat_lt_size
        omega
      have hnext : n.toNat * 10 + digitValue c = (UInt64.ofNat (n.toNat * 10 + digitValue c)).toNat :=
        (UInt64.toNat_ofNat_of_lt' hlt).symm
      exact ⟨_, hnext, by rw [← hnext, hvalue]⟩

theorem accumulate?_eq_some_iff {n : UInt64} {cs : List Char} : accumulate? cs = some n ↔ worth cs = n.toNat := by
  rw [accumulate?, foldlM_addDigit?_eq_some_iff, UInt64.toNat_zero, Nat.zero_mul, Nat.zero_add]

theorem isDigit_iff {c : Char} : c.isDigit = true ↔ '0' ≤ c ∧ c ≤ '9' := by
  simp [Char.isDigit, Char.le_def]

theorem readDigits?_eq_some_iff {cs : List Char} {n : Nat} :
    readDigits? cs = some n ↔ (cs ≠ [] ∧ ∀ c ∈ cs, '0' ≤ c ∧ c ≤ '9') ∧ worth cs = n := by
  have hrefused : (cs.isEmpty || !cs.all Char.isDigit) = true ↔ ¬(cs ≠ [] ∧ ∀ c ∈ cs, c.isDigit = true) := by
    rw [not_and_or, not_not, ← List.all_eq_true, Bool.or_eq_true, List.isEmpty_iff, Bool.not_eq_true', Bool.not_eq_true]
  simp only [readDigits?, hrefused, ite_not, isDigit_iff, digitsValue_eq_worth, Option.ite_none_right_eq_some,
    Option.some_inj]

end Text

/-! ### The two kinds of tails -/

namespace Tail

/-- The word `all`, each letter small or capital. -/
def IsAll (s : String) : Prop := Spells s.toList ['a', 'l', 'l']

/-- The text consists of digits, at least one, with or without a plus in front of them. -/
def IsCount (s : String) (digits : List Char) : Prop :=
  (s.toList = digits ∨ s.toList = '+' :: digits) ∧ digits ≠ [] ∧ ∀ c ∈ digits, '0' ≤ c ∧ c ≤ '9'

theorem isAll_iff {s : String} : s.toList.map Char.toLower = ['a', 'l', 'l'] ↔ IsAll s :=
  map_toLower_eq_iff fun letter hletter => by
    simp only [List.mem_cons, List.not_mem_nil, or_false] at hletter
    obtain rfl | rfl | rfl := hletter <;> rfl

/-- A plus is not a digit, so it is taken off exactly when it stands in front of the digits. -/
theorem isCount_iff {s : String} {digits : List Char} :
    IsCount s digits ↔
      (if s.toList.head? = some '+' then s.toList.drop 1 else s.toList) = digits ∧
        digits ≠ [] ∧ ∀ c ∈ digits, '0' ≤ c ∧ c ≤ '9' := by
  refine and_congr_left fun ⟨_, hdigits⟩ => ?_
  cases s.toList with
  | nil => simp
  | cons c cs =>
    by_cases hplus : c = '+'
    · subst hplus
      have hno : '+' :: cs ≠ digits := by
        rintro rfl
        exact absurd (hdigits '+' List.mem_cons_self).1 (by decide)
      simp [hno]
    · simp [hplus]

/-- A number begins with a digit or a plus, and neither is a letter of the word. -/
theorem IsCount.not_isAll {s : String} {digits : List Char} (h : IsCount s digits) : ¬IsAll s := by
  obtain ⟨htext, hne, hdigits⟩ := h
  obtain ⟨c, cs, rfl⟩ := List.exists_cons_of_ne_nil hne
  have hdigit : c.toLower ≠ 'a' := toLower_ne_of_isDigit (isDigit_iff.2 (hdigits c List.mem_cons_self))
  rw [← isAll_iff]
  rcases htext with htext | htext
  · rw [htext, List.map_cons, List.cons.injEq]
    exact fun hall => hdigit hall.1
  · rw [htext, List.map_cons, List.cons.injEq]
    exact fun hall => absurd hall.1 (by decide)

theorem read?_eq_all_iff {s : String} : read? s = some .all ↔ IsAll s := by
  rw [← isAll_iff, read?]
  split
  · next hall => exact ⟨fun _ => hall, fun _ => rfl⟩
  · next hall =>
    refine iff_of_false (fun hread => ?_) hall
    obtain ⟨n, -, hlines⟩ := Option.bind_eq_some_iff.1 hread
    split at hlines <;> cases hlines

theorem read?_eq_lines_iff {s : String} {count : UInt64} :
    read? s = some (.lines count) ↔ ∃ digits, IsCount s digits ∧ worth digits = count.toNat := by
  have hfits : ∀ n, (if n < UInt64.size then some (lines (UInt64.ofNat n)) else none) = some (lines count) ↔
      n = count.toNat := fun n => by
    have hcount : count.toNat < UInt64.size := count.toNat_lt_size
    rw [Option.ite_none_right_eq_some, Option.some_inj, lines.injEq]
    constructor
    · rintro ⟨hn, rfl⟩
      exact (UInt64.toNat_ofNat_of_lt' hn).symm
    · rintro rfl
      exact ⟨hcount, UInt64.ofNat_toNat⟩
  constructor
  · intro hread
    rw [read?] at hread
    split at hread
    · cases hread
    · obtain ⟨n, hdigits, hlines⟩ := Option.bind_eq_some_iff.1 hread
      obtain ⟨hform, rfl⟩ := readDigits?_eq_some_iff.1 hdigits
      exact ⟨_, isCount_iff.2 ⟨rfl, hform⟩, (hfits _).1 hlines⟩
  · rintro ⟨digits, hcount, hworth⟩
    have hall := mt isAll_iff.1 hcount.not_isAll
    obtain ⟨htext, hform⟩ := isCount_iff.1 hcount
    rw [read?, if_neg hall, htext, readDigits?_eq_some_iff.2 ⟨hform, rfl⟩]
    exact (hfits _).2 hworth

/-- A text has no two readings as a number. -/
theorem IsCount.unique {s : String} {digits others : List Char} (h : IsCount s digits) (h' : IsCount s others) :
    digits = others :=
  (isCount_iff.1 h).1.symm.trans (isCount_iff.1 h').1

end Tail

namespace Target

theorem readTail_eq_ok_iff {s : String} {tail : Tail} : readTail s = .ok tail ↔ Tail.read? s = some tail := by
  cases hread : Tail.read? s with
  | none => simp [readTail, hread]
  | some read => simp [readTail, hread]

theorem readTail_eq_error_iff {s : String} {fault : Fault} :
    readTail s = .error fault ↔ Tail.read? s = none ∧ fault = .invalid .tail s := by
  cases hread : Tail.read? s with
  | none => simp [readTail, hread, eq_comm]
  | some read => simp [readTail, hread]

theorem read?_eq_none_iff {s : String} :
    Tail.read? s = none ↔ ¬Tail.IsAll s ∧ ∀ digits, Tail.IsCount s digits → 18446744073709551615 < worth digits := by
  constructor
  · intro hnone
    refine ⟨fun hall => ?_, fun digits hcount => ?_⟩
    · rw [Tail.read?_eq_all_iff.2 hall] at hnone
      cases hnone
    · by_contra hle
      have hfits : worth digits < UInt64.size := Nat.lt_succ_of_le (Nat.le_of_not_lt hle)
      have hvalue : worth digits = (UInt64.ofNat (worth digits)).toNat := (UInt64.toNat_ofNat_of_lt' hfits).symm
      rw [Tail.read?_eq_lines_iff.2 ⟨digits, hcount, hvalue⟩] at hnone
      cases hnone
  · rintro ⟨hall, hcounts⟩
    cases hread : Tail.read? s with
    | none => rfl
    | some tail =>
      cases tail with
      | all => exact absurd (Tail.read?_eq_all_iff.1 hread) hall
      | lines count =>
        obtain ⟨digits, hcount, hworth⟩ := Tail.read?_eq_lines_iff.1 hread
        have hgreat := hcounts digits hcount
        have hlt := count.toNat_lt
        omega

/-- Adding the digits up finds the number, and fails exactly when it does not fit. -/
theorem readTail_of_isCount {s : String} {digits : List Char} (h : Tail.IsCount s digits) :
    readTail s = (accumulate? digits).elim (.error (.invalid .tail s)) fun count => .ok (.lines count) := by
  cases hsum : accumulate? digits with
  | some count => exact readTail_eq_ok_iff.2 (Tail.read?_eq_lines_iff.2 ⟨digits, h, accumulate?_eq_some_iff.1 hsum⟩)
  | none =>
    cases hread : readTail s with
    | error fault => rw [(readTail_eq_error_iff.1 hread).2, Option.elim_none]
    | ok tail =>
      exfalso
      rw [readTail_eq_ok_iff] at hread
      cases tail with
      | all => exact h.not_isAll (Tail.read?_eq_all_iff.1 hread)
      | lines count =>
        obtain ⟨others, hothers, hworth⟩ := Tail.read?_eq_lines_iff.1 hread
        rw [← h.unique hothers] at hworth
        rw [accumulate?_eq_some_iff.2 hworth] at hsum
        cases hsum

/-- A tail is the word `all` in letters of either case, or the number that decimal digits are worth, with or without a
plus, if that is at most the greatest of 64 bits; adding the digits up within 64 bits comes to the same. Everything else
is refused and named. A tail that is written out is read back. -/
theorem readTail_iff (s : String) :
    (readTail s = .ok .all ↔ Tail.IsAll s) ∧
      (∀ n : Nat, (∃ count : UInt64, count.toNat = n ∧ readTail s = .ok (.lines count)) ↔
        (∃ digits, Tail.IsCount s digits ∧ worth digits = n) ∧ n ≤ 18446744073709551615) ∧
      (∀ digits, Tail.IsCount s digits →
        readTail s = (accumulate? digits).elim (.error (.invalid .tail s)) fun count => .ok (.lines count)) ∧
      (∀ fault, readTail s = .error fault ↔
        fault = .invalid .tail s ∧
          ¬Tail.IsAll s ∧ ∀ digits, Tail.IsCount s digits → 18446744073709551615 < worth digits) ∧
      ∀ tail : Tail, readTail tail.render = .ok tail := by
  refine ⟨?_, fun n => ?_, fun digits => readTail_of_isCount, fun fault => ?_, readTail_render⟩
  · rw [readTail_eq_ok_iff, Tail.read?_eq_all_iff]
  · simp only [readTail_eq_ok_iff, Tail.read?_eq_lines_iff]
    constructor
    · rintro ⟨count, rfl, hdigits⟩
      have hlt := count.toNat_lt
      exact ⟨hdigits, by omega⟩
    · rintro ⟨hdigits, hle⟩
      have hvalue : (UInt64.ofNat n).toNat = n := UInt64.toNat_ofNat_of_lt' (Nat.lt_succ_of_le hle)
      exact ⟨.ofNat n, hvalue, by rwa [hvalue]⟩
  · rw [readTail_eq_error_iff, read?_eq_none_iff, and_comm]

/-- With the zeros in front there are more digits than any number of 64 bits has. -/
example : readTail "+000018446744073709551615" = .ok (.lines 18446744073709551615) := by decide

example : readTail "18446744073709551616" = .error (.invalid .tail "18446744073709551616") := by decide

end Target

end PodAttach

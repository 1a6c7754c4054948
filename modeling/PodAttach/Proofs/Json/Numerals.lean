import PodAttach.Json.Scalar

/-!
# Whole numbers that are read back

A numeral is a run of digits without a leading zero. Within a word it reads as its value, whatever follows it, as long as
that is no further part of a number. The digits that are written for a number are a numeral.
-/

namespace PodAttach.Json

open Number Text

/-- Digits, at least one, of which a zero stands first only if it stands alone. -/
structure IsNumeral (ds : List Char) : Prop where
  ne_nil : ds ≠ []
  isDigit_of_mem : ∀ c ∈ ds, c.isDigit = true
  eq_of_head? : ds.head? = some '0' → ds = ['0']

/-- No number goes on with this text. -/
def EndsNumber (rest : List Char) : Prop :=
  ∀ c, rest.head? = some c → c.isDigit = false ∧ c ≠ '.' ∧ c ≠ 'e' ∧ c ≠ 'E'

theorem endsNumber_cons {c : Char} (h : c.isDigit = false ∧ c ≠ '.' ∧ c ≠ 'e' ∧ c ≠ 'E') (rest : List Char) :
    EndsNumber (c :: rest) := by
  intro d hd
  obtain rfl : c = d := by simpa using hd
  exact h

/-! ### Digits -/

theorem le_foldl_digits (value : Nat) (ds : List Char) : value ≤ ds.foldl (fun n c => n * 10 + digitValue c) value := by
  induction ds generalizing value with
  | nil => exact Nat.le_refl value
  | cons c ds ih =>
    refine Nat.le_trans ?_ (ih (value * 10 + digitValue c))
    omega

theorem takeDigits_append {ds rest : List Char} (value count : Nat) (hds : ∀ c ∈ ds, c.isDigit = true)
    (hrest : EndsNumber rest) (hle : ds.foldl (fun n c => n * 10 + digitValue c) value ≤ maxWord) :
    takeDigits value count (ds ++ rest) =
      (ds.foldl (fun n c => n * 10 + digitValue c) value, count + ds.length, rest) := by
  induction ds generalizing value count with
  | nil =>
    cases rest with
    | nil => rfl
    | cons c rest => simp [takeDigits, (hrest c rfl).1]
  | cons c ds ih =>
    have hword : value * 10 + digitValue c ≤ maxWord := Nat.le_trans (le_foldl_digits _ ds) hle
    have hdigit := hds c List.mem_cons_self
    rw [List.cons_append, takeDigits, if_pos (by simp [hdigit, hword]),
      ih (value * 10 + digitValue c) (count + 1) (fun d hd => hds d (List.mem_cons_of_mem c hd)) hle]
    simp only [List.foldl_cons, List.length_cons, Prod.mk.injEq, and_true, true_and]
    omega

theorem digitsValue_toDigits (n : Nat) : digitsValue (Nat.toDigits 10 n) = n := by
  have hfold : digitsValue (Nat.toDigits 10 n) = Nat.ofDigitChars 10 (Nat.toDigits 10 n) 0 := by
    rw [Nat.ofDigitChars_eq_foldl, digitsValue]
    congr 1
    funext m c
    rw [Nat.mul_comm, digitValue]
  rw [hfold, Nat.ofDigitChars_ten_toDigits]

theorem head?_toDigits_ne_zero {n : Nat} (h : 0 < n) : (Nat.toDigits 10 n).head? ≠ some '0' := by
  induction n using Nat.strongRecOn with
  | ind n ih =>
    by_cases hlt : n < 10
    · have hall : ∀ m < 10, 0 < m → m.digitChar ≠ '0' := by decide
      rw [Nat.toDigits_of_lt_base hlt]
      simpa using hall n hlt h
    · have hle : 10 ≤ n := Nat.le_of_not_lt hlt
      obtain ⟨c, more, hc⟩ := List.exists_cons_of_ne_nil (Nat.toDigits_ne_nil (n := n / 10) (b := 10))
      have hhead := ih (n / 10) (by omega) (by omega)
      rw [hc] at hhead
      rw [Nat.toDigits_of_base_le (by decide) hle, hc]
      exact hhead

theorem isNumeral_toDigits (n : Nat) : IsNumeral (Nat.toDigits 10 n) where
  ne_nil := Nat.toDigits_ne_nil
  isDigit_of_mem := fun _ hc => Nat.isDigit_of_mem_toDigits (by decide) (by decide) hc
  eq_of_head? := by
    intro hzero
    rcases Nat.eq_zero_or_pos n with rfl | hpos
    · rfl
    · exact absurd hzero (head?_toDigits_ne_zero hpos)

/-! ### Numbers -/

theorem readRest_of_endsNumber {rest : List Char} (value : Nat) (hrest : EndsNumber rest) :
    readRest false value 0 rest = .ok (.natural value, rest) := by
  cases rest with
  | nil => rfl
  | cons c rest =>
    obtain ⟨-, hpoint, hsmall, hlarge⟩ := hrest c rfl
    simp [readRest, hpoint, hsmall, hlarge]

theorem dropWhile_isDigit_eq_self {rest : List Char} (hrest : ∀ c, rest.head? = some c → c.isDigit = false) :
    rest.dropWhile Char.isDigit = rest := by
  cases rest with
  | nil => rfl
  | cons c rest => rw [List.dropWhile_cons, if_neg (by simp [hrest c rfl])]

theorem readNumber_append {ds rest : List Char} (hds : IsNumeral ds) (hrest : EndsNumber rest)
    (hle : digitsValue ds ≤ maxWord) : readNumber false (ds ++ rest) = .ok (.natural (digitsValue ds), rest) := by
  cases ds with
  | nil => exact absurd rfl hds.ne_nil
  | cons c more =>
    by_cases hzero : c = '0'
    · subst hzero
      obtain rfl : more = [] := by simpa using hds.eq_of_head? rfl
      have hnext : (rest.take 1).any Char.isDigit = false := by
        cases rest with
        | nil => rfl
        | cons d rest => simp [(hrest d rfl).1]
      simp only [List.cons_append, List.nil_append, readNumber, hnext]
      exact readRest_of_endsNumber 0 hrest
    · have hdigit := hds.isDigit_of_mem c List.mem_cons_self
      have htake := takeDigits_append 0 0 hds.isDigit_of_mem hrest hle
      rw [List.cons_append] at htake ⊢
      simp only [readNumber, beq_iff_eq, hzero, if_false, hdigit, if_true, htake,
        dropWhile_isDigit_eq_self fun c hc => (hrest c hc).1, Nat.sub_self]
      exact readRest_of_endsNumber _ hrest

theorem ne_of_isDigit {c d : Char} (hc : c.isDigit = true) (hd : d.isDigit = false) : c ≠ d := by
  rintro rfl
  simp [hc] at hd

theorem not_isBlank_of_isDigit {c : Char} (h : c.isDigit = true) : Json.isBlank c = false := by
  cases hb : Json.isBlank c with
  | false => rfl
  | true =>
    simp only [Json.isBlank, Bool.or_eq_true, beq_iff_eq] at hb
    rcases hb with ((rfl | rfl) | rfl) | rfl <;> simp [Char.isDigit] at h

theorem skipBlanks_cons {c : Char} (h : isBlank c = false) (rest : List Char) : skipBlanks (c :: rest) = c :: rest := by
  rw [skipBlanks, List.dropWhile_cons, if_neg (by simp [h])]

theorem readUInt16_append {ds rest : List Char} (hds : IsNumeral ds) (hrest : EndsNumber rest)
    (hlt : digitsValue ds < UInt16.size) :
    readUInt16 (ds ++ rest) = .ok (UInt16.ofNat (digitsValue ds), rest) := by
  have hle : digitsValue ds ≤ maxWord := by
    have : UInt16.size ≤ maxWord := by decide
    omega
  have hnumber := readNumber_append hds hrest hle
  cases ds with
  | nil => exact absurd rfl hds.ne_nil
  | cons c more =>
    have hdigit := hds.isDigit_of_mem c List.mem_cons_self
    have hminus : c ≠ '-' := ne_of_isDigit hdigit (by decide)
    rw [List.cons_append] at hnumber ⊢
    unfold readUInt16
    rw [skipBlanks_cons (not_isBlank_of_isDigit hdigit)]
    split
    · next heq => exact absurd (List.cons.inj heq).1 hminus
    · next heq =>
      obtain ⟨rfl, rfl⟩ := List.cons.inj heq
      rw [if_pos hdigit, hnumber]
      simp [bind, Except.bind, pure, Except.pure, Numeral.toUInt16, hlt]
    · next heq => simp at heq

theorem readUInt16_toDigits (n : UInt16) {rest : List Char} (hrest : EndsNumber rest) :
    readUInt16 (Nat.toDigits 10 n.toNat ++ rest) = .ok (n, rest) := by
  have hlt : digitsValue (Nat.toDigits 10 n.toNat) < UInt16.size := by
    rw [digitsValue_toDigits]
    exact n.toNat_lt
  rw [readUInt16_append (isNumeral_toDigits n.toNat) hrest hlt, digitsValue_toDigits, UInt16.ofNat_toNat]

end PodAttach.Json

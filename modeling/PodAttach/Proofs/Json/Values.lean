import PodAttach.Proofs.Json.Skipping

/-!
# Values that are taken

A reader that wants a value of some kind takes the values of that kind, whatever blanks stand in front of them, and fails
at all others. The kinds are told by functions on trees.
-/

namespace PodAttach.Json

open Text

/-! ### Blanks in front of a value -/

theorem skipBlanks_blanks (gap : Blanks) (rest : List Char) : skipBlanks (gap.chars ++ rest) = skipBlanks rest :=
  List.dropWhile_append_of_pos fun _ hc => isBlank_of_mem_blanks hc

theorem skipBlanks_blanks_cons (gap : Blanks) {c : Char} (h : isBlank c = false) (rest : List Char) :
    skipBlanks (gap.chars ++ c :: rest) = c :: rest := by
  rw [skipBlanks_blanks, skipBlanks_cons h]

/-- A reader takes the values that `read` knows, and fails at all others. -/
def Reader.Takes {α : Type} (reader : Reader α) (read : Tree → Option α) : Prop :=
  ∀ (before : Blanks) (t : Tree) {rest : List Char}, EndsNumber rest →
    (reader (before.chars ++ (t.source ++ rest))).toOption = (read t).map fun value => (value, rest)

theorem toOption_eq_none {α : Type} {x : Except Stop α} (h : ∀ a, x ≠ .ok a) : x.toOption = none := by
  cases x with
  | ok a => exact absurd rfl (h a)
  | error stop => rfl

theorem toOption_map {α β : Type} (f : α → β) (x : Except Stop α) : (x.map f).toOption = x.toOption.map f := by
  cases x <;> rfl

theorem toOption_bind {α β : Type} (x : Except Stop α) (f : α → Except Stop β) :
    (x >>= f).toOption = x.toOption.bind fun a => (f a).toOption := by
  cases x <;> rfl

theorem exists_of_bind_eq_ok {α β ε : Type} {x : Except ε α} {f : α → Except ε β} {b : β} (h : x >>= f = .ok b) :
    ∃ a, x = .ok a ∧ f a = .ok b := by
  cases x with
  | error e => cases h
  | ok a => exact ⟨a, rfl, h⟩

theorem toOption_rejectType {α : Type} (expected : String) (cs : List Char) :
    (rejectType expected cs : Except Stop α).toOption = none :=
  toOption_eq_none fun _ => rejectType_ne_ok

/-! ### Strings -/

theorem takes_readString : Reader.Takes readString Tree.string? := by
  intro before t rest _
  by_cases htext : ∃ pieces, t = .text pieces
  · obtain ⟨pieces, rfl⟩ := htext
    simp only [Tree.source, textSource, List.cons_append, List.append_assoc, List.nil_append]
    rw [readString, skipBlanks_blanks_cons before (by decide)]
    change ((readText (pieces.flatMap Piece.source ++ '"' :: rest)).map
      fun found => (String.ofList found.1, found.2)).toOption = _
    rw [toOption_map, toOption_readText, Tree.string?, Option.map_map, Option.map_map]
    rfl
  · obtain ⟨c, cs, hsource, hopens⟩ := exists_source_eq_cons t
    have hquote : c ≠ '"' := fun hc => htext (hopens.eq_text hc)
    have hnone : t.string? = none := by
      cases t with
      | text pieces => exact absurd ⟨pieces, rfl⟩ htext
      | _ => rfl
    rw [hnone, hsource, List.cons_append, readString, skipBlanks_blanks_cons before hopens.isBlank_eq]
    split
    · next heq => exact absurd (List.cons.inj heq).1 hquote
    · exact toOption_rejectType _ _

/-! ### Numbers -/

/-- A number was not read as digits alone. -/
def Unnatural (x : Except Stop (Numeral × List Char)) : Prop := ∀ n left, x ≠ .ok (.natural n, left)

section

variable {negative : Bool} {significand omitted n : Nat} {exponent : Int} {cs left : List Char}

theorem unnatural_scaledNumeral : Unnatural (scaledNumeral negative significand exponent cs) := by
  intro n left
  unfold scaledNumeral
  split <;> simp [Stop.before]

theorem unnatural_readExponentDigits {minus : Bool} (value : Nat) :
    Unnatural (readExponentDigits negative significand exponent minus value cs) := by
  fun_induction readExponentDigits negative significand exponent minus value cs with
  | case1 => exact unnatural_scaledNumeral
  | case2 => simp [Unnatural, Stop.before]
  | case3 => simp [Unnatural]
  | case4 _ _ _ _ _ ih => exact ih
  | case5 => exact unnatural_scaledNumeral

theorem unnatural_readExponent : Unnatural (readExponent negative significand exponent cs) := by
  unfold readExponent
  dsimp only
  split
  · simp [Unnatural, Stop.atEnd]
  · split
    · exact unnatural_readExponentDigits 0
    · simp [Unnatural, Stop.within]

theorem unnatural_readScale : Unnatural (readScale negative significand exponent cs) := by
  unfold readScale
  split
  · exact unnatural_scaledNumeral
  · split
    · exact unnatural_readExponent
    · exact unnatural_scaledNumeral

theorem unnatural_readFraction : Unnatural (readFraction negative significand exponent cs) := by
  unfold readFraction
  split
  · simp [Unnatural, Stop.atEnd]
  · split
    · simp [Unnatural, Stop.within]
    · exact unnatural_readScale

/-- What follows the digits of a natural number is left as it is, and no digit of it was left out. -/
theorem of_readRest_natural (h : readRest negative significand omitted cs = .ok (.natural n, left)) :
    negative = false ∧ omitted = 0 ∧ n = significand ∧ ∀ c, cs.head? = some c → c ≠ '.' ∧ c ≠ 'e' ∧ c ≠ 'E' := by
  unfold readRest at h
  split at h
  · exact absurd h (unnatural_readFraction n left)
  next hpoint =>
  split at h
  · exact absurd h (unnatural_readExponent n left)
  next hletter =>
  split at h
  · exact absurd h (unnatural_scaledNumeral n left)
  next homitted =>
  split at h
  next hnegative =>
    obtain ⟨hn, -⟩ : significand = n ∧ cs = left := by simpa using h
    refine ⟨by simpa using hnegative, by simpa using homitted, hn.symm, ?_⟩
    rintro c hc
    simpa [hc] using And.intro hpoint hletter
  · split at h
    · exact absurd h (unnatural_scaledNumeral n left)
    · simp at h

/-- Digits are taken to their end, or one is left. -/
theorem takeDigits_cases {ds : List Char} (value count : Nat) (hds : ∀ c ∈ ds, c.isDigit = true)
    (hcs : ∀ c, cs.head? = some c → c.isDigit = false) :
    takeDigits value count (ds ++ cs) = (ds.foldl (fun n c => n * 10 + digitValue c) value, count + ds.length, cs) ∨
      ∃ d more, (takeDigits value count (ds ++ cs)).2.2 = d :: more ∧ d.isDigit = true := by
  induction ds generalizing value count with
  | nil =>
    left
    cases cs with
    | nil => rfl
    | cons c cs => simp [takeDigits, hcs c rfl]
  | cons d ds ih =>
    have hdigit := hds d List.mem_cons_self
    rw [List.cons_append, takeDigits]
    split
    · have hrest := ih (value * 10 + digitValue d) (count + 1) fun c hc => hds c (List.mem_cons_of_mem d hc)
      rwa [Nat.add_right_comm, Nat.add_assoc] at hrest
    · exact .inr ⟨d, ds ++ cs, rfl, hdigit⟩

theorem of_readNumber_natural {ds : List Char} (hds : IsNumeral ds) (hcs : ∀ c, cs.head? = some c → c.isDigit = false)
    (h : readNumber negative (ds ++ cs) = .ok (.natural n, left)) :
    negative = false ∧ n = digitsValue ds ∧ ∀ c, cs.head? = some c → c ≠ '.' ∧ c ≠ 'e' ∧ c ≠ 'E' := by
  cases ds with
  | nil => exact absurd rfl hds.ne_nil
  | cons c more =>
    have hdigit := hds.isDigit_of_mem c List.mem_cons_self
    by_cases hzero : c = '0'
    · subst hzero
      obtain rfl : more = [] := by simpa using hds.eq_of_head? rfl
      simp only [List.cons_append, List.nil_append, readNumber, beq_self_eq_true, if_true] at h
      split at h
      · simp [Stop.within] at h
      · obtain ⟨hnegative, -, hn, hends⟩ := of_readRest_natural h
        exact ⟨hnegative, hn, hends⟩
    · have htaken := takeDigits_cases 0 0 hds.isDigit_of_mem hcs
      simp only [List.cons_append, readNumber, beq_iff_eq, hzero, if_false, hdigit, if_true] at h htaken
      rcases htaken with htake | ⟨d, after, htake, hd⟩
      · simp only [htake, dropWhile_isDigit_eq_self hcs] at h
        obtain ⟨hnegative, -, hn, hends⟩ := of_readRest_natural h
        exact ⟨hnegative, hn, hends⟩
      · rw [htake, List.dropWhile_cons, if_pos hd] at h
        have homitted := (of_readRest_natural h).2.1
        have hle := length_dropWhile_le Char.isDigit after
        simp only [List.length_cons] at homitted
        omega

end

/-- Behind the digits of a literal stands the scale that makes it no natural number, or nothing. -/
theorem natural?_cases (l : Literal) :
    (∃ c cs, l.scale = c :: cs ∧ c ∈ ['.', 'e', 'E'] ∧ l.natural? = none) ∨
      l.scale = [] ∧ l.natural? = if l.isNegative then none else some (digitsValue l.whole) := by
  cases hfraction : l.fraction with
  | some digits =>
    exact .inl ⟨'.', _, by rw [Literal.scale, hfraction]; rfl, by decide, by simp [Literal.natural?, hfraction]⟩
  | none =>
    cases hexponent : l.exponent with
    | some e =>
      have hletter : e.letter ∈ ['.', 'e', 'E'] := List.mem_cons_of_mem _ e.letter_mem
      refine .inl ⟨e.letter, _, by rw [Literal.scale, hfraction, hexponent]; rfl, hletter, ?_⟩
      simp [Literal.natural?, hexponent]
    | none =>
      refine .inr ⟨by rw [Literal.scale, hfraction, hexponent]; rfl, ?_⟩
      simp [Literal.natural?, hfraction, hexponent]

theorem isDigit_head?_scale (l : Literal) {rest : List Char} (hrest : EndsNumber rest) :
    ∀ c, (l.scale ++ rest).head? = some c → c.isDigit = false := by
  intro c hc
  have hall : ∀ d ∈ ['.', 'e', 'E'], d.isDigit = false := by simp [Char.isDigit]
  obtain ⟨d, cs, hscale, hd, -⟩ | ⟨hscale, -⟩ := natural?_cases l
  · obtain rfl : d = c := by simpa [hscale] using hc
    exact hall d hd
  · rw [hscale] at hc
    exact (hrest c hc).1

/-- The only natural number that is read for a literal is the one it writes. -/
theorem natural?_of_readNumber {l : Literal} {n : Nat} {rest left : List Char} (hrest : EndsNumber rest)
    (h : readNumber l.isNegative (l.whole ++ (l.scale ++ rest)) = .ok (.natural n, left)) : l.natural? = some n := by
  obtain ⟨hnegative, hn, hends⟩ := of_readNumber_natural l.isNumeral_whole (isDigit_head?_scale l hrest) h
  obtain ⟨c, cs, hscale, hc, -⟩ | ⟨-, hnatural⟩ := natural?_cases l
  · obtain ⟨hpoint, hsmall, hlarge⟩ := hends c (by rw [hscale]; rfl)
    simp [hpoint, hsmall, hlarge] at hc
  · rw [hnatural, hnegative, hn]
    rfl

theorem readNumber_of_natural? {l : Literal} {n : Nat} {rest : List Char} (hrest : EndsNumber rest)
    (h : l.natural? = some n) (hle : n ≤ maxWord) :
    readNumber l.isNegative (l.whole ++ (l.scale ++ rest)) = .ok (.natural n, rest) := by
  obtain ⟨c, cs, -, -, hnone⟩ | ⟨hscale, hnatural⟩ := natural?_cases l
  · rw [hnone] at h
    simp at h
  · rw [hnatural] at h
    cases hnegative : l.isNegative with
    | true => simp [hnegative] at h
    | false =>
      obtain rfl : digitsValue l.whole = n := by simpa [hnegative] using h
      rw [hscale, List.nil_append, readNumber_append l.isNumeral_whole hrest hle]

/-- The number of sixteen bits that a number is. -/
def toWord (x : Except Stop (Numeral × List Char)) : Except Stop (UInt16 × List Char) := do
  let (n, rest) ← x
  return (← n.toUInt16 rest, rest)

theorem toWord_natural {n : Nat} (h : n < UInt16.size) (rest : List Char) :
    toWord (.ok (.natural n, rest)) = .ok (UInt16.ofNat n, rest) := by
  simp [toWord, Numeral.toUInt16, h, bind, Except.bind, pure, Except.pure]

/-- Only a natural number below the bound is a word. -/
theorem exists_natural_of_toWord {x : Except Stop (Numeral × List Char)} {word : UInt16} {rest : List Char}
    (h : toWord x = .ok (word, rest)) : ∃ n, n < UInt16.size ∧ UInt16.ofNat n = word ∧ x = .ok (.natural n, rest) := by
  rcases x with stop | ⟨numeral, left⟩
  · cases h
  · cases numeral with
    | natural n =>
      by_cases hlt : n < UInt16.size
      · rw [toWord_natural hlt] at h
        obtain ⟨hword, rfl⟩ := Prod.mk.inj (Except.ok.inj h)
        exact ⟨n, hlt, hword, rfl⟩
      · simp [toWord, Numeral.toUInt16, hlt, bind, Except.bind, Stop.before] at h
    | negative n => cases h
    | fraction minus f => cases h

theorem toOption_toWord {x : Except Stop (Numeral × List Char)} {natural? : Option Nat} {rest : List Char}
    (hsound : ∀ n left, x = .ok (.natural n, left) → natural? = some n)
    (hcomplete : ∀ n, natural? = some n → n ≤ maxWord → x = .ok (.natural n, rest)) :
    (toWord x).toOption =
      (natural?.bind fun n => if n ≤ 65535 then some (UInt16.ofNat n) else none).map fun value => (value, rest) := by
  have hsize : ∀ n, n < UInt16.size ↔ n ≤ 65535 := fun n => Nat.lt_succ_iff
  by_cases hword : ∃ n, natural? = some n ∧ n ≤ 65535
  · obtain ⟨n, hn, hle⟩ := hword
    rw [hcomplete n hn (Nat.le_trans hle (by decide)), hn, toWord_natural ((hsize n).2 hle), Option.bind_some, if_pos hle]
    rfl
  · -- digits that do not fit into a word are read as a fraction, so `hcomplete` says nothing of them
    have hnone : (natural?.bind fun n => if n ≤ 65535 then some (UInt16.ofNat n) else none) = none := by
      cases hn : natural? with
      | none => rfl
      | some n =>
        have hlt : ¬ n ≤ 65535 := fun hle => hword ⟨n, hn, hle⟩
        simp [hlt]
    rw [hnone]
    apply toOption_eq_none
    rintro ⟨word, left⟩ hread
    obtain ⟨n, hlt, -, hx⟩ := exists_natural_of_toWord hread
    exact hword ⟨n, hsound n left hx, (hsize n).1 hlt⟩

theorem readUInt16_minus (before : Blanks) (cs : List Char) :
    readUInt16 (before.chars ++ '-' :: cs) = toWord (readNumber true cs) := by
  rw [readUInt16, skipBlanks_blanks_cons before (by decide)]
  rfl

theorem readUInt16_digit (before : Blanks) {c : Char} (hc : c.isDigit = true) (cs : List Char) :
    readUInt16 (before.chars ++ c :: cs) = toWord (readNumber false (c :: cs)) := by
  rw [readUInt16, skipBlanks_blanks_cons before (not_isBlank_of_isDigit hc)]
  split
  · next heq => exact absurd (List.cons.inj heq).1 (ne_of_isDigit hc (by decide))
  · next heq =>
    obtain ⟨rfl, rfl⟩ := List.cons.inj heq
    rw [if_pos hc]
    rfl
  · next heq => simp at heq

theorem takes_readUInt16 : Reader.Takes readUInt16 Tree.word? := by
  intro before t rest hrest
  by_cases hnumber : ∃ l, t = .number l
  · obtain ⟨l, rfl⟩ := hnumber
    have hread : readUInt16 (before.chars ++ (l.source ++ rest)) =
        toWord (readNumber l.isNegative (l.whole ++ (l.scale ++ rest))) := by
      obtain ⟨c, cs, hsource, ⟨hnegative, rfl, rfl⟩ | ⟨hnegative, hdigit, hcs⟩⟩ := exists_literal_source_eq_cons l
      · rw [hsource, hnegative, List.cons_append, readUInt16_minus, List.append_assoc]
      · rw [hsource, hnegative, List.cons_append, readUInt16_digit before hdigit, ← List.append_assoc, ← hcs,
          List.cons_append]
    rw [Tree.source, hread]
    exact toOption_toWord (fun n left => natural?_of_readNumber hrest) fun n => readNumber_of_natural? hrest
  · obtain ⟨c, cs, hsource, hopens⟩ := exists_source_eq_cons t
    have hother : ¬ (c = '-' ∨ c.isDigit = true) := fun hc => hnumber (hopens.eq_number hc)
    have hnone : t.word? = none := by
      cases t with
      | number l => exact absurd ⟨l, rfl⟩ hnumber
      | _ => rfl
    rw [hnone, hsource, List.cons_append, readUInt16, skipBlanks_blanks_cons before hopens.isBlank_eq]
    split
    · next heq => exact absurd (.inl (List.cons.inj heq).1) hother
    · next heq =>
      obtain ⟨rfl, rfl⟩ := List.cons.inj heq
      rw [if_neg fun hc => hother (.inr hc)]
      exact toOption_rejectType _ _
    · next heq => simp at heq

/-! ### Values that may be null -/

theorem readWord_append (missing rest : List Char) : readWord missing (missing ++ rest) = .ok rest := by
  induction missing with
  | nil => rfl
  | cons c missing ih => rw [List.cons_append, readWord, if_pos (by simp), ih]

theorem Reader.Takes.nullable {α : Type} {reader : Reader α} {read : Tree → Option α} (h : reader.Takes read) :
    Reader.Takes (readNullable reader) (Tree.orNull read) := by
  intro before t rest hrest
  by_cases hnull : t = .null
  · subst hnull
    rw [Tree.source, List.cons_append, readNullable, skipBlanks_blanks_cons before (by decide)]
    change ((readWord ['u', 'l', 'l'] (['u', 'l', 'l'] ++ rest)).map fun rest => (none, rest)).toOption = _
    rw [readWord_append]
    rfl
  · obtain ⟨c, cs, hsource, hopens⟩ := exists_source_eq_cons t
    have hn : c ≠ 'n' := fun hc => hnull (hopens.eq_null hc)
    have hread : t.orNull read = (read t).map some := by
      cases t with
      | null => exact absurd rfl hnull
      | _ => rfl
    have htake := h before t hrest
    rw [hread]
    rw [hsource, List.cons_append] at htake ⊢
    rw [readNullable, skipBlanks_blanks_cons before hopens.isBlank_eq]
    split
    · next heq => exact absurd (List.cons.inj heq).1 hn
    · rw [toOption_map, htake, Option.map_map, Option.map_map]
      rfl

end PodAttach.Json

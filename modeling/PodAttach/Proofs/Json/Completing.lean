import PodAttach.Proofs.Json.Skipping

/-!
# What the skipping machine wants

At each place the machine wants a text that completes the value it stands in, with all brackets that are open around it.
Such texts are told by the grammar. If the machine goes on with a character, then what it wants from there completes what
it wanted before; so whatever it passes over was a value.
-/

namespace PodAttach.Json

open Text

/-! ### Escapes and digits -/

theorem mem_of_shortEscape? {letter named : Char} (h : shortEscape? letter = some named) :
    (letter, named) ∈ shortEscapes := by
  unfold shortEscape? at h
  simp only [Bool.or_eq_true, beq_iff_eq] at h
  split at h
  · next hsame =>
    obtain rfl := Option.some.inj h
    rcases hsame with (rfl | rfl) | rfl <;> decide
  · repeat' split at h
    all_goals simp_all [shortEscapes, eq_comm]

theorem exists_hexDigit {c : Char} (h : (Unicode.hexDigit? c).isSome) : ∃ d : HexDigit, d.char = c := by
  have hall : ∀ n < 128, (Unicode.hexDigit? (Char.ofNat n)).isSome → Char.ofNat n ∈ hexDigits.map Prod.fst := by
    decide
  have hlt : c.toNat < 128 := by
    unfold Unicode.hexDigit? at h
    split at h
    · next hle => exact Nat.lt_of_le_of_lt hle.2 (by decide)
    split at h
    · next hle => exact Nat.lt_of_le_of_lt hle.2 (by decide)
    split at h
    · next hle => exact Nat.lt_of_le_of_lt hle.2 (by decide)
    · cases h
  have hmem := hall c.toNat hlt
  rw [Char.ofNat_toNat] at hmem
  obtain ⟨⟨char, value⟩, hentry, rfl⟩ := List.mem_map.1 (hmem h)
  exact ⟨⟨char, value, hentry⟩, rfl⟩

theorem exists_eq_of_length_eq_four {α : Type} {xs : List α} (h : xs.length = 4) : ∃ a b c d, xs = [a, b, c, d] := by
  rcases xs with _ | ⟨a, _ | ⟨b, _ | ⟨c, _ | ⟨d, _ | ⟨e, xs⟩⟩⟩⟩⟩ <;> simp at h ⊢

def Digits.cons (c : Char) (h : c.isDigit = true) (ds : List Char) (hds : ∀ d ∈ ds, d.isDigit = true) : Digits where
  chars := c :: ds
  ne_nil := List.cons_ne_nil c ds
  isDigit_of_mem := List.forall_mem_cons.2 ⟨h, hds⟩

theorem isNumeral_zero : IsNumeral ['0'] := ⟨by decide, by simp, by decide⟩

/-- A number without fraction and exponent. -/
def plainZero : Literal := ⟨false, ['0'], isNumeral_zero, none, none⟩

namespace Skip

/-- The texts that complete a value from a place on, with all brackets that are open around it, and go on with `rest`. -/
inductive Completes (rest : List Char) : Stack → Place → List Char → Prop where
  | done : Completes rest [] .after rest
  | elements {stack cs} (gap : Blanks) (more : List (Padded Tree)) (h : Completes rest stack .after cs) :
      Completes rest (.list :: stack) .after (gap.chars ++ (Tree.elementsSource more ++ ']' :: cs))
  | members {stack cs} (gap : Blanks) (more : List (Member Tree)) (h : Completes rest stack .after cs) :
      Completes rest (.object :: stack) .after (gap.chars ++ (Tree.membersSource more ++ '\x7d' :: cs))
  | value {stack cs} (before : Blanks) (t : Tree) (h : Completes rest stack .after cs) :
      Completes rest stack .value (before.chars ++ (t.source ++ cs))
  | noElement {stack cs} (gap : Blanks) (h : Completes rest stack .after cs) :
      Completes rest (.list :: stack) .opened (gap.chars ++ ']' :: cs)
  | firstElement {stack cs} (h : Completes rest (.list :: stack) .value cs) :
      Completes rest (.list :: stack) .opened cs
  | noMember {stack cs} (gap : Blanks) (h : Completes rest stack .after cs) :
      Completes rest (.object :: stack) .opened (gap.chars ++ '\x7d' :: cs)
  | firstMember {stack cs} (h : Completes rest (.object :: stack) .key cs) :
      Completes rest (.object :: stack) .opened cs
  /-- No bracket was opened; the machine never stands here. -/
  | unopened {cs} (h : Completes rest [] .value cs) : Completes rest [] .opened cs
  | key {stack cs} (gap : Blanks) (h : Completes rest stack (.text true) cs) :
      Completes rest stack .key (gap.chars ++ '"' :: cs)
  | colon {stack cs} (gap : Blanks) (h : Completes rest stack .value cs) :
      Completes rest stack .colon (gap.chars ++ ':' :: cs)
  | text {stack isKey cs} (pieces : List Piece) (h : Completes rest stack (if isKey then .colon else .after) cs) :
      Completes rest stack (.text isKey) (pieces.flatMap Piece.source ++ '"' :: cs)
  | short {stack isKey cs} (letter named : Char) (hmem : (letter, named) ∈ shortEscapes)
      (h : Completes rest stack (.text isKey) cs) : Completes rest stack (.escape isKey) (letter :: cs)
  | unicode {stack isKey cs} (h : Completes rest stack (.hex isKey 0) cs) :
      Completes rest stack (.escape isKey) ('u' :: cs)
  /-- The machine counts three digits and then stops counting. -/
  | hex {stack isKey seen cs} (digits : List HexDigit) (hlength : digits.length + min seen 3 = 4)
      (h : Completes rest stack (.text isKey) cs) :
      Completes rest stack (.hex isKey seen) (digits.map HexDigit.char ++ cs)
  | word {stack cs} (missing : List Char) (h : Completes rest stack .after cs) :
      Completes rest stack (.word missing) (missing ++ cs)
  | minus {stack cs} (l : Literal) (h : Completes rest stack .after cs) :
      Completes rest stack .minus (l.whole ++ (l.scale ++ cs))
  /-- Of the literal, only what stands behind its whole part counts. -/
  | zero {stack cs} (l : Literal) (h : Completes rest stack .after cs) : Completes rest stack .zero (l.scale ++ cs)
  | whole {stack cs} (ds : List Char) (hds : ∀ c ∈ ds, c.isDigit = true) (l : Literal)
      (h : Completes rest stack .after cs) : Completes rest stack .whole (ds ++ (l.scale ++ cs))
  | point {stack cs} (digits : Digits) (exponent : Option Exponent) (h : Completes rest stack .after cs) :
      Completes rest stack .point (digits.chars ++ ((exponent.map Exponent.source).getD [] ++ cs))
  | fraction {stack cs} (ds : List Char) (hds : ∀ c ∈ ds, c.isDigit = true) (exponent : Option Exponent)
      (h : Completes rest stack .after cs) :
      Completes rest stack .fraction (ds ++ ((exponent.map Exponent.source).getD [] ++ cs))
  | letter {stack cs} (sign : List Char) (hsign : sign ∈ [[], ['+'], ['-']]) (digits : Digits)
      (h : Completes rest stack .after cs) : Completes rest stack .letter (sign ++ (digits.chars ++ cs))
  | sign {stack cs} (digits : Digits) (h : Completes rest stack .after cs) :
      Completes rest stack .sign (digits.chars ++ cs)
  | exponent {stack cs} (ds : List Char) (hds : ∀ c ∈ ds, c.isDigit = true) (h : Completes rest stack .after cs) :
      Completes rest stack .exponent (ds ++ cs)

namespace Completes

variable {rest cs : List Char} {stack next : Stack} {place : Place} {c : Char}

theorem eq_rest (h : Completes rest [] .after cs) : cs = rest := by
  cases h
  rfl

/-! ### Words, strings and numbers -/

/-- A value without blanks in front of it. -/
theorem bare {text : List Char} (t : Tree) (htext : text = t.source ++ cs) (h : Completes rest stack .after cs) :
    Completes rest stack .value text := by
  subst htext
  exact .value .none t h

theorem of_step_word {missing : List Char} (hstep : step stack (.word missing) c = .ok (next, place))
    (h : Completes rest next place cs) : Completes rest stack (.word missing) (c :: cs) := by
  cases missing with
  | nil => cases hstep
  | cons expected missing =>
    simp only [step, beq_iff_eq] at hstep
    split at hstep
    · next hc =>
      subst hc
      cases missing with
      | nil =>
        cases hstep
        exact .word [c] h
      | cons d missing =>
        cases hstep
        cases h with
        | word missing h => exact .word (c :: d :: _) h
    · cases hstep

theorem of_step_text {isKey : Bool} (hstep : step stack (.text isKey) c = .ok (next, place))
    (h : Completes rest next place cs) : Completes rest stack (.text isKey) (c :: cs) := by
  simp only [step, beq_iff_eq] at hstep
  split at hstep
  · next hquote =>
    cases hstep
    subst hquote
    exact .text [] h
  next hquote =>
  split at hstep
  · next hback =>
    cases hstep
    subst hback
    cases h with
    | short letter named hmem h =>
      cases h with
      | text pieces h => exact .text (.short letter named hmem :: pieces) h
    | unicode h =>
      cases h with
      | hex digits hlength h =>
        obtain ⟨a, b, c, d, rfl⟩ := exists_eq_of_length_eq_four hlength
        cases h with
        | text pieces h => exact .text (.hex a b c d :: pieces) h
  next hback =>
  split at hstep
  · cases hstep
  · next hle =>
    cases hstep
    cases h with
    | text pieces h => exact .text (.plain c ⟨Char.not_lt.1 hle, hquote, hback⟩ :: pieces) h

theorem of_step_escape {isKey : Bool} (hstep : step stack (.escape isKey) c = .ok (next, place))
    (h : Completes rest next place cs) : Completes rest stack (.escape isKey) (c :: cs) := by
  simp only [step, beq_iff_eq] at hstep
  split at hstep
  · next hshort =>
    cases hstep
    obtain ⟨named, hnamed⟩ := Option.isSome_iff_exists.1 hshort
    exact .short c named (mem_of_shortEscape? hnamed) h
  · split at hstep
    · next hu =>
      cases hstep
      subst hu
      exact .unicode h
    · cases hstep

theorem of_step_hex {isKey : Bool} {seen : Nat} (hstep : step stack (.hex isKey seen) c = .ok (next, place))
    (h : Completes rest next place cs) : Completes rest stack (.hex isKey seen) (c :: cs) := by
  simp only [step] at hstep
  split at hstep
  · cases hstep
  next hdigit =>
  obtain ⟨d, rfl⟩ := exists_hexDigit (c := c) (by simpa [Option.isSome_iff_ne_none] using hdigit)
  cases hstep
  by_cases hlt : seen < 3
  · rw [if_pos hlt] at h
    cases h with
    | hex digits hlength h => exact .hex (d :: digits) (by simp only [List.length_cons]; omega) h
  · rw [if_neg hlt] at h
    exact .hex [d] (by simp only [List.length_cons, List.length_nil]; omega) h

theorem of_step_exponent (hstep : step stack .exponent c = .ok (next, place)) (h : Completes rest next place cs) :
    Completes rest stack .exponent (c :: cs) := by
  simp only [step] at hstep
  split at hstep
  · next hdigit =>
    cases hstep
    cases h with
    | exponent ds hds h => exact .exponent (c :: ds) (List.forall_mem_cons.2 ⟨hdigit, hds⟩) h
  · cases hstep

theorem of_step_sign (hstep : step stack .sign c = .ok (next, place)) (h : Completes rest next place cs) :
    Completes rest stack .sign (c :: cs) := by
  simp only [step] at hstep
  split at hstep
  · next hdigit =>
    cases hstep
    cases h with
    | exponent ds hds h => exact .sign (.cons c hdigit ds hds) h
  · cases hstep

theorem of_step_letter (hstep : step stack .letter c = .ok (next, place)) (h : Completes rest next place cs) :
    Completes rest stack .letter (c :: cs) := by
  simp only [step, Bool.or_eq_true, beq_iff_eq] at hstep
  split at hstep
  · next hsign =>
    cases hstep
    cases h with
    | sign digits h => exact .letter [c] (by rcases hsign with rfl | rfl <;> decide) digits h
  · split at hstep
    · next hdigit =>
      cases hstep
      cases h with
      | exponent ds hds h => exact .letter [] (by decide) (.cons c hdigit ds hds) h
    · cases hstep

theorem of_step_point (hstep : step stack .point c = .ok (next, place)) (h : Completes rest next place cs) :
    Completes rest stack .point (c :: cs) := by
  simp only [step] at hstep
  split at hstep
  · next hdigit =>
    cases hstep
    cases h with
    | fraction ds hds exponent h => exact .point (.cons c hdigit ds hds) exponent h
  · cases hstep

/-- A letter leads to an exponent. -/
theorem exists_exponent (hc : c = 'e' ∨ c = 'E') (h : Completes rest stack .letter cs) :
    ∃ (e : Exponent) (left : List Char), c :: cs = e.source ++ left ∧ Completes rest stack .after left := by
  cases h with
  | letter sign hsign digits h =>
    refine ⟨⟨c, by rcases hc with rfl | rfl <;> decide, sign, hsign, digits⟩, _, ?_, h⟩
    simp [Exponent.source]

theorem of_step_fraction (hstep : step stack .fraction c = .ok (next, place)) (h : Completes rest next place cs) :
    Completes rest stack .fraction (c :: cs) := by
  simp only [step, Bool.or_eq_true, beq_iff_eq] at hstep
  split at hstep
  · next hdigit =>
    cases hstep
    cases h with
    | fraction ds hds exponent h => exact .fraction (c :: ds) (List.forall_mem_cons.2 ⟨hdigit, hds⟩) exponent h
  · split at hstep
    · next hletter =>
      cases hstep
      obtain ⟨e, left, hsource, h⟩ := exists_exponent hletter h
      rw [hsource]
      exact .fraction [] (by simp) (some e) h
    · cases hstep

/-- A point or a letter behind a whole part leads to its scale. -/
theorem exists_scale
    (h : c = '.' ∧ Completes rest stack .point cs ∨ (c = 'e' ∨ c = 'E') ∧ Completes rest stack .letter cs) :
    ∃ (l : Literal) (left : List Char), c :: cs = l.scale ++ left ∧ Completes rest stack .after left := by
  rcases h with ⟨rfl, h⟩ | ⟨hc, h⟩
  · cases h with
    | point digits exponent h =>
      exact ⟨{ plainZero with fraction := some digits, exponent }, _, by simp [Literal.scale], h⟩
  · obtain ⟨e, left, hsource, h⟩ := exists_exponent hc h
    exact ⟨{ plainZero with exponent := some e }, left, hsource, h⟩

theorem of_step_zero (hstep : step stack .zero c = .ok (next, place)) (h : Completes rest next place cs) :
    Completes rest stack .zero (c :: cs) := by
  have hscale : c = '.' ∧ Completes rest stack .point cs ∨
      (c = 'e' ∨ c = 'E') ∧ Completes rest stack .letter cs := by
    simp only [step, Bool.or_eq_true, beq_iff_eq] at hstep
    split at hstep
    · next hpoint =>
      cases hstep
      exact .inl ⟨hpoint, h⟩
    · split at hstep
      · next hletter =>
        cases hstep
        exact .inr ⟨hletter, h⟩
      · cases hstep
  obtain ⟨l, left, hsource, h⟩ := exists_scale hscale
  rw [hsource]
  exact .zero l h

theorem of_step_whole (hstep : step stack .whole c = .ok (next, place)) (h : Completes rest next place cs) :
    Completes rest stack .whole (c :: cs) := by
  simp only [step] at hstep
  split at hstep
  · next hdigit =>
    cases hstep
    cases h with
    | whole ds hds l h => exact .whole (c :: ds) (List.forall_mem_cons.2 ⟨hdigit, hds⟩) l h
  · have hzero : Completes rest stack .zero (c :: cs) := of_step_zero hstep h
    generalize htext : c :: cs = text at hzero ⊢
    cases hzero with
    | zero l h => exact .whole [] (by simp) l h

/-- The first digit of a number leads to its whole part. -/
theorem exists_whole
    (h : c = '0' ∧ Completes rest stack .zero cs ∨ (c ≠ '0' ∧ c.isDigit = true) ∧ Completes rest stack .whole cs) :
    ∃ (l : Literal) (left : List Char), c :: cs = l.whole ++ (l.scale ++ left) ∧ Completes rest stack .after left := by
  rcases h with ⟨rfl, h⟩ | ⟨⟨hzero, hdigit⟩, h⟩
  · cases h with
    | zero l h => exact ⟨{ l with whole := ['0'], isNumeral_whole := isNumeral_zero }, _, rfl, h⟩
  · cases h with
    | whole ds hds l h =>
      have hnumeral : IsNumeral (c :: ds) :=
        ⟨List.cons_ne_nil c ds, List.forall_mem_cons.2 ⟨hdigit, hds⟩, fun hhead => absurd (Option.some.inj hhead) hzero⟩
      exact ⟨{ l with whole := c :: ds, isNumeral_whole := hnumeral }, _, rfl, h⟩

theorem of_step_minus (hstep : step stack .minus c = .ok (next, place)) (h : Completes rest next place cs) :
    Completes rest stack .minus (c :: cs) := by
  simp only [step, beq_iff_eq] at hstep
  split at hstep
  · next hzero =>
    cases hstep
    obtain ⟨l, left, hsource, h⟩ := exists_whole (.inl ⟨hzero, h⟩)
    rw [hsource]
    exact .minus l h
  next hzero =>
  split at hstep
  · next hdigit =>
    cases hstep
    obtain ⟨l, left, hsource, h⟩ := exists_whole (.inr ⟨⟨hzero, hdigit⟩, h⟩)
    rw [hsource]
    exact .minus l h
  · cases hstep

/-! ### Lists, objects and whole values -/

/-- The name of a member and its value, from in front of the name. -/
theorem exists_member (h : Completes rest stack .key cs) :
    ∃ (name : Padded (List Piece)) (before : Blanks) (t : Tree) (left : List Char),
      cs = nameSource name ++ (before.chars ++ (t.source ++ left)) ∧ Completes rest stack .after left := by
  cases h with
  | key gap h =>
    cases h with
    | text pieces h =>
      cases h with
      | colon after h =>
        cases h with
        | value before t h =>
          exact ⟨⟨gap, pieces, after⟩, before, t, _, by simp [nameSource, textSource], h⟩

/-- Another member is wanted behind a comma. -/
theorem comma_member (gap : Blanks) (h : Completes rest (.object :: stack) .key cs) :
    Completes rest (.object :: stack) .after (gap.chars ++ ',' :: cs) := by
  obtain ⟨name, before, t, left, rfl, hafter⟩ := exists_member h
  cases hafter with
  | members after more houter =>
    have hmore := members gap (⟨name, before, t, after⟩ :: more) houter
    simpa [Tree.membersSource] using hmore

theorem comma_element (gap : Blanks) (h : Completes rest (.list :: stack) .value cs) :
    Completes rest (.list :: stack) .after (gap.chars ++ ',' :: cs) := by
  cases h with
  | value before t h =>
    cases h with
    | elements after more h =>
      have hmore := elements gap (⟨before, t, after⟩ :: more) h
      simpa [Tree.elementsSource] using hmore

/-- What stands behind the opening bracket of a list makes up the list. -/
theorem exists_list (h : Completes rest (.list :: stack) .opened cs) :
    ∃ (t : Tree) (left : List Char),
      t.IsList ∧ '[' :: cs = t.source ++ left ∧ Completes rest stack .after left := by
  cases h with
  | noElement gap h => exact ⟨_, _, .empty gap, by simp [Tree.source], h⟩
  | firstElement h =>
    cases h with
    | value before t h =>
      cases h with
      | elements after more h => exact ⟨_, _, .elements ⟨before, t, after⟩ more, by simp [Tree.source], h⟩

theorem exists_object (h : Completes rest (.object :: stack) .opened cs) :
    ∃ (t : Tree) (left : List Char),
      t.IsObject ∧ '\x7b' :: cs = t.source ++ left ∧ Completes rest stack .after left := by
  cases h with
  | noMember gap h => exact ⟨_, _, .empty gap, by simp [Tree.source], h⟩
  | firstMember h =>
    obtain ⟨name, before, t, left, rfl, hafter⟩ := exists_member h
    cases hafter with
    | members after more houter => exact ⟨_, _, .members ⟨name, before, t, after⟩ more, by simp [Tree.source], houter⟩

theorem of_beginValue (hbegin : beginValue stack c = .ok (next, place)) (h : Completes rest next place cs) :
    Completes rest stack .value (c :: cs) := by
  simp only [beginValue, beq_iff_eq] at hbegin
  split at hbegin
  · next hn =>
    cases hbegin
    subst hn
    cases h with
    | word missing h => exact bare .null rfl h
  split at hbegin
  · next ht =>
    cases hbegin
    subst ht
    cases h with
    | word missing h => exact bare (.bool true) rfl h
  split at hbegin
  · next hf =>
    cases hbegin
    subst hf
    cases h with
    | word missing h => exact bare (.bool false) rfl h
  split at hbegin
  · next hminus =>
    cases hbegin
    subst hminus
    cases h with
    | minus l h =>
      exact bare (.number { l with isNegative := true }) (by simp [Tree.source, Literal.source, Literal.scale]) h
  split at hbegin
  · next hzero =>
    cases hbegin
    obtain ⟨l, left, hsource, h⟩ := exists_whole (.inl ⟨hzero, h⟩)
    exact bare (.number { l with isNegative := false }) (by simp [hsource, Tree.source, Literal.source, Literal.scale]) h
  next hzero =>
  split at hbegin
  · next hdigit =>
    cases hbegin
    obtain ⟨l, left, hsource, h⟩ := exists_whole (.inr ⟨⟨hzero, hdigit⟩, h⟩)
    exact bare (.number { l with isNegative := false }) (by simp [hsource, Tree.source, Literal.source, Literal.scale]) h
  split at hbegin
  · next hquote =>
    cases hbegin
    subst hquote
    cases h with
    | text pieces h => exact bare (.text pieces) (by simp [Tree.source, textSource]) h
  split at hbegin
  · next hbracket =>
    cases hbegin
    subst hbracket
    obtain ⟨t, left, -, hsource, h⟩ := exists_list h
    exact bare t hsource h
  split at hbegin
  · next hbrace =>
    cases hbegin
    subst hbrace
    obtain ⟨t, left, -, hsource, h⟩ := exists_object h
    exact bare t hsource h
  · cases hbegin

theorem of_beginKey (hbegin : beginKey stack c = .ok (next, place)) (h : Completes rest next place cs) :
    Completes rest stack .key (c :: cs) := by
  simp only [beginKey, beq_iff_eq] at hbegin
  split at hbegin
  · next hquote =>
    cases hbegin
    subst hquote
    exact .key .none h
  · cases hbegin

theorem of_step_value (hstep : step stack .value c = .ok (next, place)) (h : Completes rest next place cs) :
    Completes rest stack .value (c :: cs) := by
  simp only [step] at hstep
  split at hstep
  · next hblank =>
    cases hstep
    cases h with
    | value before t h => exact .value (before.cons c hblank) t h
  · exact of_beginValue hstep h

theorem of_step_key (hstep : step stack .key c = .ok (next, place)) (h : Completes rest next place cs) :
    Completes rest stack .key (c :: cs) := by
  simp only [step] at hstep
  split at hstep
  · next hblank =>
    cases hstep
    cases h with
    | key gap h => exact .key (gap.cons c hblank) h
  · exact of_beginKey hstep h

theorem of_step_colon (hstep : step stack .colon c = .ok (next, place)) (h : Completes rest next place cs) :
    Completes rest stack .colon (c :: cs) := by
  simp only [step, beq_iff_eq] at hstep
  split at hstep
  · next hblank =>
    cases hstep
    cases h with
    | colon gap h => exact .colon (gap.cons c hblank) h
  · split at hstep
    · next hcolon =>
      cases hstep
      subst hcolon
      exact .colon .none h
    · cases hstep

theorem of_step_opened (hstep : step stack .opened c = .ok (next, place)) (h : Completes rest next place cs) :
    Completes rest stack .opened (c :: cs) := by
  simp only [step, beq_iff_eq] at hstep
  split at hstep
  · next hblank =>
    cases hstep
    cases h with
    | noElement gap h => exact .noElement (gap.cons c hblank) h
    | firstElement h => exact .firstElement (of_step_value (if_pos hblank) h)
    | noMember gap h => exact .noMember (gap.cons c hblank) h
    | firstMember h => exact .firstMember (of_step_key (if_pos hblank) h)
    | unopened h => exact .unopened (of_step_value (if_pos hblank) h)
  split at hstep
  · split at hstep
    · next hbrace =>
      cases hstep
      subst hbrace
      exact .noMember .none h
    · exact .firstMember (of_beginKey hstep h)
  · split at hstep
    · next hbracket =>
      cases hstep
      subst hbracket
      exact .noElement .none h
    · exact .firstElement (of_beginValue hstep h)
  · exact .unopened (of_beginValue hstep h)

theorem of_step_after (hstack : stack ≠ []) (hstep : step stack .after c = .ok (next, place))
    (h : Completes rest next place cs) : Completes rest stack .after (c :: cs) := by
  simp only [step, beq_iff_eq] at hstep
  split at hstep
  · next hblank =>
    cases hstep
    cases h with
    | done => exact absurd rfl hstack
    | elements gap more h => exact .elements (gap.cons c hblank) more h
    | members gap more h => exact .members (gap.cons c hblank) more h
  split at hstep
  · split at hstep
    · next hcomma =>
      cases hstep
      subst hcomma
      exact comma_member .none h
    split at hstep
    · next hbrace =>
      cases hstep
      subst hbrace
      exact .members .none [] h
    · cases hstep
  · split at hstep
    · next hcomma =>
      cases hstep
      subst hcomma
      exact comma_element .none h
    split at hstep
    · next hbracket =>
      cases hstep
      subst hbracket
      exact .elements .none [] h
    · cases hstep
  · cases hstep

/-! ### Whole runs -/

/-- What the machine wants behind a character completes, with the character in front, what it wanted before it. -/
theorem of_step (hgoes : ¬ (place = .after ∧ stack = [])) {nextPlace : Place}
    (hstep : step stack place c = .ok (next, nextPlace)) (h : Completes rest next nextPlace cs) :
    Completes rest stack place (c :: cs) := by
  cases place with
  | value => exact of_step_value hstep h
  | opened => exact of_step_opened hstep h
  | after => exact of_step_after (fun hnil => hgoes ⟨rfl, hnil⟩) hstep h
  | key => exact of_step_key hstep h
  | colon => exact of_step_colon hstep h
  | text isKey => exact of_step_text hstep h
  | escape isKey => exact of_step_escape hstep h
  | hex isKey seen => exact of_step_hex hstep h
  | word missing => exact of_step_word hstep h
  | minus => exact of_step_minus hstep h
  | zero => exact of_step_zero hstep h
  | whole => exact of_step_whole hstep h
  | point => exact of_step_point hstep h
  | fraction => exact of_step_fraction hstep h
  | letter => exact of_step_letter hstep h
  | sign => exact of_step_sign hstep h
  | exponent => exact of_step_exponent hstep h

theorem blanks (gap : Blanks) (hgoes : ¬ (place = .after ∧ stack = []))
    (hstep : ∀ c, isBlank c = true → step stack place c = .ok (stack, place)) (h : Completes rest stack place cs) :
    Completes rest stack place (gap.chars ++ cs) := by
  have hblank : ∀ c ∈ gap.chars, isBlank c = true := fun _ => isBlank_of_mem_blanks
  generalize gap.chars = blanks at hblank
  induction blanks with
  | nil => exact h
  | cons c blanks ih =>
    rw [List.forall_mem_cons] at hblank
    exact of_step hgoes (hstep c hblank.1) (ih hblank.2)

theorem blanks_value (gap : Blanks) (h : Completes rest stack .value cs) :
    Completes rest stack .value (gap.chars ++ cs) :=
  blanks gap (by simp) (fun c hc => by simp [step, hc]) h

theorem blanks_after {bracket : Bracket} (gap : Blanks) (h : Completes rest (bracket :: stack) .after cs) :
    Completes rest (bracket :: stack) .after (gap.chars ++ cs) :=
  blanks gap (by simp) (fun c hc => by simp [step, hc]) h

/-- Where a number is over, nothing more of it is wanted. -/
theorem of_settle (h : Completes rest stack (settle place cs.head?) cs) : Completes rest stack place cs := by
  unfold settle at h
  dsimp only at h
  split at h
  · split at h
    · exact h
    · exact .zero plainZero h
  · split at h
    · exact h
    · exact .whole [] (by simp) plainZero h
  · split at h
    · exact h
    · exact .fraction [] (by simp) none h
  · split at h
    · exact h
    · exact .exponent [] (by simp) h
  · exact h

theorem of_run (hrun : run stack place cs = .ok rest) : Completes rest stack place cs := by
  fun_induction run stack place cs with
  | case1 stack place cs hp =>
    obtain rfl := Except.ok.inj hrun
    apply of_settle
    rw [hp.1, hp.2]
    exact .done
  | case2 => cases hrun
  | case3 stack place c cs nextStack nextPlace hstep hgoes ih => exact of_settle (of_step hgoes hstep (ih hrun))
  | case4 => cases hrun

end Completes

end Skip

/-- Only values are passed over. -/
theorem exists_source_of_skipValue {cs rest : List Char} (h : skipValue cs = .ok rest) :
    ∃ (before : Blanks) (t : Tree), cs = before.chars ++ (t.source ++ rest) := by
  have hcompletes := Skip.Completes.of_run h
  clear h
  cases hcompletes with
  | value before t hafter =>
    rw [hafter.eq_rest]
    exact ⟨before, t, rfl⟩

end PodAttach.Json

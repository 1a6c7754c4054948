import PodAttach.Json.Skip
import PodAttach.Proofs.Json.Spelling

/-!
# Values that are passed over

The machine that passes over a value stops behind it, whatever the value is and however deep its brackets are nested. It
is shown along the tree of the value: a part of it that stands where a value is wanted leads to the place behind a value,
with the same brackets open as before.
-/

namespace PodAttach.Json

theorem isBlank_of_mem_blanks {gap : Blanks} {c : Char} (h : c ∈ gap.chars) : isBlank c = true := by
  rcases gap.isBlank_of_mem c h with rfl | rfl | rfl | rfl <;> decide

def Blanks.cons (c : Char) (h : isBlank c = true) (gap : Blanks) : Blanks where
  chars := c :: gap.chars
  isBlank_of_mem := by
    rw [List.forall_mem_cons]
    refine ⟨?_, gap.isBlank_of_mem⟩
    simp only [isBlank, Bool.or_eq_true, beq_iff_eq] at h
    rcases h with ((rfl | rfl) | rfl) | rfl <;> decide

theorem endsNumber_blanks_append (gap : Blanks) {rest : List Char} (h : EndsNumber rest) :
    EndsNumber (gap.chars ++ rest) := by
  intro c hc
  cases hg : gap.chars with
  | nil => exact h c (by simpa [hg] using hc)
  | cons d more =>
    obtain rfl : d = c := by simpa [hg] using hc
    rcases gap.isBlank_of_mem d (by simp [hg]) with rfl | rfl | rfl | rfl <;> decide

theorem endsNumber_elements (more : List (Padded Tree)) (rest : List Char) :
    EndsNumber (Tree.elementsSource more ++ ']' :: rest) := by
  rcases more with _ | ⟨⟨before, value, after⟩, more⟩
  · exact endsNumber_cons (by decide) rest
  · exact endsNumber_cons (by decide) _

theorem endsNumber_members (more : List (Member Tree)) (rest : List Char) :
    EndsNumber (Tree.membersSource more ++ '\x7d' :: rest) := by
  rcases more with _ | ⟨⟨name, before, value, after⟩, more⟩
  · exact endsNumber_cons (by decide) rest
  · exact endsNumber_cons (by decide) _

/-! ### How a value starts -/

/-- What the first character of a value tells about the value. -/
structure Opens (c : Char) (t : Tree) : Prop where
  isBlank_eq : isBlank c = false
  ne_bracket : c ≠ ']'
  eq_null : c = 'n' → t = .null
  eq_text : c = '"' → ∃ pieces, t = .text pieces
  eq_number : c = '-' ∨ c.isDigit = true → ∃ l, t = .number l

theorem exists_literal_source_eq_cons (l : Literal) :
    ∃ c cs, l.source = c :: cs ∧ (l.isNegative = true ∧ c = '-' ∧ cs = l.whole ++ l.scale ∨
      l.isNegative = false ∧ c.isDigit = true ∧ c :: cs = l.whole ++ l.scale) := by
  cases hminus : l.isNegative with
  | true => exact ⟨'-', l.whole ++ l.scale, by rw [Literal.source, hminus]; rfl, .inl ⟨rfl, rfl, rfl⟩⟩
  | false =>
    cases hwhole : l.whole with
    | nil => exact absurd hwhole l.isNumeral_whole.ne_nil
    | cons c more =>
      have hdigit : c.isDigit = true := l.isNumeral_whole.isDigit_of_mem c (hwhole ▸ List.mem_cons_self)
      refine ⟨c, more ++ l.scale, ?_, .inr ⟨rfl, hdigit, rfl⟩⟩
      rw [Literal.source, hminus, hwhole]
      rfl

/-- Words for truth, lists and objects start like nothing else. -/
theorem opens_other {c : Char} (hc : c ∈ ['t', 'f', '[', '\x7b']) (t : Tree) : Opens c t := by
  have hall : ∀ d ∈ ['t', 'f', '[', '\x7b'],
      isBlank d = false ∧ d ≠ ']' ∧ d ≠ 'n' ∧ d ≠ '"' ∧ ¬ (d = '-' ∨ d.isDigit = true) := by
    simp [isBlank, Char.isDigit]
  obtain ⟨hblank, hbracket, hn, hquote, hnumber⟩ := hall c hc
  exact ⟨hblank, hbracket, (absurd · hn), (absurd · hquote), (absurd · hnumber)⟩

theorem exists_source_eq_cons (t : Tree) : ∃ c cs, t.source = c :: cs ∧ Opens c t := by
  cases t with
  | null => exact ⟨_, _, rfl, by decide, by decide, fun _ => rfl, by simp, by simp [Char.isDigit]⟩
  | bool value => cases value <;> exact ⟨_, _, rfl, opens_other (by decide) _⟩
  | number l =>
    obtain ⟨c, cs, hsource, ⟨-, rfl, -⟩ | ⟨-, hdigit, -⟩⟩ := exists_literal_source_eq_cons l
    · exact ⟨'-', cs, hsource, by decide, by decide, by simp, by simp, fun _ => ⟨l, rfl⟩⟩
    · have hne : ∀ d, d.isDigit = false → c ≠ d := fun d => ne_of_isDigit hdigit
      exact ⟨c, cs, hsource, not_isBlank_of_isDigit hdigit, hne ']' (by decide), (absurd · (hne 'n' (by decide))),
        (absurd · (hne '"' (by decide))), fun _ => ⟨l, rfl⟩⟩
  | text pieces => exact ⟨_, _, rfl, by decide, by decide, by simp, fun _ => ⟨pieces, rfl⟩, by simp [Char.isDigit]⟩
  | emptyList gap => exact ⟨_, _, rfl, opens_other (by decide) _⟩
  | list first more => exact ⟨_, _, rfl, opens_other (by decide) _⟩
  | emptyObject gap => exact ⟨_, _, rfl, opens_other (by decide) _⟩
  | object first more => exact ⟨_, _, rfl, opens_other (by decide) _⟩

namespace Skip

variable {stack : Stack} {place : Place} {c : Char} {rest : List Char}

/-! ### One character -/

/-- A character that belongs to what the machine stands in leads on. -/
theorem run_cons (nextStack : Stack) (nextPlace : Place) (hplace : settle place (some c) = place)
    (hgoes : place ≠ .after ∨ stack ≠ []) (h : step stack place c = .ok (nextStack, nextPlace)) :
    run stack place (c :: rest) = run nextStack nextPlace rest := by
  have hne : ¬ (settle place (some c) = .after ∧ stack = []) := by
    rw [hplace]
    rintro ⟨hafter, hnil⟩
    rcases hgoes with hgoes | hgoes
    · exact hgoes hafter
    · exact hgoes hnil
  rw [run, List.head?_cons, if_neg hne, hplace, h]

/-- Characters that lead from a place to itself. -/
theorem run_stay (hgoes : place ≠ .after ∨ stack ≠ []) (cs : List Char)
    (h : ∀ c ∈ cs, settle place (some c) = place ∧ step stack place c = .ok (stack, place)) (rest : List Char) :
    run stack place (cs ++ rest) = run stack place rest := by
  induction cs with
  | nil => rfl
  | cons c cs ih =>
    obtain ⟨hplace, hstep⟩ := h c List.mem_cons_self
    rw [List.cons_append, run_cons stack place hplace hgoes hstep]
    exact ih fun d hd => h d (List.mem_cons_of_mem c hd)

theorem run_blanks (gap : Blanks) (hgoes : place ≠ .after ∨ stack ≠ [])
    (h : ∀ c, isBlank c = true → settle place (some c) = place ∧ step stack place c = .ok (stack, place))
    (rest : List Char) : run stack place (gap.chars ++ rest) = run stack place rest :=
  run_stay hgoes gap.chars (fun c hc => h c (isBlank_of_mem_blanks hc)) rest

theorem run_value_blanks (gap : Blanks) (rest : List Char) :
    run stack .value (gap.chars ++ rest) = run stack .value rest :=
  run_blanks gap (.inl (by simp)) (fun c hc => ⟨rfl, by simp [step, hc]⟩) rest

theorem run_opened_blanks (gap : Blanks) (rest : List Char) :
    run stack .opened (gap.chars ++ rest) = run stack .opened rest :=
  run_blanks gap (.inl (by simp)) (fun c hc => ⟨rfl, by simp [step, hc]⟩) rest

theorem run_key_blanks (gap : Blanks) (rest : List Char) :
    run stack .key (gap.chars ++ rest) = run stack .key rest :=
  run_blanks gap (.inl (by simp)) (fun c hc => ⟨rfl, by simp [step, hc]⟩) rest

theorem run_colon_blanks (gap : Blanks) (rest : List Char) :
    run stack .colon (gap.chars ++ rest) = run stack .colon rest :=
  run_blanks gap (.inl (by simp)) (fun c hc => ⟨rfl, by simp [step, hc]⟩) rest

theorem run_after_blanks (bracket : Bracket) (gap : Blanks) (rest : List Char) :
    run (bracket :: stack) .after (gap.chars ++ rest) = run (bracket :: stack) .after rest :=
  run_blanks gap (.inr (by simp)) (fun c hc => ⟨rfl, by simp [step, hc]⟩) rest

/-! ### Words, strings and numbers -/

theorem run_word (missing : List Char) (expected : Char) (rest : List Char) :
    run stack (.word (expected :: missing)) (expected :: (missing ++ rest)) = run stack .after rest := by
  induction missing generalizing expected with
  | nil => exact run_cons stack .after rfl (.inl (by simp)) (by simp [step])
  | cons next missing ih =>
    rw [run_cons stack (.word (next :: missing)) rfl (.inl (by simp)) (by simp [step])]
    exact ih next

theorem run_piece (isKey : Bool) (piece : Piece) (rest : List Char) :
    run stack (.text isKey) (piece.source ++ rest) = run stack (.text isKey) rest := by
  cases piece with
  | plain c h =>
    have hle : ¬ c < ' ' := Char.not_lt.2 h.1
    exact run_cons stack (.text isKey) rfl (.inl (by simp)) (by simp [step, h.2.1, h.2.2, hle])
  | short letter named h =>
    have hshort := shortEscape?_of_mem h
    change run stack (.text isKey) ('\\' :: letter :: rest) = _
    rw [run_cons stack (.escape isKey) rfl (.inl (by simp)) (by simp [step])]
    exact run_cons stack (.text isKey) rfl (.inl (by simp)) (by simp [step, hshort])
  | hex a b c d =>
    have hletter : shortEscape? 'u' = none := by decide
    change run stack (.text isKey) ('\\' :: 'u' :: a.char :: b.char :: c.char :: d.char :: rest) = _
    rw [run_cons stack (.escape isKey) rfl (.inl (by simp)) (by simp [step]),
      run_cons stack (.hex isKey 0) rfl (.inl (by simp)) (by simp [step, hletter]),
      run_cons stack (.hex isKey 1) rfl (.inl (by simp)) (by simp [step, hexDigit?_char]),
      run_cons stack (.hex isKey 2) rfl (.inl (by simp)) (by simp [step, hexDigit?_char]),
      run_cons stack (.hex isKey 3) rfl (.inl (by simp)) (by simp [step, hexDigit?_char])]
    exact run_cons stack (.text isKey) rfl (.inl (by simp)) (by simp [step, hexDigit?_char])

theorem run_pieces (isKey : Bool) (pieces : List Piece) (rest : List Char) :
    run stack (.text isKey) (pieces.flatMap Piece.source ++ '"' :: rest) =
      run stack (if isKey then .colon else .after) rest := by
  induction pieces with
  | nil => exact run_cons stack (if isKey then .colon else .after) rfl (.inl (by simp)) (by simp [step])
  | cons piece pieces ih => rw [List.flatMap_cons, List.append_assoc, run_piece, ih]

theorem run_settled (h : settle place rest.head? = .after)
    (hstop : ∀ cause cs, stopAt place cause cs = stopAt .after cause cs) :
    run stack place rest = run stack .after rest := by
  have hafter : ∀ next, settle .after next = .after := fun _ => rfl
  rw [run.eq_def stack place, run.eq_def stack .after]
  cases rest with
  | nil =>
    rw [List.head?_nil] at h
    simp only [List.head?_nil, h, hafter]
  | cons c rest =>
    rw [List.head?_cons] at h
    simp only [List.head?_cons, h, hafter, hstop]

/-- A number is over in front of a text with which no number goes on. -/
theorem run_endsNumber (hplace : place = .zero ∨ place = .whole ∨ place = .fraction ∨ place = .exponent)
    (hrest : EndsNumber rest) :
    run stack place rest = run stack .after rest := by
  refine run_settled ?_ ?_
  · cases rest with
    | nil => rcases hplace with rfl | rfl | rfl | rfl <;> rfl
    | cons c rest =>
      obtain ⟨hdigit, hpoint, hsmall, hlarge⟩ := hrest c rfl
      rcases hplace with rfl | rfl | rfl | rfl <;> simp [settle, hdigit, hpoint, hsmall, hlarge]
  · intro cause cs
    rcases hplace with rfl | rfl | rfl | rfl <;> rfl

theorem run_digits (hplace : place = .whole ∨ place = .fraction ∨ place = .exponent) (ds : List Char)
    (hds : ∀ c ∈ ds, c.isDigit = true) (rest : List Char) : run stack place (ds ++ rest) = run stack place rest := by
  refine run_stay (.inl ?_) ds (fun c hc => ?_) rest
  · rcases hplace with rfl | rfl | rfl <;> simp
  · have hdigit := hds c hc
    rcases hplace with rfl | rfl | rfl <;> simp [settle, step, hdigit]

/-- Digits behind a point, a letter or a sign: the first of them leads to the place where all others stay. -/
theorem run_digits_first {inner : Place} (hplace : settle place = fun _ => place) (hafter : place ≠ .after)
    (hinner : inner = .whole ∨ inner = .fraction ∨ inner = .exponent)
    (hstep : ∀ c, c.isDigit = true → step stack place c = .ok (stack, inner)) (digits : Digits) (rest : List Char) :
    run stack place (digits.chars ++ rest) = run stack inner rest := by
  cases hd : digits.chars with
  | nil => exact absurd hd digits.ne_nil
  | cons c more =>
    have hdigit : ∀ d ∈ c :: more, d.isDigit = true := hd ▸ digits.isDigit_of_mem
    rw [List.cons_append, run_cons _ _ (congrFun hplace _) (.inl hafter) (hstep c (hdigit c List.mem_cons_self))]
    exact run_digits hinner more (fun d hmem => hdigit d (List.mem_cons_of_mem c hmem)) rest

theorem run_exponent (hplace : place = .zero ∨ place = .whole ∨ place = .fraction) (e : Exponent) (rest : List Char) :
    run stack place (e.source ++ rest) = run stack .exponent rest := by
  obtain ⟨letter, hletter, sign, hsign, digits⟩ := e
  have hstart : ∀ cs, run stack place (letter :: cs) = run stack .letter cs := by
    intro cs
    simp only [List.mem_cons, List.not_mem_nil, or_false] at hletter
    rcases hletter with rfl | rfl <;> rcases hplace with rfl | rfl | rfl <;>
      exact run_cons stack .letter rfl (.inl (by simp)) rfl
  have hdigits : run stack .letter (digits.chars ++ rest) = run stack .exponent rest := by
    refine run_digits_first rfl (by simp) (by simp) (fun c hc => ?_) digits rest
    have hplus : c ≠ '+' := ne_of_isDigit hc (by decide)
    have hminus : c ≠ '-' := ne_of_isDigit hc (by decide)
    simp [step, hplus, hminus, hc]
  have hsigned : run stack .sign (digits.chars ++ rest) = run stack .exponent rest :=
    run_digits_first rfl (by simp) (by simp) (fun c hc => by simp [step, hc]) digits rest
  change run stack place (letter :: (sign ++ digits.chars ++ rest)) = _
  rw [hstart, List.append_assoc]
  simp only [List.mem_cons, List.not_mem_nil, or_false] at hsign
  rcases hsign with rfl | rfl | rfl
  · exact hdigits
  · exact (run_cons stack .sign rfl (.inl (by simp)) rfl).trans hsigned
  · exact (run_cons stack .sign rfl (.inl (by simp)) rfl).trans hsigned

theorem run_scale (hplace : place = .zero ∨ place = .whole) (l : Literal) (hrest : EndsNumber rest) :
    run stack place (l.scale ++ rest) = run stack .after rest := by
  have hexponent : ∀ {inner}, inner = .zero ∨ inner = .whole ∨ inner = .fraction →
      run stack inner ((l.exponent.map Exponent.source).getD [] ++ rest) = run stack .after rest := by
    intro inner hinner
    cases l.exponent with
    | none => exact run_endsNumber (by rcases hinner with h | h | h <;> simp [h]) hrest
    | some e => exact (run_exponent hinner e rest).trans (run_endsNumber (by simp) hrest)
  rw [Literal.scale, List.append_assoc]
  cases l.fraction with
  | none => exact hexponent (by rcases hplace with h | h <;> simp [h])
  | some digits =>
    have hpoint : ∀ cs, run stack place ('.' :: cs) = run stack .point cs := by
      intro cs
      rcases hplace with rfl | rfl <;> exact run_cons stack .point rfl (.inl (by simp)) rfl
    refine (hpoint _).trans (Eq.trans ?_ (hexponent (.inr (.inr rfl))))
    exact run_digits_first rfl (by simp) (by simp) (fun c hc => by simp [step, hc]) digits _

theorem step_value_digit (hc : c.isDigit = true) :
    step stack .value c = .ok (stack, if c = '0' then .zero else .whole) := by
  have hn : c ≠ 'n' := ne_of_isDigit hc (by decide)
  have ht : c ≠ 't' := ne_of_isDigit hc (by decide)
  have hf : c ≠ 'f' := ne_of_isDigit hc (by decide)
  have hminus : c ≠ '-' := ne_of_isDigit hc (by decide)
  simp [step, beginValue, not_isBlank_of_isDigit hc, hn, ht, hf, hminus, hc]
  split <;> rfl

theorem step_minus_digit (hc : c.isDigit = true) :
    step stack .minus c = .ok (stack, if c = '0' then .zero else .whole) := by
  simp only [step, beq_iff_eq, hc, if_true]
  split <;> rfl

/-- The digits of a whole part, from where a number or the rest of one is wanted. -/
theorem run_whole (stack : Stack) (place : Place) {whole : List Char} (hwhole : IsNumeral whole)
    (hplace : settle place = fun _ => place) (hafter : place ≠ .after)
    (hstep : ∀ c, c.isDigit = true → step stack place c = .ok (stack, if c = '0' then .zero else .whole)) :
    ∃ inner, (inner = .zero ∨ inner = .whole) ∧ ∀ rest, run stack place (whole ++ rest) = run stack inner rest := by
  cases whole with
  | nil => exact absurd rfl hwhole.ne_nil
  | cons c more =>
    have hfirst : ∀ cs, run stack place (c :: cs) = run stack (if c = '0' then .zero else .whole) cs := fun cs =>
      run_cons _ _ (congrFun hplace _) (.inl hafter) (hstep c (hwhole.isDigit_of_mem c List.mem_cons_self))
    by_cases hzero : c = '0'
    · obtain rfl : more = [] := by simpa [hzero] using hwhole.eq_of_head? (by rw [hzero]; rfl)
      exact ⟨.zero, .inl rfl, fun rest => by simpa [hzero] using hfirst rest⟩
    · refine ⟨.whole, .inr rfl, fun rest => ?_⟩
      rw [List.cons_append, hfirst, if_neg hzero]
      exact run_digits (.inl rfl) more (fun d hd => hwhole.isDigit_of_mem d (List.mem_cons_of_mem c hd)) rest

theorem run_literal (l : Literal) (hrest : EndsNumber rest) :
    run stack .value (l.source ++ rest) = run stack .after rest := by
  cases hminus : l.isNegative with
  | false =>
    obtain ⟨inner, hinner, hrun⟩ :=
      run_whole stack .value l.isNumeral_whole rfl (by simp) fun c => step_value_digit
    rw [Literal.source, hminus]
    change run stack .value (l.whole ++ l.scale ++ rest) = _
    rw [List.append_assoc, hrun, run_scale hinner l hrest]
  | true =>
    obtain ⟨inner, hinner, hrun⟩ :=
      run_whole stack .minus l.isNumeral_whole rfl (by simp) fun c => step_minus_digit
    rw [Literal.source, hminus]
    change run stack .value ('-' :: (l.whole ++ l.scale ++ rest)) = _
    rw [run_cons stack .minus rfl (.inl (by simp)) rfl, List.append_assoc, hrun, run_scale hinner l hrest]

/-! ### Lists, objects and whole values -/

/-- Behind the opening bracket of a list, a value that starts there is a value like any other. -/
theorem run_opened_list (hblank : isBlank c = false) (hbracket : c ≠ ']') :
    run (.list :: stack) .opened (c :: rest) = run (.list :: stack) .value (c :: rest) := by
  have hstep : step (.list :: stack) (settle .opened (some c)) c = step (.list :: stack) (settle .value (some c)) c := by
    simp [settle, step, hblank, hbracket]
  have hne : ∀ place, ¬ (place = Place.after ∧ Bracket.list :: stack = []) := by simp
  rw [run.eq_def _ .opened, run.eq_def _ .value, if_neg (hne _), if_neg (hne _)]
  simp only [hstep]
  rfl

theorem run_opened_source (t : Tree) (rest : List Char) :
    run (.list :: stack) .opened (t.source ++ rest) = run (.list :: stack) .value (t.source ++ rest) := by
  obtain ⟨c, cs, hsource, hopens⟩ := exists_source_eq_cons t
  rw [hsource]
  exact run_opened_list hopens.isBlank_eq hopens.ne_bracket

theorem run_name (hplace : place = .opened ∨ place = .key) (name : Padded (List Piece)) (rest : List Char) :
    run (.object :: stack) place (nameSource name ++ rest) = run (.object :: stack) .value rest := by
  have hquote : ∀ cs, run (.object :: stack) place (name.before.chars ++ '"' :: cs) =
      run (.object :: stack) (.text true) cs := by
    intro cs
    rcases hplace with rfl | rfl
    · rw [run_opened_blanks]
      exact run_cons (.object :: stack) (.text true) rfl (.inl (by simp)) rfl
    · rw [run_key_blanks]
      exact run_cons (.object :: stack) (.text true) rfl (.inl (by simp)) rfl
  have hcolon : ∀ cs, run (.object :: stack) .colon (name.after.chars ++ ':' :: cs) = run (.object :: stack) .value cs := by
    intro cs
    rw [run_colon_blanks]
    exact run_cons (.object :: stack) .value rfl (.inl (by simp)) rfl
  simp only [nameSource, textSource, List.append_assoc, List.cons_append, List.nil_append]
  rw [hquote, run_pieces]
  exact hcolon rest

mutual

/-- A value leads from where one is wanted to the place behind one, whatever is open around it. -/
theorem run_source : ∀ (t : Tree) (stack : Stack) {rest : List Char}, EndsNumber rest →
    run stack .value (t.source ++ rest) = run stack .after rest
  | .null, stack, rest, _ => by
    refine (run_cons stack (.word ['u', 'l', 'l']) rfl (.inl (by simp)) rfl).trans ?_
    exact run_word ['l', 'l'] 'u' rest
  | .bool true, stack, rest, _ => by
    refine (run_cons stack (.word ['r', 'u', 'e']) rfl (.inl (by simp)) rfl).trans ?_
    exact run_word ['u', 'e'] 'r' rest
  | .bool false, stack, rest, _ => by
    refine (run_cons stack (.word ['a', 'l', 's', 'e']) rfl (.inl (by simp)) rfl).trans ?_
    exact run_word ['l', 's', 'e'] 'a' rest
  | .number l, stack, rest, hrest => run_literal l hrest
  | .text pieces, stack, rest, _ => by
    simp only [Tree.source, textSource, List.cons_append, List.append_assoc, List.nil_append]
    rw [run_cons stack (.text false) rfl (.inl (by simp)) rfl]
    exact run_pieces false pieces rest
  | .emptyList gap, stack, rest, _ => by
    simp only [Tree.source, List.cons_append, List.append_assoc, List.nil_append]
    rw [run_cons (.list :: stack) .opened rfl (.inl (by simp)) rfl, run_opened_blanks]
    exact run_cons stack .after rfl (.inl (by simp)) rfl
  | .list ⟨before, value, after⟩ more, stack, rest, _ => by
    have hvalue := run_source value (.list :: stack) (endsNumber_blanks_append after (endsNumber_elements more rest))
    simp only [Tree.source, List.cons_append, List.append_assoc, List.nil_append]
    rw [run_cons (.list :: stack) .opened rfl (.inl (by simp)) rfl, run_opened_blanks, run_opened_source, hvalue,
      run_after_blanks]
    exact run_elements more stack rest
  | .emptyObject gap, stack, rest, _ => by
    simp only [Tree.source, List.cons_append, List.append_assoc, List.nil_append]
    rw [run_cons (.object :: stack) .opened rfl (.inl (by simp)) rfl, run_opened_blanks]
    exact run_cons stack .after rfl (.inl (by simp)) rfl
  | .object ⟨name, before, value, after⟩ more, stack, rest, _ => by
    have hvalue := run_source value (.object :: stack) (endsNumber_blanks_append after (endsNumber_members more rest))
    simp only [Tree.source, List.cons_append, List.append_assoc, List.nil_append]
    rw [run_cons (.object :: stack) .opened rfl (.inl (by simp)) rfl, run_name (.inl rfl), run_value_blanks,
      hvalue, run_after_blanks]
    exact run_members more stack rest

/-- What follows the first element of a list leads behind the list. -/
theorem run_elements : ∀ (more : List (Padded Tree)) (stack : Stack) (rest : List Char),
    run (.list :: stack) .after (Tree.elementsSource more ++ ']' :: rest) = run stack .after rest
  | [], stack, rest => run_cons stack .after rfl (.inr (by simp)) rfl
  | ⟨before, value, after⟩ :: more, stack, rest => by
    have hvalue := run_source value (.list :: stack) (endsNumber_blanks_append after (endsNumber_elements more rest))
    simp only [Tree.elementsSource, List.cons_append, List.append_assoc]
    rw [run_cons (.list :: stack) .value rfl (.inr (by simp)) rfl, run_value_blanks, hvalue, run_after_blanks]
    exact run_elements more stack rest

theorem run_members : ∀ (more : List (Member Tree)) (stack : Stack) (rest : List Char),
    run (.object :: stack) .after (Tree.membersSource more ++ '\x7d' :: rest) = run stack .after rest
  | [], stack, rest => run_cons stack .after rfl (.inr (by simp)) rfl
  | ⟨name, before, value, after⟩ :: more, stack, rest => by
    have hvalue := run_source value (.object :: stack) (endsNumber_blanks_append after (endsNumber_members more rest))
    simp only [Tree.membersSource, List.cons_append, List.append_assoc]
    rw [run_cons (.object :: stack) .key rfl (.inr (by simp)) rfl, run_name (.inr rfl), run_value_blanks,
      hvalue, run_after_blanks]
    exact run_members more stack rest

end

end Skip

/-- A value is passed over, with the blanks in front of it, up to whatever follows it. -/
theorem skipValue_source (before : Blanks) (t : Tree) {rest : List Char} (hrest : EndsNumber rest) :
    skipValue (before.chars ++ (t.source ++ rest)) = .ok rest := by
  rw [skipValue, Skip.run_value_blanks, Skip.run_source t [] hrest, Skip.run.eq_def, if_pos ⟨rfl, rfl⟩]

end PodAttach.Json

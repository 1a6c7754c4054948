import PodAttach.Json.Members
import PodAttach.Proofs.Json.Values

/-!
# Between members and elements

What a text looks like where a colon, a closing bracket, a further member or a further element can be read. Blanks may
stand in front of each of these.
-/

namespace PodAttach.Json

variable {cs left rest : List Char}

theorem exists_blanks_of_skipBlanks (h : skipBlanks cs = left) : ∃ before : Blanks, cs = before.chars ++ left := by
  subst h
  induction cs with
  | nil => exact ⟨.none, rfl⟩
  | cons c cs ih =>
    by_cases hblank : isBlank c = true
    · obtain ⟨before, hbefore⟩ := ih
      refine ⟨before.cons c hblank, ?_⟩
      rw [skipBlanks, List.dropWhile_cons, if_pos hblank]
      exact congrArg (c :: ·) hbefore
    · refine ⟨.none, ?_⟩
      rw [skipBlanks_cons (by simpa using hblank)]
      rfl

theorem readColon_eq_ok_iff : readColon cs = .ok rest ↔ ∃ gap : Blanks, cs = gap.chars ++ ':' :: rest := by
  constructor
  · intro h
    unfold readColon at h
    split at h
    · cases h
    next heq =>
    split at h
    · next hcolon =>
      obtain rfl := Except.ok.inj h
      rw [beq_iff_eq.1 hcolon] at heq
      exact exists_blanks_of_skipBlanks heq
    · cases h
  · rintro ⟨gap, rfl⟩
    rw [readColon, skipBlanks_blanks_cons gap (by decide)]
    rfl

theorem closeList_eq_ok_iff : closeList cs = .ok rest ↔ ∃ gap : Blanks, cs = gap.chars ++ ']' :: rest := by
  constructor
  · intro h
    unfold closeList at h
    split at h
    · cases h
    next heq =>
    split at h
    · next hbracket =>
      obtain rfl := Except.ok.inj h
      rw [beq_iff_eq.1 hbracket] at heq
      exact exists_blanks_of_skipBlanks heq
    · split at h <;> cases h
  · rintro ⟨gap, rfl⟩
    rw [closeList, skipBlanks_blanks_cons gap (by decide)]
    rfl

/-! ### The next member, the next element -/

/-- A text where the next member can be read, or the bracket behind the last one. -/
inductive MemberAt : (isFirst : Bool) → List Char → Next → Prop where
  | closing (isFirst : Bool) (gap : Blanks) (rest : List Char) :
      MemberAt isFirst (gap.chars ++ '\x7d' :: rest) (.closing ('\x7d' :: rest))
  | first (gap : Blanks) (rest : List Char) : MemberAt true (gap.chars ++ '"' :: rest) (.item rest)
  | later (gap before : Blanks) (rest : List Char) :
      MemberAt false (gap.chars ++ ',' :: (before.chars ++ '"' :: rest)) (.item rest)

theorem nextMember_eq_ok_iff {isFirst : Bool} {next : Next} :
    nextMember isFirst cs = .ok next ↔ MemberAt isFirst cs next := by
  constructor
  · intro h
    unfold nextMember at h
    split at h
    · cases h
    next c more heq =>
    obtain ⟨gap, rfl⟩ := exists_blanks_of_skipBlanks heq
    split at h
    · next hbracket =>
      obtain rfl := Except.ok.inj h
      obtain rfl := beq_iff_eq.1 hbracket
      exact .closing isFirst gap more
    split at h
    · next hfirst =>
      subst hfirst
      split at h
      · next hquote =>
        obtain rfl := Except.ok.inj h
        obtain rfl := beq_iff_eq.1 hquote
        exact .first gap more
      · cases h
    next hfirst =>
    obtain rfl : isFirst = false := by simpa using hfirst
    split at h
    · next hcomma =>
      obtain rfl := beq_iff_eq.1 hcomma
      split at h
      · cases h
      next d behind hbehind =>
      obtain ⟨before, rfl⟩ := exists_blanks_of_skipBlanks hbehind
      split at h
      · next hquote =>
        obtain rfl := Except.ok.inj h
        obtain rfl := beq_iff_eq.1 hquote
        exact .later gap before behind
      · split at h <;> cases h
    · cases h
  · rintro (⟨isFirst, gap, rest⟩ | ⟨gap, rest⟩ | ⟨gap, before, rest⟩)
    · simp [nextMember, skipBlanks_blanks_cons gap (c := '\x7d') (by decide)]
    · simp [nextMember, skipBlanks_blanks_cons gap (c := '"') (by decide)]
    · simp [nextMember, skipBlanks_blanks_cons gap (c := ',') (by decide),
        skipBlanks_blanks_cons before (c := '"') (by decide)]

/-- A text where the next element can be read, or the bracket behind the last one. -/
inductive ElementAt : (isFirst : Bool) → List Char → Next → Prop where
  | closing (isFirst : Bool) (gap : Blanks) (rest : List Char) :
      ElementAt isFirst (gap.chars ++ ']' :: rest) (.closing (']' :: rest))
  | first (gap : Blanks) (c : Char) (rest : List Char) (hblank : isBlank c = false) (hbracket : c ≠ ']') :
      ElementAt true (gap.chars ++ c :: rest) (.item (c :: rest))
  | later (gap before : Blanks) (c : Char) (rest : List Char) (hblank : isBlank c = false) (hbracket : c ≠ ']') :
      ElementAt false (gap.chars ++ ',' :: (before.chars ++ c :: rest)) (.item (c :: rest))

theorem isBlank_of_skipBlanks {c : Char} (h : skipBlanks cs = c :: rest) : isBlank c = false := by
  have hnot := List.head?_dropWhile_not isBlank cs
  rw [← skipBlanks, h] at hnot
  exact hnot

theorem nextElement_eq_ok_iff {isFirst : Bool} {next : Next} :
    nextElement isFirst cs = .ok next ↔ ElementAt isFirst cs next := by
  constructor
  · intro h
    unfold nextElement at h
    split at h
    · cases h
    next c more heq =>
    have hblank := isBlank_of_skipBlanks heq
    obtain ⟨gap, rfl⟩ := exists_blanks_of_skipBlanks heq
    split at h
    · next hbracket =>
      obtain rfl := Except.ok.inj h
      obtain rfl := beq_iff_eq.1 hbracket
      exact .closing isFirst gap more
    next hbracket =>
    split at h
    · next hfirst =>
      subst hfirst
      obtain rfl := Except.ok.inj h
      exact .first gap c more hblank (by simpa using hbracket)
    next hfirst =>
    obtain rfl : isFirst = false := by simpa using hfirst
    split at h
    · next hcomma =>
      obtain rfl := beq_iff_eq.1 hcomma
      split at h
      · cases h
      next d behind hbehind =>
      have hblank := isBlank_of_skipBlanks hbehind
      obtain ⟨before, rfl⟩ := exists_blanks_of_skipBlanks hbehind
      split at h
      · cases h
      · next hopen =>
        obtain rfl := Except.ok.inj h
        exact .later gap before d behind hblank (by simpa using hopen)
    · cases h
  · rintro (⟨isFirst, gap, rest⟩ | ⟨gap, c, rest, hblank, hbracket⟩ | ⟨gap, before, c, rest, hblank, hbracket⟩)
    · simp [nextElement, skipBlanks_blanks_cons gap (c := ']') (by decide)]
    · simp [nextElement, skipBlanks_blanks_cons gap hblank, hbracket]
    · simp [nextElement, skipBlanks_blanks_cons gap (c := ',') (by decide), skipBlanks_blanks_cons before hblank,
        hbracket]

end PodAttach.Json

import PodAttach.Proofs.Json.Separators

/-!
# Where readers stop

A reader that stopped in front of a character stops there whatever is put behind the text: it has not looked further. So
what was read of a text is read of every longer one. Only at the end of a text may a reader have stopped for want of
more, as it does behind the digits of a number.
-/

namespace PodAttach.Json

open Text

/-- What stands behind a text stays behind all that is left of it. -/
structure Reader.Stays {α : Type} (reader : Reader α) : Prop where
  /-- There is no value in blanks. -/
  starts : ∀ {cs value rest}, reader cs = .ok (value, rest) → skipBlanks cs ≠ []
  append : ∀ {cs value rest}, reader cs = .ok (value, rest) → rest ≠ [] → ∀ more,
    reader (cs ++ more) = .ok (value, rest ++ more)

variable {cs rest : List Char}

theorem skipBlanks_append (h : skipBlanks cs ≠ []) (more : List Char) :
    skipBlanks (cs ++ more) = skipBlanks cs ++ more := by
  have hne : ¬ (cs.dropWhile isBlank).isEmpty = true := fun hempty => h (List.isEmpty_iff.1 hempty)
  rw [skipBlanks, List.dropWhile_append, if_neg hne]
  rfl

theorem skipBlanks_append_of_cons {c : Char} (h : skipBlanks cs = c :: rest) (more : List Char) :
    skipBlanks (cs ++ more) = c :: (rest ++ more) := by
  rw [skipBlanks_append (by simp [h]), h]
  rfl

/-! ### Strings -/

theorem length_of_mapM {α β : Type} {f : α → Option β} {xs : List α} {ys : List β} (h : xs.mapM f = some ys) :
    ys.length = xs.length := by
  induction xs generalizing ys with
  | nil =>
    obtain rfl : [] = ys := by simpa using h
    rfl
  | cons x xs ih =>
    obtain ⟨y, -, zs, hzs, rfl⟩ : ∃ y, f x = some y ∧ ∃ zs, xs.mapM f = some zs ∧ y :: zs = ys := by
      simpa [List.mapM_cons, Option.bind_eq_some_iff] using h
    rw [List.length_cons, List.length_cons, ih hzs]

theorem length_of_hexFour {n : Nat} (h : hexFour cs = .ok n) : 4 ≤ cs.length := by
  unfold hexFour at h
  split at h
  · next hdigits =>
    have hlength := length_of_mapM hdigits
    simp only [List.length_cons, List.length_nil, List.length_take] at hlength
    omega
  · split at h <;> simp [Stop.atEnd] at h

theorem hexFour_append {n : Nat} (h : hexFour cs = .ok n) (more : List Char) : hexFour (cs ++ more) = .ok n := by
  have htake : (cs ++ more).take 4 = cs.take 4 := List.take_append_of_le_length (length_of_hexFour h)
  unfold hexFour at h ⊢
  rw [htake]
  split at h
  · exact h
  · split at h <;> simp [Stop.atEnd] at h

theorem hexEscape_append {found : Char × Nat} (h : hexEscape cs = .ok found) (more : List Char) :
    hexEscape (cs ++ more) = .ok found := by
  unfold hexEscape at h ⊢
  cases hn : hexFour cs with
  | error stop => simp [hn, bind, Except.bind] at h
  | ok n =>
    rw [hexFour_append hn more, List.drop_append_of_le_length (length_of_hexFour hn)]
    simp only [hn, bind, Except.bind] at h ⊢
    split
    · next htrailing => simp [htrailing, Stop.before] at h
    split
    · next htrailing hleading => simpa [htrailing, hleading] using h
    next htrailing hleading =>
    rw [if_neg htrailing, if_neg hleading] at h
    split at h
    · simp [Stop.atEnd] at h
    · next c rest hdrop =>
      simp only [hdrop, List.cons_append]
      split at h
      · simp [Stop.within] at h
      next hback =>
      rw [if_neg hback]
      split at h
      · simp [Stop.atEnd] at h
      next u digits =>
      simp only [List.cons_append]
      split at h
      · simp [Stop.within] at h
      next hu =>
      rw [if_neg hu]
      cases hm : hexFour digits with
      | error stop => simp [hm] at h
      | ok m =>
        simp only [hm, hexFour_append hm more] at h ⊢
        split
        · next hlow => simpa [hlow] using h
        · next hlow => simp [hlow, Stop.before] at h

theorem escape_append {found : Char × Nat} (h : escape cs = .ok found) (more : List Char) :
    escape (cs ++ more) = .ok found := by
  cases cs with
  | nil => simp [escape, Stop.atEnd] at h
  | cons c cs =>
    rw [List.cons_append]
    simp only [escape] at h ⊢
    split
    · next hshort => simpa [hshort] using h
    · next hshort =>
      simp only [hshort] at h
      split
      · next hu =>
        rw [if_pos hu] at h
        obtain ⟨named, hnamed, hfound⟩ := exists_of_map_eq_ok h
        rw [hexEscape_append hnamed, ← hfound]
        rfl
      · next hu => simp [hu, Stop.within] at h

theorem readTextFrom_stays {skip : Nat} {before text : List Char} (h : readTextFrom skip before cs = .ok (text, rest))
    (more : List Char) : readTextFrom skip before (cs ++ more) = .ok (text, rest ++ more) := by
  fun_induction readTextFrom skip before cs with
  | case1 => simp [Stop.atEnd] at h
  | case2 skip before c cs ih => exact ih h
  | case3 before c cs hc =>
    obtain ⟨rfl, rfl⟩ := Prod.mk.inj (Except.ok.inj h)
    rw [List.cons_append, readTextFrom, if_pos hc]
  | case4 before c cs hq hc named length he ih =>
    rw [List.cons_append, readTextFrom, if_neg hq, if_pos hc, escape_append he]
    exact ih h
  | case5 => simp at h
  | case6 => simp [Stop.before] at h
  | case7 before c cs hq hc hl ih =>
    rw [List.cons_append, readTextFrom, if_neg hq, if_neg hc, if_neg hl]
    exact ih h

theorem readText_stays {text : List Char} (h : readText cs = .ok (text, rest)) (more : List Char) :
    readText (cs ++ more) = .ok (text, rest ++ more) := readTextFrom_stays h more

theorem stays_readString : Reader.Stays readString where
  starts := by
    intro cs value rest h hnil
    rw [readString, hnil] at h
    exact absurd h rejectType_ne_ok
  append := by
    intro cs value rest h _ more
    unfold readString at h
    split at h
    · next heq =>
      obtain ⟨⟨text, left⟩, htext, hvalue⟩ := exists_of_map_eq_ok h
      obtain ⟨rfl, rfl⟩ := Prod.mk.inj hvalue
      rw [readString, skipBlanks_append_of_cons heq]
      change (readText (_ ++ more)).map _ = _
      rw [readText_stays htext]
      rfl
    · exact absurd h rejectType_ne_ok

/-! ### Numbers -/

theorem takeDigits_stays (value count : Nat) (h : (takeDigits value count cs).2.2 ≠ []) (more : List Char) :
    takeDigits value count (cs ++ more) =
      ((takeDigits value count cs).1, (takeDigits value count cs).2.1, (takeDigits value count cs).2.2 ++ more) := by
  fun_induction takeDigits value count cs with
  | case1 => simp at h
  | case2 value count c cs hc ih =>
    rw [List.cons_append, takeDigits, if_pos hc]
    exact ih h
  | case3 value count c cs hc => rw [List.cons_append, takeDigits, if_neg hc]

theorem readRest_of_head (n : Nat) (h : ∀ c, cs.head? = some c → c ≠ '.' ∧ c ≠ 'e' ∧ c ≠ 'E') :
    readRest false n 0 cs = .ok (.natural n, cs) := by
  cases cs with
  | nil => rfl
  | cons c cs =>
    obtain ⟨hpoint, hsmall, hlarge⟩ := h c rfl
    simp [readRest, hpoint, hsmall, hlarge]

theorem readRest_stays {negative : Bool} {significand omitted n : Nat}
    (h : readRest negative significand omitted cs = .ok (.natural n, rest)) (hrest : rest ≠ []) (more : List Char) :
    readRest negative significand omitted (cs ++ more) = .ok (.natural n, rest ++ more) := by
  obtain ⟨rfl, rfl, rfl, hends⟩ := of_readRest_natural h
  rw [readRest_of_head n hends] at h
  obtain rfl : cs = rest := (Prod.mk.inj (Except.ok.inj h)).2
  obtain ⟨c, cs, rfl⟩ := List.exists_cons_of_ne_nil hrest
  exact readRest_of_head n hends

theorem dropWhile_eq_self {p : Char → Bool} (h : cs.length - (cs.dropWhile p).length = 0) : cs.dropWhile p = cs := by
  have hle := length_dropWhile_le p cs
  exact (List.dropWhile_sublist p).eq_of_length (by omega)

/-- Where a natural number ends, all its digits have been taken. -/
theorem readNumber_stays {negative : Bool} {n : Nat} (h : readNumber negative cs = .ok (.natural n, rest))
    (hrest : rest ≠ []) (more : List Char) : readNumber negative (cs ++ more) = .ok (.natural n, rest ++ more) := by
  cases cs with
  | nil => simp [readNumber, Stop.atEnd] at h
  | cons c cs =>
    simp only [List.cons_append, readNumber] at h ⊢
    split
    · next hzero =>
      rw [if_pos hzero] at h
      cases cs with
      | nil =>
        have hleft : readRest negative 0 0 [] = .ok (.natural n, rest) := h
        obtain ⟨rfl, -, rfl, hends⟩ := of_readRest_natural hleft
        exact absurd (Prod.mk.inj (Except.ok.inj hleft)).2.symm hrest
      | cons d cs =>
        split at h
        · simp [Stop.within] at h
        · next hnext =>
          rw [List.cons_append, if_neg (by simpa using hnext)]
          exact readRest_stays h hrest more
    · next hzero =>
      rw [if_neg hzero] at h
      split at h
      · next hdigit =>
        rw [if_pos hdigit, ← List.cons_append]
        rcases htake : takeDigits 0 0 (c :: cs) with ⟨value, count, left⟩
        simp only [htake] at h
        obtain ⟨hnegative, hlength, hn, hends⟩ := of_readRest_natural h
        have hall := dropWhile_eq_self hlength
        rw [hall, Nat.sub_self] at h
        have hleft : left ≠ [] := by
          rintro rfl
          rw [hnegative, ← hn] at h
          exact hrest (Prod.mk.inj (Except.ok.inj h)).2.symm
        have hlonger : (left ++ more).dropWhile Char.isDigit = left ++ more := by
          rw [List.dropWhile_append, hall, if_neg (by simpa using hleft)]
        have hne : (takeDigits 0 0 (c :: cs)).2.2 ≠ [] := by rwa [htake]
        have hstays := takeDigits_stays 0 0 hne more
        rw [htake] at hstays
        simp only [hstays, hlonger, Nat.sub_self]
        exact readRest_stays h hrest more
      · simp [Stop.within] at h

theorem toWord_stays {negative : Bool} {word : UInt16} {digits : List Char}
    (h : toWord (readNumber negative digits) = .ok (word, rest)) (hrest : rest ≠ []) (more : List Char) :
    toWord (readNumber negative (digits ++ more)) = .ok (word, rest ++ more) := by
  obtain ⟨n, hlt, rfl, hnumber⟩ := exists_natural_of_toWord h
  rw [readNumber_stays hnumber hrest, toWord_natural hlt]

theorem stays_readUInt16 : Reader.Stays readUInt16 where
  starts := by
    intro cs value rest h hnil
    rw [readUInt16, hnil] at h
    exact absurd h rejectType_ne_ok
  append := by
    intro cs value rest h hrest more
    unfold readUInt16 at h
    split at h
    · next heq =>
      rw [readUInt16, skipBlanks_append_of_cons heq]
      exact toWord_stays h hrest more
    · next c digits hminus heq =>
      split at h
      · next hdigit =>
        unfold readUInt16
        rw [skipBlanks_append_of_cons heq]
        split
        · next hcons => exact absurd (List.cons.inj hcons).1 (ne_of_isDigit hdigit (by decide))
        · next hcons =>
          obtain ⟨rfl, rfl⟩ := List.cons.inj hcons
          rw [if_pos hdigit]
          exact toWord_stays h hrest more
        · next hcons => simp at hcons
      · exact absurd h rejectType_ne_ok
    · exact absurd h rejectType_ne_ok

/-! ### Values that may be null -/

theorem readWord_stays {missing : List Char} (h : readWord missing cs = .ok rest) (more : List Char) :
    readWord missing (cs ++ more) = .ok (rest ++ more) := by
  fun_induction readWord missing cs with
  | case1 cs =>
    obtain rfl := Except.ok.inj h
    rw [readWord]
  | case2 => simp [Stop.atEnd] at h
  | case3 expected missing c cs hc ih =>
    rw [List.cons_append, readWord, if_pos hc]
    exact ih h
  | case4 => simp [Stop.within] at h

theorem Reader.Stays.nullable {α : Type} {reader : Reader α} (h : reader.Stays) : Reader.Stays (readNullable reader) where
  starts := by
    intro cs value rest hread hnil
    rw [readNullable, hnil] at hread
    obtain ⟨⟨inner, left⟩, hinner, -⟩ := exists_of_map_eq_ok hread
    exact h.starts hinner hnil
  append := by
    intro cs value rest hread hrest more
    unfold readNullable at hread
    split at hread
    · next heq =>
      obtain ⟨left, hword, hvalue⟩ := exists_of_map_eq_ok hread
      obtain ⟨rfl, rfl⟩ := Prod.mk.inj hvalue
      rw [readNullable, skipBlanks_append_of_cons heq]
      change (readWord ['u', 'l', 'l'] (_ ++ more)).map _ = _
      rw [readWord_stays hword]
      rfl
    · next hnull =>
      obtain ⟨⟨inner, left⟩, hinner, hvalue⟩ := exists_of_map_eq_ok hread
      obtain ⟨rfl, rfl⟩ := Prod.mk.inj hvalue
      unfold readNullable
      split
      · next heq =>
        obtain ⟨c, tail, hcons⟩ := List.exists_cons_of_ne_nil (h.starts hinner)
        rw [skipBlanks_append_of_cons hcons] at heq
        exact absurd (hcons.trans (by rw [(List.cons.inj heq).1])) (hnull tail)
      · rw [h.append hinner hrest]
        rfl

/-! ### Values that nobody asked for -/

namespace Skip

theorem run_stays {stack : Stack} {place : Place} (h : run stack place cs = .ok rest) (hrest : rest ≠ [])
    (more : List Char) : run stack place (cs ++ more) = .ok (rest ++ more) := by
  fun_induction run stack place cs with
  | case1 cs stack place hsettled =>
    obtain rfl := Except.ok.inj h
    obtain ⟨c, cs, rfl⟩ := List.exists_cons_of_ne_nil hrest
    rw [List.cons_append, run, if_pos (by exact hsettled)]
  | case2 => simp [Stop.atEnd] at h
  | case3 stack place c cs nextStack nextPlace hstep hgoes ih =>
    rw [List.cons_append, run, if_neg (by exact hgoes)]
    simp only [hstep]
    exact ih h
  | case4 => simp at h

end Skip

theorem skipValue_stays (h : skipValue cs = .ok rest) (hrest : rest ≠ []) (more : List Char) :
    skipValue (cs ++ more) = .ok (rest ++ more) := Skip.run_stays h hrest more

/-! ### Between members and elements -/

theorem readColon_stays (h : readColon cs = .ok rest) (more : List Char) :
    readColon (cs ++ more) = .ok (rest ++ more) := by
  obtain ⟨gap, rfl⟩ := readColon_eq_ok_iff.1 h
  exact readColon_eq_ok_iff.2 ⟨gap, by simp⟩

theorem readMember_stays {α : Type} {reader : Reader α} (hreader : reader.Stays) {value : α}
    (h : readMember reader cs = .ok (value, rest)) (hrest : rest ≠ []) (more : List Char) :
    readMember reader (cs ++ more) = .ok (value, rest ++ more) := by
  obtain ⟨left, hcolon, hvalue⟩ := exists_of_bind_eq_ok h
  unfold readMember
  rw [readColon_stays hcolon]
  exact hreader.append hvalue hrest more

/-- The same place in a longer text. -/
def Next.before (next : Next) (more : List Char) : Next :=
  match next with
  | .closing rest => .closing (rest ++ more)
  | .item rest => .item (rest ++ more)

theorem nextMember_stays {isFirst : Bool} {next : Next} (h : nextMember isFirst cs = .ok next) (more : List Char) :
    nextMember isFirst (cs ++ more) = .ok (next.before more) := by
  rw [nextMember_eq_ok_iff] at h ⊢
  cases h with
  | closing _ gap rest => simpa [Next.before] using MemberAt.closing isFirst gap (rest ++ more)
  | first gap rest => simpa [Next.before] using MemberAt.first gap (rest ++ more)
  | later gap before rest => simpa [Next.before] using MemberAt.later gap before (rest ++ more)

theorem nextElement_stays {isFirst : Bool} {next : Next} (h : nextElement isFirst cs = .ok next) (more : List Char) :
    nextElement isFirst (cs ++ more) = .ok (next.before more) := by
  rw [nextElement_eq_ok_iff] at h ⊢
  cases h with
  | closing _ gap rest => simpa [Next.before] using ElementAt.closing isFirst gap (rest ++ more)
  | first gap c rest hblank hbracket => simpa [Next.before] using ElementAt.first gap c (rest ++ more) hblank hbracket
  | later gap before c rest hblank hbracket =>
    simpa [Next.before] using ElementAt.later gap before c (rest ++ more) hblank hbracket

theorem closeList_stays (h : closeList cs = .ok rest) (more : List Char) :
    closeList (cs ++ more) = .ok (rest ++ more) := by
  obtain ⟨gap, rfl⟩ := closeList_eq_ok_iff.1 h
  exact closeList_eq_ok_iff.2 ⟨gap, by simp⟩

end PodAttach.Json

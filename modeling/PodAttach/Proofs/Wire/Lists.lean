import PodAttach.Proofs.Json.Accepting
import PodAttach.Proofs.Session.Endings
import PodAttach.Proofs.Session.Showing
import PodAttach.Proofs.Wire.Unused

/-!
# Frames that are no objects

A frame is read if it is an object or a list, and no other text is: whatever the readers of an envelope accept is a value
of the grammar. A list is read for its first four elements by position, and has no more than these.
-/

namespace PodAttach.Wire

open Json

namespace Envelope

variable {cs rest : List Char}

/-! ### What is read is an object or a list -/

section

open Skip

variable {isFirst : Bool} {stack : Stack} {seen next : Seen} {envelope : Envelope}

theorem completes_of_readMember {α : Type} {reader : Reader α} {value : α} {left : List Char}
    (hreader : reader.TakesTrees) (hmember : readMember reader cs = .ok (value, left))
    (h : Completes rest stack .after left) : Completes rest stack .colon cs := by
  obtain ⟨behind, hcolon, hvalue⟩ := exists_of_bind_eq_ok hmember
  obtain ⟨gap, rfl⟩ := readColon_eq_ok_iff.1 hcolon
  obtain ⟨before, t, rfl⟩ := hreader hvalue
  exact .colon gap (.value before t h)

theorem completes_of_readOnce {α : Type} {reader : Reader α} {name : String} {old : Option α}
    {left : List Char} (hreader : reader.TakesTrees) (put : α → Seen)
    (honce : (readOnce name old reader cs).map (fun (value, rest) => (put value, rest)) = .ok (next, left))
    (h : Completes rest stack .after left) : Completes rest stack .colon cs := by
  obtain ⟨⟨value, behind⟩, hmember, hnext⟩ := exists_of_map_eq_ok honce
  obtain ⟨-, rfl⟩ := Prod.mk.inj hnext
  unfold readOnce at hmember
  split at hmember
  · exact absurd hmember closing_ne_ok
  · exact completes_of_readMember hreader hmember h

theorem completes_of_seen_read {key : String} {left : List Char} (hread : seen.read key cs = .ok (next, left))
    (h : Completes rest stack .after left) : Completes rest stack .colon cs := by
  unfold Seen.read at hread
  split at hread
  · exact completes_of_readOnce takesTrees_readString (fun value => { seen with operation := some value }) hread h
  · exact completes_of_readOnce takesTrees_readString.nullable (fun value => { seen with data := some value }) hread h
  · exact completes_of_readOnce takesTrees_readUInt16.nullable (fun value => { seen with cols := some value }) hread h
  · exact completes_of_readOnce takesTrees_readUInt16.nullable (fun value => { seen with rows := some value }) hread h
  · obtain ⟨behind, hfound, hnext⟩ := exists_of_map_eq_ok hread
    obtain ⟨-, rfl⟩ := Prod.mk.inj hnext
    obtain ⟨value, hcolon, hskip⟩ := exists_of_bind_eq_ok hfound
    obtain ⟨gap, rfl⟩ := readColon_eq_ok_iff.1 hcolon
    obtain ⟨before, t, rfl⟩ := exists_source_of_skipValue hskip
    exact .colon gap (.value before t h)

theorem rest_of_complete {left : List Char} (h : seen.complete cs = .ok (envelope, left)) : left = cs.drop 1 := by
  unfold Seen.complete at h
  split at h
  · exact (Prod.mk.inj (Except.ok.inj h)).2.symm
  · exact absurd h closing_ne_ok

/-- Members that are read make up the rest of an object. -/
theorem completes_of_readMembers (h : readMembers isFirst seen cs = .ok (envelope, rest)) :
    Completes rest [.object] (placeOf isFirst) cs := by
  refine readMembers_induction (motive := fun isFirst _ cs => Completes rest [.object] (placeOf isFirst) cs) ?_ ?_ h
  · intro isFirst seen cs left hn hcomplete
    apply completes_of_closing_member hn
    rw [← rest_of_complete hcomplete]
    exact .done
  · intro isFirst seen cs opened key behind next left hn hk hv _ ih
    obtain ⟨pieces, rfl⟩ := exists_pieces_of_readText hk
    exact completes_of_next_member hn (.text pieces (completes_of_seen_read hv ih))

theorem completes_of_optionalElement {α : Type} {reader : Reader α} {found : Option α} {left : List Char}
    (hreader : reader.TakesTrees) (helement : readElements.optionalElement reader cs = .ok (found, left))
    (h : Completes rest (.list :: stack) .after left) : Completes rest (.list :: stack) .after cs := by
  obtain ⟨next, hnext, hfound⟩ := exists_of_bind_eq_ok helement
  cases next with
  | closing behind =>
    obtain ⟨-, rfl⟩ := Prod.mk.inj (Except.ok.inj hfound)
    exact completes_of_closing_element hnext h
  | item behind =>
    obtain ⟨⟨value, left'⟩, hvalue, hfound⟩ := exists_of_map_eq_ok hfound
    obtain ⟨-, rfl⟩ := Prod.mk.inj hfound
    obtain ⟨before, t, rfl⟩ := hreader hvalue
    exact completes_of_next_element hnext (.value before t h)

theorem completes_of_readElements (h : readElements cs = .ok (envelope, rest)) : Completes rest [.list] .opened cs := by
  obtain ⟨first, operation, afterOperation, data, afterData, cols, afterCols, rows, afterRows, hnext, hoperation, hdata,
    hcols, hrows, hclose, -⟩ := readElements_eq_ok_iff.1 h
  obtain ⟨gap, rfl⟩ := closeList_eq_ok_iff.1 hclose
  obtain ⟨before, t, rfl⟩ := takesTrees_readString hoperation
  have hend : Completes rest [.list] .after (gap.chars ++ ']' :: rest) := .elements gap [] .done
  have hthree := completes_of_optionalElement takesTrees_readUInt16.nullable hrows hend
  have htwo := completes_of_optionalElement takesTrees_readUInt16.nullable hcols hthree
  have hone := completes_of_optionalElement takesTrees_readString.nullable hdata htwo
  exact completes_of_next_element hnext (.value before t hone)

/-- A text is that of a value, with blanks around it. -/
def Spells (t : Tree) (cs : List Char) : Prop := ∃ before after : Blanks, cs = before.chars ++ (t.source ++ after.chars)

theorem head?_of_isObject {t : Tree} (hspells : Spells t cs) (h : t.IsObject) : (skipBlanks cs).head? = some '\x7b' := by
  obtain ⟨before, after, rfl⟩ := hspells
  cases h with
  | empty gap => exact congrArg List.head? (skipBlanks_blanks_cons before (by decide) _)
  | members first more => exact congrArg List.head? (skipBlanks_blanks_cons before (by decide) _)

theorem head?_of_isList {t : Tree} (hspells : Spells t cs) (h : t.IsList) : (skipBlanks cs).head? = some '[' := by
  obtain ⟨before, after, rfl⟩ := hspells
  cases h with
  | empty gap => exact congrArg List.head? (skipBlanks_blanks_cons before (by decide) _)
  | elements first more => exact congrArg List.head? (skipBlanks_blanks_cons before (by decide) _)

/-- No other text is read. -/
theorem exists_spells_of_read (h : Envelope.read cs = .ok envelope) : ∃ t, Spells t cs ∧ (t.IsObject ∨ t.IsList) := by
  obtain ⟨⟨found, rest⟩, hvalue, hfound⟩ := exists_of_bind_eq_ok h
  dsimp only at hfound
  split at hfound
  · next hblank =>
    obtain ⟨after, hafter⟩ := exists_blanks_of_skipBlanks hblank
    rw [List.append_nil] at hafter
    subst hafter
    unfold readValue at hvalue
    split at hvalue
    · next heq =>
      obtain ⟨before, rfl⟩ := exists_blanks_of_skipBlanks heq
      obtain ⟨t, left, hobject, hsource, hleft⟩ := Completes.exists_object (completes_of_readMembers hvalue)
      rw [hsource, hleft.eq_rest]
      exact ⟨t, ⟨before, after, rfl⟩, .inl hobject⟩
    · next heq =>
      obtain ⟨before, rfl⟩ := exists_blanks_of_skipBlanks heq
      obtain ⟨t, left, hlist, hsource, hleft⟩ := Completes.exists_list (completes_of_readElements hvalue)
      rw [hsource, hleft.eq_rest]
      exact ⟨t, ⟨before, after, rfl⟩, .inr hlist⟩
    · exact absurd hvalue rejectType_ne_ok
  · cases hfound

end

/-! ### What a list is read for -/

/-- The envelope that the elements of a list are by position: an operation and up to three more. -/
def listed? (elements : List Tree) : Option Envelope := do
  let operation ← required Tree.string? (elements.take 1)
  let data ← optional Tree.string? ((elements.drop 1).take 1)
  let cols ← optional Tree.word? ((elements.drop 2).take 1)
  let rows ← optional Tree.word? ((elements.drop 3).take 1)
  if elements.length ≤ 4 then some ⟨operation, data, cols, rows⟩ else none

theorem optional_eq_map_join {α : Type} (read : Tree → Option α) (values : List Tree) :
    optional read values = (gathered (Tree.orNull read) none values).map Option.join := by
  ext value
  rw [optional_eq_some_iff, Option.map_eq_some_iff]

theorem nextElement_comma (gap before : Blanks) (t : Tree) (rest : List Char) :
    nextElement false (gap.chars ++ ',' :: (before.chars ++ (t.source ++ rest))) = .ok (.item (t.source ++ rest)) := by
  obtain ⟨c, cs, hsource, hopens⟩ := exists_source_eq_cons t
  rw [hsource]
  exact nextElement_eq_ok_iff.2 (.later gap before c (cs ++ rest) hopens.isBlank_eq hopens.ne_bracket)

theorem nextElement_first (before : Blanks) (t : Tree) (rest : List Char) :
    nextElement true (before.chars ++ (t.source ++ rest)) = .ok (.item (t.source ++ rest)) := by
  obtain ⟨c, cs, hsource, hopens⟩ := exists_source_eq_cons t
  rw [hsource]
  exact nextElement_eq_ok_iff.2 (.first before c (cs ++ rest) hopens.isBlank_eq hopens.ne_bracket)

/-- An element that may be missing is the next one of those that are left, if any is. -/
theorem toOption_optionalElement {α : Type} {reader : Reader α} {read : Tree → Option α} (h : reader.Takes read)
    (gap : Blanks) (more : List (Padded Tree)) (rest : List Char) :
    ∃ after : Blanks,
      (readElements.optionalElement reader (gap.chars ++ (Tree.elementsSource more ++ ']' :: rest))).toOption =
        (gathered read none ((more.take 1).map Padded.item)).map fun value =>
          (value, after.chars ++ (Tree.elementsSource (more.drop 1) ++ ']' :: rest)) := by
  rcases more with _ | ⟨⟨before, t, after⟩, more⟩
  · refine ⟨.none, ?_⟩
    rw [readElements.optionalElement, Tree.elementsSource, List.nil_append,
      nextElement_eq_ok_iff.2 (.closing false gap rest)]
    rfl
  · refine ⟨after, ?_⟩
    have hends := endsNumber_blanks_append after (endsNumber_elements more rest)
    have htake : (reader (t.source ++ (after.chars ++ (Tree.elementsSource more ++ ']' :: rest)))).toOption =
        (read t).map fun value => (value, after.chars ++ (Tree.elementsSource more ++ ']' :: rest)) := h .none t hends
    simp only [Tree.elementsSource, List.cons_append, List.append_assoc]
    rw [readElements.optionalElement, nextElement_comma, gathered_none]
    change ((reader (t.source ++ _)).map fun found => (some found.1, found.2)).toOption = ((read t).map some).map _
    rw [toOption_map, htake, Option.map_map, Option.map_map]
    rfl

theorem toOption_closeList (gap : Blanks) (more : List (Padded Tree)) (rest : List Char) :
    (closeList (gap.chars ++ (Tree.elementsSource more ++ ']' :: rest))).toOption =
      if more = [] then some rest else none := by
  rcases more with _ | ⟨⟨before, t, after⟩, more⟩
  · rw [Tree.elementsSource, List.nil_append, closeList_eq_ok_iff.2 ⟨gap, rfl⟩, if_pos rfl]
    rfl
  · simp [closeList, Tree.elementsSource, skipBlanks_blanks_cons gap (c := ',') (by decide), Except.toOption, Stop.within]

theorem listed?_cons (first : Tree) (more : List Tree) :
    listed? (first :: more) =
      first.string?.bind fun operation =>
        (gathered (Tree.orNull Tree.string?) none (more.take 1)).bind fun data =>
          (gathered (Tree.orNull Tree.word?) none ((more.drop 1).take 1)).bind fun cols =>
            (gathered (Tree.orNull Tree.word?) none ((more.drop 2).take 1)).bind fun rows =>
              if (first :: more).length ≤ 4 then some ⟨operation, data.join, cols.join, rows.join⟩ else none := by
  simp only [listed?, optional_eq_map_join, Option.bind_eq_bind, Option.bind_map]
  rfl

theorem toOption_readElements (first : Padded Tree) (more : List (Padded Tree)) (rest : List Char) :
    (readElements ((Tree.list first more).source.drop 1 ++ rest)).toOption =
      (listed? (Tree.list first more).elements).map fun envelope => (envelope, rest) := by
  obtain ⟨before, t, after⟩ := first
  have hends := endsNumber_blanks_append after (endsNumber_elements more rest)
  obtain ⟨afterData, hdata⟩ := toOption_optionalElement takes_readString.nullable after more rest
  obtain ⟨afterCols, hcols⟩ := toOption_optionalElement takes_readUInt16.nullable afterData (more.drop 1) rest
  obtain ⟨afterRows, hrows⟩ := toOption_optionalElement takes_readUInt16.nullable afterCols (more.drop 2) rest
  have hclose := toOption_closeList afterRows (more.drop 3) rest
  have hlength : more.drop 3 = [] ↔ (t :: more.map Padded.item).length ≤ 4 := by
    rw [List.drop_eq_nil_iff, List.length_cons, List.length_map]
    omega
  rw [List.drop_drop] at hcols hrows
  have htake : (readString (t.source ++ (after.chars ++ (Tree.elementsSource more ++ ']' :: rest)))).toOption =
      t.string?.map fun value => (value, after.chars ++ (Tree.elementsSource more ++ ']' :: rest)) :=
    takes_readString .none t hends
  simp only [Tree.source, List.drop_succ_cons, List.drop_zero, List.append_assoc, List.cons_append, List.nil_append]
  rw [readElements, nextElement_first, Tree.elements, listed?_cons]
  simp only [← List.map_take, ← List.map_drop]
  change (readString (t.source ++ _) >>= _).toOption = _
  rw [toOption_bind, htake]
  cases t.string? with
  | none => rfl
  | some operation =>
    change (readElements.optionalElement _ (after.chars ++ _) >>= _).toOption = (Option.bind (gathered _ _ _) _).map _
    rw [toOption_bind, hdata]
    cases gathered (Tree.orNull Tree.string?) none ((more.take 1).map Padded.item) with
    | none => rfl
    | some data =>
      change (readElements.optionalElement _ (afterData.chars ++ _) >>= _).toOption = (Option.bind (gathered _ _ _) _).map _
      rw [toOption_bind, hcols]
      cases gathered (Tree.orNull Tree.word?) none (((more.drop 1).take 1).map Padded.item) with
      | none => rfl
      | some cols =>
        change (readElements.optionalElement _ (afterCols.chars ++ _) >>= _).toOption = (Option.bind (gathered _ _ _) _).map _
        rw [toOption_bind, hrows]
        cases gathered (Tree.orNull Tree.word?) none (((more.drop 2).take 1).map Padded.item) with
        | none => rfl
        | some rows =>
          change (closeList (afterRows.chars ++ _) >>= _).toOption = Option.map _ (if _ then _ else _)
          rw [toOption_bind, hclose]
          simp only [hlength]
          split <;> rfl

theorem toOption_read_list {t : Tree} (hlist : t.IsList) (before after : Blanks) :
    (Envelope.read (before.chars ++ (t.source ++ after.chars))).toOption = listed? t.elements := by
  apply toOption_read
  cases hlist with
  | empty gap =>
    have hnone : (readElements (gap.chars ++ ']' :: after.chars)).toOption = none := by
      apply toOption_eq_none
      intro found hfound
      obtain ⟨next, hnext, hclosing⟩ := exists_of_bind_eq_ok hfound
      rw [nextElement_eq_ok_iff.2 (.closing true gap after.chars)] at hnext
      obtain rfl := Except.ok.inj hnext
      exact closing_ne_ok hclosing
    simp only [Tree.source, List.cons_append, List.append_assoc, List.nil_append]
    rw [readValue, skipBlanks_blanks_cons before (by decide)]
    exact hnone
  | elements first more =>
    rw [← toOption_readElements]
    change (readValue (before.chars ++ '[' :: _)).toOption = _
    rw [readValue, skipBlanks_blanks_cons before (by decide)]
    rfl

theorem isList_of_listed? {t : Tree} {envelope : Envelope} (h : listed? t.elements = some envelope) : t.IsList := by
  cases t with
  | list first more => exact .elements first more
  | _ => cases h

theorem toMessage_eq_stdout {envelope : Envelope} {data : String} (h : envelope.toMessage = .ok (.stdout data)) :
    envelope.operation = "stdout" ∧ envelope.data = some data := by
  unfold toMessage at h
  split at h
  · split at h <;> cases h
  · next hoperation =>
    split at h
    · next found hdata =>
      obtain rfl := Message.stdout.inj (Except.ok.inj h)
      exact ⟨hoperation, hdata⟩
    · cases h
  · unfold Message.sized at h
    split at h <;> cases h
  · cases h

end Envelope

namespace Message

open Envelope

variable {frame : String}

theorem decode_of_listed {t : Tree} {envelope : Envelope} (hspells : Spells t frame.toList)
    (hlisted : listed? t.elements = some envelope) : decode frame = envelope.toMessage := by
  obtain ⟨before, after, hframe⟩ := hspells
  apply decode_of_toOption_eq_some
  rw [hframe, toOption_read_list (isList_of_listed? hlisted)]
  exact hlisted

section

variable (hobject : ∀ t, Spells t frame.toList → ¬ t.IsObject)
include hobject

/-- A text that is no object is read as a list, or it is malformed. -/
theorem listed_or_malformed :
    (∃ t envelope, Spells t frame.toList ∧ listed? t.elements = some envelope) ∨
      ∃ fault, decode frame = .error (.malformed fault) := by
  cases hread : Envelope.read frame.toList with
  | error stop => exact .inr (malformed_of_toOption_eq_none (by rw [hread]; rfl))
  | ok envelope =>
    obtain ⟨t, hspells, hkind⟩ := exists_spells_of_read hread
    have hlist : t.IsList := hkind.resolve_left (hobject t hspells)
    obtain ⟨before, after, hframe⟩ := hspells
    have hlisted := toOption_read_list hlist before after
    rw [← hframe, hread] at hlisted
    exact .inl ⟨t, envelope, ⟨before, after, hframe⟩, hlisted.symm⟩

theorem malformed_iff_of_not_object :
    (∃ fault, decode frame = .error (.malformed fault)) ↔ ∀ t, Spells t frame.toList → listed? t.elements = none := by
  constructor
  · rintro ⟨fault, hfault⟩ t hspells
    apply Option.eq_none_iff_forall_ne_some.2
    intro envelope hlisted
    exact envelope.toMessage_ne_malformed fault ((decode_of_listed hspells hlisted).symm.trans hfault)
  · intro hnone
    rcases listed_or_malformed hobject with ⟨t, envelope, hspells, hlisted⟩ | hmalformed
    · rw [hnone t hspells] at hlisted
      cases hlisted
    · exact hmalformed

theorem listed_of_stdout {data : String} (h : decode frame = .ok (.stdout data)) :
    ∃ t cols rows, Spells t frame.toList ∧ listed? t.elements = some ⟨"stdout", some data, cols, rows⟩ := by
  rcases listed_or_malformed hobject with ⟨t, ⟨operation, found, cols, rows⟩, hspells, hlisted⟩ | ⟨fault, hfault⟩
  · obtain ⟨rfl, rfl⟩ := toMessage_eq_stdout ((decode_of_listed hspells hlisted).symm.trans h)
    exact ⟨t, cols, rows, hspells, hlisted⟩
  · rw [hfault] at h
    cases h

end

/-- A frame that is no object is malformed, unless it is a list whose elements are by position what an object says by
name: then it stands for the same message. A shell session shows nothing of such a frame, unless it is open and the list
tells output. -/
theorem decode_of_not_object (frame : String) (hobject : ∀ t, Spells t frame.toList → ¬ t.IsObject) :
    ((∃ fault, decode frame = .error (.malformed fault)) ↔ ∀ t, Spells t frame.toList → listed? t.elements = none) ∧
    (∀ t envelope, Spells t frame.toList → listed? t.elements = some envelope → decode frame = envelope.toMessage) ∧
    ∀ (target : Target) (url : AttachUrl) (link : Link) (screen : Terminal.Screen) (steps : List Session.Step),
      target.mode = .shell →
        let session := (Session.new target url link screen).run steps
        let next := session.step (.link (.frame (.text frame)))
        (∀ t data cols rows, Spells t frame.toList → listed? t.elements = some ⟨"stdout", some data, cols, rows⟩ →
          session.phase = .opened → next.screen.calls = session.screen.calls ++ [.write data]) ∧
        (session.phase ≠ .opened ∨ (∀ t data cols rows, Spells t frame.toList →
            listed? t.elements ≠ some ⟨"stdout", some data, cols, rows⟩) →
          next.screen.calls = session.screen.calls) := by
  refine ⟨malformed_iff_of_not_object hobject, fun t envelope => decode_of_listed, ?_⟩
  intro target url link screen steps hmode session next
  have hstart := Session.sound_new target url link screen
  have htarget : session.target.mode = .shell := by
    rw [Session.target_run hstart steps]
    exact hmode
  have hcalls : next.screen.calls = session.screen.calls ++
      if session.phase = .opened then (Session.frameCall? .shell (.text frame)).toList else [] := by
    rw [Session.calls_step_frame (hstart.run steps), htarget]
  rw [hcalls]
  constructor
  · intro t data cols rows hspells hlisted hphase
    have hdecode : decode frame = .ok (.stdout data) := decode_of_listed hspells hlisted
    rw [if_pos hphase, Session.frameCall?, hdecode]
    rfl
  · rintro (hphase | hnone)
    · rw [if_neg hphase, List.append_nil]
    · have hcall : Session.frameCall? .shell (.text frame) = none := by
        rw [Session.frameCall?]
        split
        · next data hstdout =>
          obtain ⟨t, cols, rows, hspells, hlisted⟩ := listed_of_stdout hobject hstdout
          exact absurd hlisted (hnone t data cols rows hspells)
        · rfl
      rw [hcall]
      split <;> exact List.append_nil _

def textTree (text : String) (h : ∀ c ∈ text.toList, ' ' ≤ c ∧ c ≠ '"' ∧ c ≠ '\\') : Tree :=
  .text (plainPieces text.toList h)

def numberTree (n : Nat) : Tree := .number ⟨false, Nat.toDigits 10 n, isNumeral_toDigits n, none, none⟩

/-- A list that resizes, and a value that is neither an object nor a list. -/
theorem decode_of_not_object_resize :
    (∀ t, Spells t "[\"resize\",null, 80,24]".toList → ¬ t.IsObject) ∧
      decode "[\"resize\",null, 80,24]" = .ok (.resize 80 24) ∧
      ∃ fault, decode "null" = .error (.malformed fault) := by
  have hobject : ∀ t, Spells t "[\"resize\",null, 80,24]".toList → ¬ t.IsObject := by
    intro t hspells h
    exact absurd (head?_of_isObject hspells h) (by decide)
  have hnull : ∀ t, Spells t "null".toList → ¬ t.IsObject := by
    intro t hspells h
    exact absurd (head?_of_isObject hspells h) (by decide)
  refine ⟨hobject, ?_, ?_⟩
  · let t : Tree := .list (.bare (textTree "resize" (by simp)))
      [.bare .null, ⟨space, numberTree 80, .none⟩, .bare (numberTree 24)]
    have hspells : Spells t "[\"resize\",null, 80,24]".toList := ⟨.none, .none, by decide⟩
    exact (decode_of_not_object _ hobject).2.1 t ⟨"resize", none, some 80, some 24⟩ hspells (by decide)
  · apply (decode_of_not_object _ hnull).1.2
    intro t hspells
    apply Option.eq_none_iff_forall_ne_some.2
    intro envelope hlisted
    exact absurd (head?_of_isList hspells (isList_of_listed? hlisted)) (by decide)

/-- Output that is told by a list is shown, though the frame is no object. -/
theorem decode_stdout_list :
    (∀ t, Spells t "[\"stdout\",\"hi\"]".toList → ¬ t.IsObject) ∧
      decode "[\"stdout\",\"hi\"]" = .ok (.stdout "hi") ∧
      Session.frameCall? .shell (.text "[\"stdout\",\"hi\"]") = some (.write "hi") := by
  let t : Tree := .list (.bare (textTree "stdout" (by simp))) [.bare (textTree "hi" (by simp))]
  have hspells : Spells t "[\"stdout\",\"hi\"]".toList := ⟨.none, .none, by decide⟩
  have hlisted : listed? t.elements = some ⟨"stdout", some "hi", none, none⟩ := by decide
  have hdecode : decode "[\"stdout\",\"hi\"]" = .ok (.stdout "hi") := decode_of_listed hspells hlisted
  refine ⟨?_, hdecode, ?_⟩
  · intro t hspells h
    exact absurd (head?_of_isObject hspells h) (by decide)
  · rw [Session.frameCall?, hdecode]

end Message

end PodAttach.Wire

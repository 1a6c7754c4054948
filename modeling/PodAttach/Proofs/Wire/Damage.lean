import Mathlib.Data.List.TakeWhile
import PodAttach.Proofs.Json.Stopping
import PodAttach.Proofs.Wire.Objects
import PodAttach.Proofs.Wire.RoundTrip
import PodAttach.Terminal.Relay

/-!
# Frames that are cut short or run on

A frame that can be read is an object or a list as a whole: it can be read on with blanks behind it and with nothing
else. So no frame that can be read is a part of another one from its start, unless only blanks are missing. What is
written for a message ends with a bracket; every shorter or longer text is malformed.
-/

namespace PodAttach.Wire

open Json

namespace Envelope

variable {cs rest : List Char}

/-! ### Objects -/

theorem readOnce_stays {α : Type} {name : String} {seen : Option α} {reader : Reader α} (hreader : reader.Stays) {value : α}
    (h : readOnce name seen reader cs = .ok (value, rest)) (hrest : rest ≠ []) (more : List Char) :
    readOnce name seen reader (cs ++ more) = .ok (value, rest ++ more) := by
  unfold readOnce at h ⊢
  split at h
  · exact absurd h closing_ne_ok
  · next hseen =>
    rw [if_neg hseen]
    exact readMember_stays hreader h hrest more

theorem readOnce_map_stays {α : Type} {name : String} {old : Option α} {reader : Reader α} {next : Seen}
    (hreader : reader.Stays) (put : α → Seen)
    (h : (readOnce name old reader cs).map (fun (value, rest) => (put value, rest)) = .ok (next, rest)) (hrest : rest ≠ [])
    (more : List Char) :
    (readOnce name old reader (cs ++ more)).map (fun (value, rest) => (put value, rest)) = .ok (next, rest ++ more) := by
  obtain ⟨⟨value, left⟩, hvalue, hnext⟩ := exists_of_map_eq_ok h
  obtain ⟨rfl, rfl⟩ := Prod.mk.inj hnext
  rw [readOnce_stays hreader hvalue hrest]
  rfl

theorem Seen.read_stays {seen next : Seen} {key : String} (h : seen.read key cs = .ok (next, rest)) (hrest : rest ≠ [])
    (more : List Char) : seen.read key (cs ++ more) = .ok (next, rest ++ more) := by
  unfold Seen.read at h ⊢
  split at h
  · exact readOnce_map_stays stays_readString (fun value => { seen with operation := some value }) h hrest more
  · exact readOnce_map_stays stays_readString.nullable (fun value => { seen with data := some value }) h hrest more
  · exact readOnce_map_stays stays_readUInt16.nullable (fun value => { seen with cols := some value }) h hrest more
  · exact readOnce_map_stays stays_readUInt16.nullable (fun value => { seen with rows := some value }) h hrest more
  · obtain ⟨left, hleft, hnext⟩ := exists_of_map_eq_ok h
    obtain ⟨rfl, rfl⟩ := Prod.mk.inj hnext
    obtain ⟨value, hcolon, hskip⟩ := exists_of_bind_eq_ok hleft
    rw [readColon_stays hcolon]
    change (skipValue (value ++ more)).map _ = _
    rw [skipValue_stays hskip hrest]
    rfl

theorem Seen.complete_stays {seen : Seen} {envelope : Envelope} (h : seen.complete cs = .ok (envelope, rest))
    (hcs : cs ≠ []) (more : List Char) : seen.complete (cs ++ more) = .ok (envelope, rest ++ more) := by
  obtain ⟨c, cs, rfl⟩ := List.exists_cons_of_ne_nil hcs
  unfold Seen.complete at h ⊢
  split at h
  · obtain ⟨rfl, rfl⟩ := Prod.mk.inj (Except.ok.inj h)
    rfl
  · exact absurd h closing_ne_ok

theorem ne_nil_of_nextMember_closing {isFirst : Bool} (h : nextMember isFirst cs = .ok (.closing rest)) : rest ≠ [] := by
  cases nextMember_eq_ok_iff.1 h with
  | closing isFirst gap behind => exact List.cons_ne_nil _ behind

/-- Members are not over without the bracket behind them. -/
theorem readMembers_nil_ne_ok {isFirst : Bool} {seen : Seen} {found : Envelope × List Char} :
    readMembers isFirst seen [] ≠ .ok found := by
  rw [readMembers]
  split
  · simp
  · next hn => simp [nextMember, skipBlanks, Stop.atEnd] at hn
  · next hn => simp [nextMember, skipBlanks, Stop.atEnd] at hn

/-- What is behind the bracket that ends an object has no say in it. -/
theorem readMembers_stays {isFirst : Bool} {seen : Seen} {envelope : Envelope}
    (h : readMembers isFirst seen cs = .ok (envelope, rest)) (more : List Char) :
    readMembers isFirst seen (cs ++ more) = .ok (envelope, rest ++ more) := by
  refine readMembers_induction (motive := fun isFirst seen cs =>
    readMembers isFirst seen (cs ++ more) = .ok (envelope, rest ++ more)) ?_ ?_ h
  · intro isFirst seen cs left hn hcomplete
    rw [readMembers_closing (nextMember_stays hn more)]
    exact Seen.complete_stays hcomplete (ne_nil_of_nextMember_closing hn) more
  · intro isFirst seen cs opened key behind next left hn hk hv hmembers ih
    have hleft : left ≠ [] := by
      rintro rfl
      exact readMembers_nil_ne_ok hmembers
    rw [readMembers_item (nextMember_stays hn more) (readText_stays hk more) (Seen.read_stays hv hleft more)]
    exact ih

/-! ### Lists -/

theorem optionalElement_stays {α : Type} {reader : Reader α} (hreader : reader.Stays) {value : Option α}
    (h : readElements.optionalElement reader cs = .ok (value, rest)) (hrest : rest ≠ []) (more : List Char) :
    readElements.optionalElement reader (cs ++ more) = .ok (value, rest ++ more) := by
  unfold readElements.optionalElement at h ⊢
  obtain ⟨next, hnext, hfound⟩ := exists_of_bind_eq_ok h
  rw [nextElement_stays hnext]
  cases next with
  | closing left =>
    obtain ⟨rfl, rfl⟩ := Prod.mk.inj (Except.ok.inj hfound)
    rfl
  | item left =>
    obtain ⟨⟨element, behind⟩, helement, hvalue⟩ := exists_of_map_eq_ok hfound
    obtain ⟨rfl, rfl⟩ := Prod.mk.inj hvalue
    change (reader (left ++ more)).map _ = _
    rw [hreader.append helement hrest]
    rfl

theorem closeList_ne_nil (h : closeList cs = .ok rest) : cs ≠ [] := by
  rintro rfl
  simp [closeList, skipBlanks, Stop.atEnd] at h

theorem optionalElement_ne_nil {α : Type} {reader : Reader α} {found : Option α × List Char}
    (h : readElements.optionalElement reader cs = .ok found) : cs ≠ [] := by
  rintro rfl
  obtain ⟨next, hnext, -⟩ := exists_of_bind_eq_ok h
  simp [nextElement, skipBlanks, Stop.atEnd] at hnext

theorem readElements_stays {envelope : Envelope} (h : readElements cs = .ok (envelope, rest)) (more : List Char) :
    readElements (cs ++ more) = .ok (envelope, rest ++ more) := by
  obtain ⟨first, operation, afterOperation, data, afterData, cols, afterCols, rows, afterRows, hnext, hoperation, hdata,
    hcols, hrows, hclose, rfl⟩ := readElements_eq_ok_iff.1 h
  have hoperation' := stays_readString.append hoperation (optionalElement_ne_nil hdata) more
  have hdata' := optionalElement_stays stays_readString.nullable hdata (optionalElement_ne_nil hcols) more
  have hcols' := optionalElement_stays stays_readUInt16.nullable hcols (optionalElement_ne_nil hrows) more
  have hrows' := optionalElement_stays stays_readUInt16.nullable hrows (closeList_ne_nil hclose) more
  exact readElements_eq_ok_iff.2 ⟨_, _, _, _, _, _, _, _, _, nextElement_stays hnext more, hoperation', hdata', hcols',
    hrows', closeList_stays hclose more, rfl⟩

/-! ### Whole frames -/

theorem readValue_stays {envelope : Envelope} (h : readValue cs = .ok (envelope, rest)) (more : List Char) :
    readValue (cs ++ more) = .ok (envelope, rest ++ more) := by
  unfold readValue at h ⊢
  split at h
  · next heq =>
    rw [skipBlanks_append_of_cons heq]
    exact readMembers_stays h more
  · next heq =>
    rw [skipBlanks_append_of_cons heq]
    exact readElements_stays h more
  · exact absurd h rejectType_ne_ok

/-- Behind a frame that can be read, blanks make no difference and anything else makes it unreadable. -/
theorem read_append {envelope : Envelope} (h : Envelope.read cs = .ok envelope) (more : List Char) :
    Envelope.read (cs ++ more) = match skipBlanks more with
      | [] => .ok envelope
      | c :: rest => Stop.within .trailingCharacters (c :: rest) := by
  obtain ⟨⟨found, rest⟩, hvalue, hfound⟩ := exists_of_bind_eq_ok h
  dsimp only at hfound
  split at hfound
  · next hblank =>
    obtain rfl := Except.ok.inj hfound
    have hrest : skipBlanks (rest ++ more) = skipBlanks more :=
      List.dropWhile_append_of_pos (List.dropWhile_eq_nil_iff.1 hblank)
    unfold Envelope.read
    rw [readValue_stays hvalue]
    simp only [bind, Except.bind, hrest]
    cases skipBlanks more <;> rfl
  · simp [Stop.within] at hfound

theorem read_blanks_append {blanks : List Char} (h : ∀ c ∈ blanks, isBlank c = true) (cs : List Char) :
    Envelope.read (blanks ++ cs) = Envelope.read cs := by
  have hskip : skipBlanks (blanks ++ cs) = skipBlanks cs := List.dropWhile_append_of_pos h
  rw [Envelope.read, Envelope.read, readValue, readValue, hskip]

end Envelope

namespace Message

/-- The four characters that JSON passes over between its parts. -/
def blanks : List Char := [' ', '\n', '\t', '\r']

theorem isBlank_eq_true_iff {c : Char} : isBlank c = true ↔ c ∈ blanks := by
  simp [isBlank, blanks, or_assoc]

/-- A text that lacks an end of what is written for a message, or has more than blanks behind it. -/
inductive Damages (m : Message) : String → Prop where
  | cut {frame missing : String} (h : frame ++ missing = m.encode) (hmissing : missing ≠ "") : Damages m frame
  | extended {more : String} (c : Char) (hc : c ∈ more.toList) (hblank : c ∉ blanks) : Damages m (m.encode ++ more)

variable {m : Message} {frame : String}

theorem skipBlanks_ne_nil {more : List Char} {c : Char} (hc : c ∈ more) (hblank : c ∉ blanks) : skipBlanks more ≠ [] :=
  fun hnil => hblank (isBlank_eq_true_iff.1 (List.dropWhile_eq_nil_iff.1 hnil c hc))

theorem read_append_ne_ok {cs more : List Char} {c : Char} {envelope : Envelope} (hc : c ∈ more) (hblank : c ∉ blanks)
    (h : Envelope.read cs = .ok envelope) (other : Envelope) : Envelope.read (cs ++ more) ≠ .ok other := by
  obtain ⟨d, rest, hmore⟩ := List.exists_cons_of_ne_nil (skipBlanks_ne_nil hc hblank)
  rw [Envelope.read_append h, hmore]
  exact nofun

/-- Every part that is missing at the end holds the bracket. -/
theorem bracket_mem_of_append {missing : String} (h : frame ++ missing = m.encode) (hmissing : missing ≠ "") :
    '\x7d' ∈ missing.toList := by
  have hend : (frame.toList ++ missing.toList).getLast? = some '\x7d' := by
    rw [← String.toList_append, h, encode_eq, String.toList_ofList, List.getLast?_concat]
  rw [List.getLast?_append] at hend
  cases hlast : missing.toList.getLast? with
  | none => exact absurd (String.toList_eq_nil_iff.1 (List.getLast?_eq_none_iff.1 hlast)) hmissing
  | some c =>
    obtain rfl : c = '\x7d' := by simpa [hlast] using hend
    exact List.mem_of_getLast? hlast

theorem Damages.read_ne_ok (h : m.Damages frame) (envelope : Envelope) : Envelope.read frame.toList ≠ .ok envelope := by
  intro hread
  cases h with
  | cut h hmissing =>
    refine read_append_ne_ok (bracket_mem_of_append h hmissing) (by decide) hread m.envelope ?_
    rw [← String.toList_append, h, read_encode]
  | extended c hc hblank =>
    rw [String.toList_append] at hread
    exact read_append_ne_ok hc hblank m.read_encode envelope hread

theorem Damages.decode_eq (h : m.Damages frame) : ∃ fault, decode frame = .error (.malformed fault) :=
  malformed_of_toOption_eq_none (toOption_eq_none h.read_ne_ok)

/-- A shell that is sent a damaged frame tells nothing to its terminal. -/
theorem incoming_of_malformed {fault : Fault} (h : decode frame = .error (.malformed fault)) {relay : Terminal.Relay}
    (hmode : relay.mode = .shell) :
    relay.incoming (.text frame) = if relay.isSubscribed then .error (.malformed fault) else .ok relay := by
  have hdecode : relay.mode.decode (.text frame) = .error (.malformed fault) := by rw [hmode, Mode.decode, h]
  rw [Terminal.Relay.incoming, hdecode]
  rfl

theorem decode_between {before after : String} (hbefore : ∀ c ∈ before.toList, c ∈ blanks)
    (hafter : ∀ c ∈ after.toList, c ∈ blanks) (m : Message) : decode (before ++ m.encode ++ after) = decode m.encode := by
  have hnil : skipBlanks after.toList = [] :=
    List.dropWhile_eq_nil_iff.2 fun c hc => isBlank_eq_true_iff.2 (hafter c hc)
  rw [decode, decode, String.toList_append, String.toList_append, List.append_assoc,
    Envelope.read_blanks_append fun c hc => isBlank_eq_true_iff.2 (hbefore c hc), Envelope.read_append m.read_encode, hnil,
    m.read_encode]

/-- What is written for a message cannot be read without its end, nor with anything but blanks behind it, and no shell
shows anything of such a frame. Blanks around it make no difference. -/
theorem decode_damaged (m : Message) :
    (∀ frame, m.Damages frame → ∃ fault, decode frame = .error (.malformed fault) ∧
      ∀ relay : Terminal.Relay, relay.mode = .shell →
        relay.incoming (.text frame) = if relay.isSubscribed then .error (.malformed fault) else .ok relay) ∧
      ∀ before after : String, (∀ c ∈ before.toList, c ∈ blanks) → (∀ c ∈ after.toList, c ∈ blanks) →
        decode (before ++ m.encode ++ after) = decode m.encode := by
  refine ⟨fun frame h => ?_, fun before after hbefore hafter => decode_between hbefore hafter m⟩
  obtain ⟨fault, hfault⟩ := h.decode_eq
  exact ⟨fault, hfault, fun relay hmode => incoming_of_malformed hfault hmode⟩

/-- One frame ends inside of an escape, one has another frame behind it. -/
theorem decode_damaged_line :
    (∃ fault, decode "\x7b\"operation\":\"stdout\",\"data\":\"a\\" = .error (.malformed fault)) ∧
      (∃ fault, decode "\x7b\"operation\":\"stdout\",\"data\":\"a\\n\"\x7d \x7b\x7d" = .error (.malformed fault) ∧
        (Terminal.Relay.new (.new (.new fun _ => false)) .shell).incoming
          (.text "\x7b\"operation\":\"stdout\",\"data\":\"a\\n\"\x7d \x7b\x7d") = .error (.malformed fault)) ∧
      decode "\t\x7b\"operation\":\"stdout\",\"data\":\"a\\n\"\x7d\r\n" = .ok (.stdout "a\n") := by
  obtain ⟨hdamaged, hbetween⟩ := decode_damaged (.stdout "a\n")
  refine ⟨?_, ?_, ?_⟩
  · have hcut : "\x7b\"operation\":\"stdout\",\"data\":\"a\\" ++ "n\"\x7d" = (stdout "a\n").encode := by decide
    obtain ⟨fault, hfault, -⟩ := hdamaged _ (.cut hcut (by decide))
    exact ⟨fault, hfault⟩
  · have hextended : (stdout "a\n").Damages "\x7b\"operation\":\"stdout\",\"data\":\"a\\n\"\x7d \x7b\x7d" :=
      .extended '\x7b' (by decide : '\x7b' ∈ " \x7b\x7d".toList) (by decide)
    obtain ⟨fault, hfault, hrelay⟩ := hdamaged _ hextended
    exact ⟨fault, hfault, hrelay _ rfl⟩
  · have hblank := hbetween "\t" "\r\n" (by simp [blanks]) (by simp [blanks])
    rwa [decode, decode, read_encode] at hblank

end Message

end PodAttach.Wire

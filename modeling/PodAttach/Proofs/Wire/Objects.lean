import PodAttach.Proofs.Wire.Members

/-!
# Objects as envelopes

An envelope is what the members of an object say about four names. Reading the text of an object gives that envelope, in
whatever order and with whatever blanks and escapes it is written, and fails if the members say nothing or say it twice.
-/

namespace PodAttach.Json

variable {α : Type} {read : Tree → Option α}

/-- A value for a name that must not have had one. -/
def once (read : Tree → Option α) (old : Option α) (t : Tree) : Option α := if old.isSome then none else read t

/-- What the values of a name leave behind, one after the other. -/
def gathered (read : Tree → Option α) (old : Option α) (values : List Tree) : Option (Option α) :=
  values.foldlM (fun old t => (once read old t).map some) old

theorem gathered_cons (old : Option α) (t : Tree) (values : List Tree) :
    gathered read old (t :: values) = (once read old t).bind fun value => gathered read (some value) values := by
  rw [gathered, List.foldlM_cons]
  cases once read old t <;> rfl

theorem gathered_some (value : α) (t : Tree) (values : List Tree) : gathered read (some value) (t :: values) = none := by
  rw [gathered_cons]
  rfl

/-- Two values are too many, and one counts if it is of the right kind. -/
theorem gathered_none (values : List Tree) :
    gathered read none values = match values with
      | [] => some none
      | [t] => (read t).map some
      | _ => none := by
  match values with
  | [] => rfl
  | [t] =>
    rw [gathered_cons]
    change ((read t).bind fun value => some (some value)) = (read t).map some
    cases read t <;> rfl
  | t :: u :: values =>
    rw [gathered_cons]
    change ((read t).bind fun value => gathered read (some value) (u :: values)) = none
    cases read t with
    | none => rfl
    | some value => exact gathered_some value u values

theorem required_eq_some_iff {values : List Tree} {value : α} :
    required read values = some value ↔ gathered read none values = some (some value) := by
  rw [gathered_none]
  match values with
  | [] => simp [required]
  | [t] => simp [required]
  | t :: u :: values => simp [required]

theorem optional_eq_some_iff {values : List Tree} {value : Option α} :
    optional read values = some value ↔
      ∃ gathering, gathered (Tree.orNull read) none values = some gathering ∧ gathering.join = value := by
  rw [gathered_none]
  match values with
  | [] => simp [optional, eq_comm]
  | [t] =>
    refine ⟨fun h => ⟨some value, congrArg (Option.map some) h, rfl⟩, ?_⟩
    rintro ⟨gathering, hgathering, rfl⟩
    obtain ⟨value, hvalue, rfl⟩ := Option.map_eq_some_iff.1 hgathering
    exact hvalue
  | t :: u :: values => simp [optional]

theorem length_of_required {values : List Tree} {value : α} (h : required read values = some value) :
    values.length = 1 := by
  match values with
  | [] => simp [required] at h
  | [t] => rfl
  | t :: u :: values => simp [required] at h

theorem length_of_optional {values : List Tree} {value : Option α} (h : optional read values = some value) :
    values.length ≤ 1 := by
  match values with
  | [] => simp
  | [t] => simp
  | t :: u :: values => simp [optional] at h

end PodAttach.Json

namespace PodAttach.Wire.Envelope

open Json

/-- What a member adds to what has been seen. -/
def Seen.add? (seen : Seen) (name : String) (value : Tree) : Option Seen :=
  match name with
  | "operation" => (once Tree.string? seen.operation value).map fun value => { seen with operation := some value }
  | "data" => (once (Tree.orNull Tree.string?) seen.data value).map fun value => { seen with data := some value }
  | "cols" => (once (Tree.orNull Tree.word?) seen.cols value).map fun value => { seen with cols := some value }
  | "rows" => (once (Tree.orNull Tree.word?) seen.rows value).map fun value => { seen with rows := some value }
  | _ => some seen

def Seen.addAll? (seen : Seen) (members : List (Member Tree)) : Option Seen :=
  members.foldlM (fun seen m => m.name?.bind fun name => seen.add? name m.value.item) seen

theorem Seen.addAll?_cons (seen : Seen) (m : Member Tree) (members : List (Member Tree)) :
    seen.addAll? (m :: members) =
      m.name?.bind fun name => (seen.add? name m.value.item).bind fun next => next.addAll? members := by
  rw [Seen.addAll?, List.foldlM_cons]
  cases m.name? <;> rfl

/-! ### What one member adds -/

theorem readColon_blanks (gap : Blanks) (rest : List Char) : readColon (gap.chars ++ ':' :: rest) = .ok rest :=
  readColon_eq_ok_iff.2 ⟨gap, rfl⟩

theorem toOption_readOnce {α : Type} {reader : Reader α} {read : Tree → Option α} (h : reader.Takes read) (name : String)
    (old : Option α) (put : α → Seen) (gap before : Blanks) (t : Tree) {rest : List Char} (hrest : EndsNumber rest) :
    ((readOnce name old reader (gap.chars ++ ':' :: (before.chars ++ (t.source ++ rest)))).map
        fun (value, rest) => (put value, rest)).toOption =
      ((once read old t).map put).map fun next => (next, rest) := by
  have honce : (readOnce name old reader (gap.chars ++ ':' :: (before.chars ++ (t.source ++ rest)))).toOption =
      (once read old t).map fun value => (value, rest) := by
    rw [readOnce, once]
    by_cases hold : old.isSome
    · rw [if_pos hold, if_pos hold]
      exact toOption_eq_none fun _ => closing_ne_ok
    · rw [if_neg hold, if_neg hold, readMember, readColon_blanks]
      exact h before t hrest
  rw [toOption_map, honce, Option.map_map, Option.map_map]
  rfl

theorem Seen.toOption_read (seen : Seen) (name : String) (gap before : Blanks) (t : Tree) {rest : List Char}
    (hrest : EndsNumber rest) :
    (seen.read name (gap.chars ++ ':' :: (before.chars ++ (t.source ++ rest)))).toOption =
      (seen.add? name t).map fun next => (next, rest) := by
  unfold Seen.read
  split
  · exact toOption_readOnce takes_readString _ _ (fun value => { seen with operation := some value }) gap before t hrest
  · exact toOption_readOnce takes_readString.nullable _ _ (fun value => { seen with data := some value }) gap before t
      hrest
  · exact toOption_readOnce takes_readUInt16.nullable _ _ (fun value => { seen with cols := some value }) gap before t
      hrest
  · exact toOption_readOnce takes_readUInt16.nullable _ _ (fun value => { seen with rows := some value }) gap before t
      hrest
  · next hoperation hdata hcols hrows =>
    have hadd : seen.add? name t = some seen := by
      unfold Seen.add?
      split <;> first | rfl | contradiction
    rw [hadd, readColon_blanks]
    change ((skipValue (before.chars ++ (t.source ++ rest))).map fun rest => (seen, rest)).toOption = _
    rw [skipValue_source before t hrest]
    rfl

/-! ### What all members leave behind -/

theorem toOption_complete (seen : Seen) (rest : List Char) :
    (seen.complete ('\x7d' :: rest)).toOption =
      seen.operation.map fun operation => (⟨operation, seen.data.join, seen.cols.join, seen.rows.join⟩, rest) := by
  rw [Seen.complete]
  cases seen.operation with
  | some operation => rfl
  | none => exact toOption_eq_none fun _ => closing_ne_ok

/-- The envelope that members leave behind what has been seen. -/
def Seen.envelope? (seen : Seen) (members : List (Member Tree)) : Option Envelope :=
  (seen.addAll? members).bind fun next =>
    next.operation.map fun operation => ⟨operation, next.data.join, next.cols.join, next.rows.join⟩

theorem Seen.envelope?_cons (seen : Seen) (m : Member Tree) (members : List (Member Tree)) :
    seen.envelope? (m :: members) =
      m.name?.bind fun name => (seen.add? name m.value.item).bind fun next => next.envelope? members := by
  rw [Seen.envelope?, Seen.addAll?_cons, Option.bind_assoc]
  simp only [Option.bind_assoc]
  rfl

/-- A member is read from behind the quote that opens its name; the others follow it. -/
theorem toOption_readMembers_member {isFirst : Bool} {cs left rest : List Char} (seen : Seen) (m : Member Tree)
    {more : List (Member Tree)} (hleft : EndsNumber left)
    (hn : nextMember isFirst cs = .ok (.item (m.name.item.flatMap Piece.source ++
      '"' :: (m.name.after.chars ++ ':' :: (m.value.before.chars ++ (m.value.item.source ++ left))))))
    (hmore : ∀ next : Seen, (readMembers false next left).toOption =
      (next.envelope? more).map fun envelope => (envelope, rest)) :
    (readMembers isFirst seen cs).toOption = (seen.envelope? (m :: more)).map fun envelope => (envelope, rest) := by
  rw [readMembers_of_item hn, toOption_bind, toOption_readText, Seen.envelope?_cons, Member.name?]
  cases spelled? m.name.item with
  | none => rfl
  | some name =>
    change (seen.read (String.ofList name) _ >>= fun found => readMembers false found.1 found.2).toOption =
      ((seen.add? (String.ofList name) m.value.item).bind _).map _
    rw [toOption_bind, Seen.toOption_read seen _ _ _ _ hleft]
    cases seen.add? (String.ofList name) m.value.item with
    | none => rfl
    | some next => exact hmore next

theorem nextMember_blanks_comma (gap : Blanks) (name : Padded (List Piece)) (rest : List Char) :
    nextMember false (gap.chars ++ ',' :: (nameSource name ++ rest)) =
      .ok (.item (name.item.flatMap Piece.source ++ '"' :: (name.after.chars ++ ':' :: rest))) := by
  simp only [nameSource, textSource, List.append_assoc, List.cons_append, List.nil_append]
  exact nextMember_eq_ok_iff.2 (.later gap name.before _)

theorem nextMember_blanks_first (name : Padded (List Piece)) (rest : List Char) :
    nextMember true (nameSource name ++ rest) =
      .ok (.item (name.item.flatMap Piece.source ++ '"' :: (name.after.chars ++ ':' :: rest))) := by
  simp only [nameSource, textSource, List.append_assoc, List.cons_append, List.nil_append]
  exact nextMember_eq_ok_iff.2 (.first name.before _)

theorem toOption_readMembers (more : List (Member Tree)) (seen : Seen) (gap : Blanks) (rest : List Char) :
    (readMembers false seen (gap.chars ++ (Tree.membersSource more ++ '\x7d' :: rest))).toOption =
      (seen.envelope? more).map fun envelope => (envelope, rest) := by
  induction more generalizing seen gap with
  | nil =>
    rw [Tree.membersSource, List.nil_append, readMembers_closing (nextMember_eq_ok_iff.2 (.closing false gap rest)), toOption_complete]
    change _ = (seen.operation.map _).map _
    rw [Option.map_map]
    rfl
  | cons m more ih =>
    obtain ⟨name, before, value, after⟩ := m
    have hleft := endsNumber_blanks_append after (endsNumber_members more rest)
    have hnext := nextMember_blanks_comma gap name
      (before.chars ++ (value.source ++ (after.chars ++ (Tree.membersSource more ++ '\x7d' :: rest))))
    simp only [Tree.membersSource, List.cons_append, List.append_assoc]
    exact toOption_readMembers_member seen ⟨name, before, value, after⟩ hleft hnext fun next => ih next after

/-! ### What members say about each name -/

theorem valuesOf_cons (name : String) (m : Member Tree) (members : List (Member Tree)) :
    valuesOf name (m :: members) =
      if m.name? = some name then m.value.item :: valuesOf name members else valuesOf name members := by
  rw [valuesOf, List.filter_cons]
  by_cases hname : m.name? = some name <;> simp [hname, valuesOf]

theorem Seen.addAll?_eq_some_iff (members : List (Member Tree)) (seen next : Seen) :
    seen.addAll? members = some next ↔
      (∀ m ∈ members, m.name?.isSome) ∧
      gathered Tree.string? seen.operation (valuesOf "operation" members) = some next.operation ∧
      gathered (Tree.orNull Tree.string?) seen.data (valuesOf "data" members) = some next.data ∧
      gathered (Tree.orNull Tree.word?) seen.cols (valuesOf "cols" members) = some next.cols ∧
      gathered (Tree.orNull Tree.word?) seen.rows (valuesOf "rows" members) = some next.rows := by
  induction members generalizing seen with
  | nil =>
    cases seen
    cases next
    simp [Seen.addAll?, valuesOf, gathered]
  | cons m members ih =>
    rw [Seen.addAll?_cons]
    simp only [valuesOf_cons, List.forall_mem_cons]
    cases hname : m.name? with
    | none => simp
    | some name =>
      simp only [Option.bind_some, Option.isSome_some, true_and, Option.some.injEq]
      unfold Seen.add?
      -- a member adds to the values of its own name and leaves those of the other three as they are
      split
      · rw [if_pos rfl, if_neg (by decide), if_neg (by decide), if_neg (by decide), gathered_cons]
        cases once Tree.string? seen.operation m.value.item with
        | none => simp
        | some value => exact ih _
      · rw [if_neg (by decide), if_pos rfl, if_neg (by decide), if_neg (by decide), gathered_cons]
        cases once (Tree.orNull Tree.string?) seen.data m.value.item with
        | none => simp
        | some value => exact ih _
      · rw [if_neg (by decide), if_neg (by decide), if_pos rfl, if_neg (by decide), gathered_cons]
        cases once (Tree.orNull Tree.word?) seen.cols m.value.item with
        | none => simp
        | some value => exact ih _
      · rw [if_neg (by decide), if_neg (by decide), if_neg (by decide), if_pos rfl, gathered_cons]
        cases once (Tree.orNull Tree.word?) seen.rows m.value.item with
        | none => simp
        | some value => exact ih _
      · next hoperation hdata hcols hrows =>
        rw [if_neg hoperation, if_neg hdata, if_neg hcols, if_neg hrows]
        exact ih seen

/-- What an object says about the four names of an envelope. All names have to be strings, those of other members too. -/
structure Tells (members : List (Member Tree)) (envelope : Envelope) : Prop where
  named : ∀ m ∈ members, m.name?.isSome
  operation : required Tree.string? (valuesOf "operation" members) = some envelope.operation
  data : optional Tree.string? (valuesOf "data" members) = some envelope.data
  cols : optional Tree.word? (valuesOf "cols" members) = some envelope.cols
  rows : optional Tree.word? (valuesOf "rows" members) = some envelope.rows

theorem envelope?_eq_some_iff {members : List (Member Tree)} {envelope : Envelope} :
    ({} : Seen).envelope? members = some envelope ↔ Tells members envelope := by
  simp only [Seen.envelope?, Option.bind_eq_some_iff, Option.map_eq_some_iff, Seen.addAll?_eq_some_iff]
  constructor
  · rintro ⟨next, ⟨hnamed, hoperation, hdata, hcols, hrows⟩, operation, hnext, rfl⟩
    rw [hnext] at hoperation
    exact ⟨hnamed, required_eq_some_iff.2 hoperation, optional_eq_some_iff.2 ⟨_, hdata, rfl⟩,
      optional_eq_some_iff.2 ⟨_, hcols, rfl⟩, optional_eq_some_iff.2 ⟨_, hrows, rfl⟩⟩
  · intro htells
    obtain ⟨data, hdata, hdata'⟩ := optional_eq_some_iff.1 htells.data
    obtain ⟨cols, hcols, hcols'⟩ := optional_eq_some_iff.1 htells.cols
    obtain ⟨rows, hrows, hrows'⟩ := optional_eq_some_iff.1 htells.rows
    refine ⟨⟨some envelope.operation, data, cols, rows⟩,
      ⟨htells.named, required_eq_some_iff.1 htells.operation, hdata, hcols, hrows⟩, envelope.operation, rfl, ?_⟩
    rw [hdata', hcols', hrows']

theorem Tells.length_le {members : List (Member Tree)} {envelope : Envelope} (h : Tells members envelope) {name : String}
    (hname : name ∈ ["operation", "data", "cols", "rows"]) : (valuesOf name members).length ≤ 1 := by
  simp only [List.mem_cons, List.not_mem_nil, or_false] at hname
  rcases hname with rfl | rfl | rfl | rfl
  · exact Nat.le_of_eq (length_of_required h.operation)
  · exact length_of_optional h.data
  · exact length_of_optional h.cols
  · exact length_of_optional h.rows

/-! ### The text of an object -/

theorem toOption_readMembers_first (first : Member Tree) (more : List (Member Tree)) (rest : List Char) :
    (readMembers true {} ((Tree.object first more).source.drop 1 ++ rest)).toOption =
      (({} : Seen).envelope? (first :: more)).map fun envelope => (envelope, rest) := by
  obtain ⟨name, before, value, after⟩ := first
  have hleft := endsNumber_blanks_append after (endsNumber_members more rest)
  have hnext := nextMember_blanks_first name
    (before.chars ++ (value.source ++ (after.chars ++ (Tree.membersSource more ++ '\x7d' :: rest))))
  simp only [Tree.source, List.drop_succ_cons, List.drop_zero, List.append_assoc, List.cons_append, List.nil_append]
  exact toOption_readMembers_member {} ⟨name, before, value, after⟩ hleft hnext fun next =>
    toOption_readMembers more next after rest

/-- Blanks behind a value make no difference. -/
theorem toOption_read {cs : List Char} {found? : Option Envelope} {after : Blanks}
    (h : (readValue cs).toOption = found?.map fun envelope => (envelope, after.chars)) :
    (Envelope.read cs).toOption = found? := by
  have hblanks : skipBlanks after.chars = [] := by
    have hskip := skipBlanks_blanks after []
    rwa [List.append_nil] at hskip
  rw [Envelope.read, toOption_bind, h]
  cases found? with
  | none => rfl
  | some envelope =>
    rw [Option.map_some, Option.bind_some]
    simp only [hblanks]
    rfl

theorem toOption_read_object (before after : Blanks) (first : Member Tree) (more : List (Member Tree)) :
    (Envelope.read (before.chars ++ ((Tree.object first more).source ++ after.chars))).toOption =
      ({} : Seen).envelope? (first :: more) := by
  apply toOption_read
  rw [← toOption_readMembers_first]
  change (readValue (before.chars ++ '\x7b' :: _)).toOption = _
  rw [readValue, skipBlanks_blanks_cons before (by decide)]
  rfl

end PodAttach.Wire.Envelope

namespace PodAttach.Wire.Message

open Json Envelope

variable {before after : Blanks} {first : Member Tree} {more : List (Member Tree)}

theorem decode_of_toOption_eq_some {frame : String} {envelope : Envelope}
    (h : (Envelope.read frame.toList).toOption = some envelope) : decode frame = envelope.toMessage := by
  rw [decode]
  cases hread : Envelope.read frame.toList with
  | ok found =>
    rw [hread] at h
    obtain rfl := Option.some.inj h
    rfl
  | error stop =>
    rw [hread] at h
    cases h

theorem malformed_of_toOption_eq_none {frame : String} (h : (Envelope.read frame.toList).toOption = none) :
    ∃ fault, decode frame = .error (.malformed fault) := by
  cases hread : Envelope.read frame.toList with
  | ok found =>
    rw [hread] at h
    cases h
  | error stop => exact ⟨stop.locate frame.toList, by rw [decode, hread]⟩

theorem decode_of_tells {envelope : Envelope} (h : Tells (first :: more) envelope) :
    decode (String.ofList (before.chars ++ ((Tree.object first more).source ++ after.chars))) = envelope.toMessage := by
  apply decode_of_toOption_eq_some
  rw [String.toList_ofList, toOption_read_object]
  exact envelope?_eq_some_iff.2 h

/-- An object that says too little, too much or something of the wrong kind is no envelope. -/
theorem decode_of_not_tells (h : ∀ envelope, ¬ Tells (first :: more) envelope) :
    ∃ fault, decode (String.ofList (before.chars ++ ((Tree.object first more).source ++ after.chars))) =
      .error (.malformed fault) := by
  apply malformed_of_toOption_eq_none
  rw [String.toList_ofList, toOption_read_object]
  apply Option.eq_none_iff_forall_ne_some.2
  intro envelope henvelope
  exact h envelope (envelope?_eq_some_iff.1 henvelope)

/-- An object is read for what it says about four names, however it is written and whatever else it holds; what follows
from the four values is up to the operation. A frame that gives one of the names twice is malformed. -/
theorem decode_object (before after : Blanks) (first : Member Tree) (more : List (Member Tree)) :
    (∀ operation data cols rows, Tells (first :: more) ⟨operation, data, cols, rows⟩ →
      decode (String.ofList (before.chars ++ ((Tree.object first more).source ++ after.chars))) =
        match operation with
        | "stdin" => match data with
          | some data => .ok (.stdin data)
          | none => .error (.missingData "stdin")
        | "stdout" => match data with
          | some data => .ok (.stdout data)
          | none => .error (.missingData "stdout")
        | "resize" =>
          if cols.getD 0 = 0 ∨ rows.getD 0 = 0 then .error (.invalidSize (cols.getD 0) (rows.getD 0))
          else .ok (.resize (cols.getD 0) (rows.getD 0))
        | other => .error (.unknownOperation other)) ∧
    ∀ name ∈ ["operation", "data", "cols", "rows"], 2 ≤ (valuesOf name (first :: more)).length →
      ∃ fault, decode (String.ofList (before.chars ++ ((Tree.object first more).source ++ after.chars))) =
        .error (.malformed fault) := by
  constructor
  · intro operation data cols rows htells
    rw [decode_of_tells htells]
    rfl
  · intro name hname htwice
    refine decode_of_not_tells fun envelope htells => ?_
    have hle := htells.length_le hname
    omega

/-! ### A frame with everything in it -/

def space : Blanks := ⟨[' '], by simp⟩

def surrogateHigh : Piece := .hex ⟨'d', 13, by decide⟩ ⟨'8', 8, by decide⟩ ⟨'3', 3, by decide⟩ ⟨'D', 13, by decide⟩

def surrogateLow : Piece := .hex ⟨'d', 13, by decide⟩ ⟨'e', 14, by decide⟩ ⟨'0', 0, by decide⟩ ⟨'0', 0, by decide⟩

def letterE : Piece := .hex ⟨'0', 0, by decide⟩ ⟨'0', 0, by decide⟩ ⟨'6', 6, by decide⟩ ⟨'5', 5, by decide⟩

def thousands : Literal where
  isNegative := true
  whole := ['1']
  isNumeral_whole := ⟨by decide, by simp, by decide⟩
  fraction := some ⟨['5'], by decide, by simp⟩
  exponent := some ⟨'e', by decide, ['+'], by decide, ⟨['3'], by decide, by simp⟩⟩

/-- A member that no envelope takes, with half a pair of surrogates deep inside. -/
def strangeMember : Member Tree where
  name := .bare (plainPieces "s".toList (by simp))
  value := .bare (.list (.bare (.number thousands))
    [⟨space, .object ⟨.bare [], .bare (.text [surrogateHigh])⟩ [], .none⟩])

def escapedMember : Member Tree where
  name := ⟨space, plainPieces "op".toList (by simp) ++ letterE :: plainPieces "ration".toList (by simp), space⟩
  value := ⟨space, .text (plainPieces "stdout".toList (by simp)), .none⟩

def dataMember (t : Tree) : Member Tree where
  name := .bare (plainPieces "data".toList (by simp))
  value := .bare t

theorem decode_object_strange :
    decode "\x7b\"s\":[-1.5e+3, \x7b\"\":\"\\ud83D\"\x7d], \"op\\u0065ration\" : \"stdout\",\"data\":\"\\ud83D\\ude00\"\x7d " =
        .ok (.stdout "😀") ∧
      ∃ fault, decode "\x7b\"data\":null,\"data\":null\x7d" = .error (.malformed fault) :=
  ⟨(decode_object .none space strangeMember [escapedMember, dataMember (.text [surrogateHigh, surrogateLow])]).1
      "stdout" (some "😀") none none ⟨by decide, by decide, by decide, by decide, by decide⟩,
    (decode_object .none .none (dataMember .null) [dataMember .null]).2 "data" (by decide) (by decide)⟩

end PodAttach.Wire.Message

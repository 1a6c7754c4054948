import PodAttach.Proofs.Wire.Objects

/-!
# Members that an operation does not use

What an operation does not use has no say in the message, but it has to be readable all the same: an object is refused as
malformed if one of the members that some operation uses is of the wrong type, whichever operation it names itself. Among
the objects that can be read, those that agree on what their operation uses stand for the same message.
-/

namespace PodAttach.Wire

open Json

/-! ### What is used -/

/-- The members that an operation uses. An unknown one uses none. -/
def uses : String → List String
  | "stdin" => ["data"]
  | "stdout" => ["data"]
  | "resize" => ["cols", "rows"]
  | _ => []

/-- Two objects say the same of every member that an operation uses. -/
structure AgreeOn (operation : String) (members others : List (Member Tree)) : Prop where
  data : "data" ∈ uses operation →
    optional Tree.string? (valuesOf "data" members) = optional Tree.string? (valuesOf "data" others)
  cols : "cols" ∈ uses operation →
    optional Tree.word? (valuesOf "cols" members) = optional Tree.word? (valuesOf "cols" others)
  rows : "rows" ∈ uses operation →
    optional Tree.word? (valuesOf "rows" members) = optional Tree.word? (valuesOf "rows" others)

/-- An object all of whose members can be read, used or not: each name is a string, and the members that some operation
uses are missing, null or of their type. -/
structure IsReadable (members : List (Member Tree)) : Prop where
  named : ∀ m ∈ members, m.name?.isSome
  data : (optional Tree.string? (valuesOf "data" members)).isSome
  cols : (optional Tree.word? (valuesOf "cols" members)).isSome
  rows : (optional Tree.word? (valuesOf "rows" members)).isSome

namespace Envelope

theorem toMessage_of_uses_eq_nil {envelope : Envelope} (h : uses envelope.operation = []) :
    envelope.toMessage = .error (.unknownOperation envelope.operation) := by
  obtain ⟨operation, data, cols, rows⟩ := envelope
  dsimp only at h
  unfold uses at h
  split at h
  · cases h
  · cases h
  · cases h
  · next hstdin hstdout hresize =>
    unfold toMessage
    dsimp only
    split
    · exact absurd rfl hstdin
    · exact absurd rfl hstdout
    · exact absurd rfl hresize
    · rfl

theorem toMessage_ne_malformed (envelope : Envelope) (fault : Json.Fault) :
    envelope.toMessage ≠ .error (.malformed fault) := by
  unfold toMessage
  split
  · split <;> simp
  · split <;> simp
  · rw [Message.sized]
    split <;> simp
  · simp

/-- Envelopes that hold the same where their operation looks stand for the same message. -/
theorem toMessage_congr {envelope other : Envelope} (hoperation : envelope.operation = other.operation)
    (hdata : "data" ∈ uses envelope.operation → envelope.data = other.data)
    (hcols : "cols" ∈ uses envelope.operation → envelope.cols = other.cols)
    (hrows : "rows" ∈ uses envelope.operation → envelope.rows = other.rows) : envelope.toMessage = other.toMessage := by
  obtain ⟨operation, data, cols, rows⟩ := envelope
  obtain ⟨operation', data', cols', rows'⟩ := other
  obtain rfl : operation = operation' := hoperation
  unfold uses at hdata hcols hrows
  unfold toMessage
  dsimp only at *
  split <;> simp_all

/-- An object that names an operation tells something exactly if it is readable. -/
theorem exists_tells_iff {members : List (Member Tree)} {operation : String}
    (hoperation : required Tree.string? (valuesOf "operation" members) = some operation) :
    (∃ envelope, Tells members envelope) ↔ IsReadable members := by
  constructor
  · rintro ⟨envelope, htells⟩
    exact ⟨htells.named, by simp [htells.data], by simp [htells.cols], by simp [htells.rows]⟩
  · rintro ⟨hnamed, hdata, hcols, hrows⟩
    obtain ⟨data, hdata⟩ := Option.isSome_iff_exists.1 hdata
    obtain ⟨cols, hcols⟩ := Option.isSome_iff_exists.1 hcols
    obtain ⟨rows, hrows⟩ := Option.isSome_iff_exists.1 hrows
    exact ⟨⟨operation, data, cols, rows⟩, hnamed, hoperation, hdata, hcols, hrows⟩

end Envelope

namespace Message

open Envelope

/-- A frame that is an object, as it is written. -/
def objectFrame (before after : Blanks) (first : Member Tree) (more : List (Member Tree)) : String :=
  String.ofList (before.chars ++ ((Tree.object first more).source ++ after.chars))

section

variable {first first' : Member Tree} {more more' : List (Member Tree)} {operation : String}
  (hoperation : required Tree.string? (valuesOf "operation" (first :: more)) = some operation)
include hoperation

theorem decode_of_readable (before after : Blanks) (h : IsReadable (first :: more)) :
    ∃ envelope, Tells (first :: more) envelope ∧ envelope.operation = operation ∧
      decode (objectFrame before after first more) = envelope.toMessage := by
  obtain ⟨envelope, htells⟩ := (exists_tells_iff hoperation).2 h
  have hsame : envelope.operation = operation := Option.some.inj (htells.operation.symm.trans hoperation)
  exact ⟨envelope, htells, hsame, decode_of_tells htells⟩

theorem decode_malformed_iff (before after : Blanks) :
    (∃ fault, decode (objectFrame before after first more) = .error (.malformed fault)) ↔
      ¬ IsReadable (first :: more) := by
  constructor
  · rintro ⟨fault, hfault⟩ hreadable
    obtain ⟨envelope, -, -, hdecode⟩ := decode_of_readable hoperation before after hreadable
    exact envelope.toMessage_ne_malformed fault (hdecode.symm.trans hfault)
  · intro hunreadable
    apply decode_of_not_tells
    intro envelope htells
    exact hunreadable ((exists_tells_iff hoperation).1 ⟨envelope, htells⟩)

theorem decode_of_agreeOn (before after before' after' : Blanks)
    (hoperation' : required Tree.string? (valuesOf "operation" (first' :: more')) = some operation)
    (h : IsReadable (first :: more)) (h' : IsReadable (first' :: more'))
    (hagree : AgreeOn operation (first :: more) (first' :: more')) :
    decode (objectFrame before' after' first' more') = decode (objectFrame before after first more) := by
  obtain ⟨envelope, htells, rfl, hdecode⟩ := decode_of_readable hoperation before after h
  obtain ⟨other, htells', hsame, hdecode'⟩ := decode_of_readable hoperation' before' after' h'
  rw [hdecode, hdecode']
  symm
  apply toMessage_congr hsame.symm
  · intro hused
    have heq := hagree.data hused
    rw [htells.data, htells'.data] at heq
    exact Option.some.inj heq
  · intro hused
    have heq := hagree.cols hused
    rw [htells.cols, htells'.cols] at heq
    exact Option.some.inj heq
  · intro hused
    have heq := hagree.rows hused
    rw [htells.rows, htells'.rows] at heq
    exact Option.some.inj heq

end

/-- An object that names an operation is malformed exactly if it cannot be read, and members that the operation does not
use count for that as well. Apart from that they have no say: an unknown operation is told as such, output is told by its
data alone, and readable objects that agree on what the operation uses stand for the same message. -/
theorem decode_objectFrame (before after : Blanks) (first : Member Tree) (more : List (Member Tree)) {operation : String}
    (hoperation : required Tree.string? (valuesOf "operation" (first :: more)) = some operation) :
    ((∃ fault, decode (objectFrame before after first more) = .error (.malformed fault)) ↔
      ¬ IsReadable (first :: more)) ∧
    (IsReadable (first :: more) →
      (uses operation = [] → decode (objectFrame before after first more) = .error (.unknownOperation operation)) ∧
      (∀ data, operation = "stdout" → optional Tree.string? (valuesOf "data" (first :: more)) = some (some data) →
        decode (objectFrame before after first more) = .ok (.stdout data)) ∧
      ∀ (before' after' : Blanks) (first' : Member Tree) (more' : List (Member Tree)),
        required Tree.string? (valuesOf "operation" (first' :: more')) = some operation → IsReadable (first' :: more') →
        AgreeOn operation (first :: more) (first' :: more') →
          decode (objectFrame before' after' first' more') = decode (objectFrame before after first more)) := by
  refine ⟨decode_malformed_iff hoperation before after, fun hreadable => ⟨?_, ?_, ?_⟩⟩
  · intro hunused
    obtain ⟨envelope, -, rfl, hdecode⟩ := decode_of_readable hoperation before after hreadable
    exact hdecode.trans (toMessage_of_uses_eq_nil hunused)
  · rintro data rfl hdata
    obtain ⟨⟨name, found, cols, rows⟩, htells, hname, hdecode⟩ := decode_of_readable hoperation before after hreadable
    obtain rfl : name = "stdout" := hname
    obtain rfl : found = some data := Option.some.inj (htells.data.symm.trans hdata)
    exact hdecode
  · intro before' after' first' more' hoperation' hreadable' hagree
    exact decode_of_agreeOn hoperation before after before' after' hoperation' hreadable hreadable' hagree

def colsMember (t : Tree) : Member Tree where
  name := .bare (plainPieces "cols".toList (by simp))
  value := .bare t

theorem decode_objectFrame_strange :
    required Tree.string? (valuesOf "operation" [strangeMember, escapedMember, dataMember (.text [letterE])]) =
        some "stdout" ∧
      decode "\x7b\"cols\":null,\"data\":\"\\u0065\", \"op\\u0065ration\" : \"stdout\"\x7d" =
        decode "\x7b\"s\":[-1.5e+3, \x7b\"\":\"\\ud83D\"\x7d], \"op\\u0065ration\" : \"stdout\",\"data\":\"\\u0065\"\x7d" := by
  have hoperation : required Tree.string?
      (valuesOf "operation" [strangeMember, escapedMember, dataMember (.text [letterE])]) = some "stdout" := by decide
  obtain ⟨-, hdecode⟩ := decode_objectFrame .none .none strangeMember [escapedMember, dataMember (.text [letterE])] hoperation
  obtain ⟨-, -, hsame⟩ := hdecode ⟨by decide, by decide, by decide, by decide⟩
  exact ⟨hoperation, hsame .none .none (colsMember .null) [dataMember (.text [letterE]), escapedMember] (by decide)
    ⟨by decide, by decide, by decide, by decide⟩ ⟨by decide, by decide, by decide⟩⟩

def pingMember : Member Tree where
  name := .bare (plainPieces "operation".toList (by simp))
  value := .bare (.text (plainPieces "ping".toList (by simp)))

/-- A member that an unknown operation does not use, and still it is refused. -/
theorem decode_of_unused :
    decode "\x7b\"operation\":\"ping\"\x7d" = .error (.unknownOperation "ping") ∧
      ∃ fault, decode "\x7b\"operation\":\"ping\",\"data\":true\x7d" = .error (.malformed fault) := by
  have hknown : required Tree.string? (valuesOf "operation" [pingMember]) = some "ping" := by decide
  have hoperation :
      required Tree.string? (valuesOf "operation" [pingMember, dataMember (.bool true)]) = some "ping" := by decide
  constructor
  · obtain ⟨envelope, -, hname, hdecode⟩ :=
      decode_of_readable hknown .none .none ⟨by decide, by decide, by decide, by decide⟩
    have hunused : uses envelope.operation = [] := by rw [hname]; rfl
    rw [toMessage_of_uses_eq_nil hunused, hname] at hdecode
    exact hdecode
  · apply (decode_malformed_iff hoperation .none .none).2
    intro hreadable
    exact absurd hreadable.data (by decide)

end Message

end PodAttach.Wire

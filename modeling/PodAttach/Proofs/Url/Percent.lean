import Mathlib.Data.List.Basic
import PodAttach.Proofs.Text.Cutting
import PodAttach.Proofs.Text.Utf8
import PodAttach.Url.Percent

/-!
# Percent encoding and forms that are read back

A percent sign and two digits are read as the byte they were written for, and every character but the percent sign as
its own bytes. So a text that holds no percent sign of its own is read back, whichever of its characters were encoded.
The pairs of a form are read back if no name and no value holds what separates them.
-/

namespace PodAttach.Url

open Text

/-! ### Bytes -/

theorem hexDigit?_hexChar : ∀ n < 16, Unicode.hexDigit? (hexChar n) = some n := by decide

theorem percentDecode_nil : percentDecode [] = [] := rfl

theorem percentDecode_cons {c : Char} (h : c ≠ '%') (cs : List Char) :
    percentDecode (c :: cs) = String.utf8EncodeChar c ++ percentDecode cs := by
  have hsign : (c == '%') = false := by simpa using h
  simp only [percentDecode, percentDecodeFrom, hsign, Bool.false_eq_true, if_false]

theorem percentDecode_percentByte (b : UInt8) (cs : List Char) :
    percentDecode (percentByte b ++ cs) = b :: percentDecode cs := by
  have hb : b.toNat < 256 := b.toNat_lt
  have hpair : hexPair? (hexChar (b.toNat / 16) :: hexChar (b.toNat % 16) :: cs) = some b := by
    have hvalue : b.toNat / 16 * 16 + b.toNat % 16 = b.toNat := Nat.div_add_mod' b.toNat 16
    rw [hexPair?, hexDigit?_hexChar _ (by omega), hexDigit?_hexChar _ (by omega)]
    simp only [hvalue, UInt8.ofNat_toNat]
  simp only [percentByte, List.cons_append, List.nil_append, percentDecode, percentDecodeFrom, beq_self_eq_true, if_true,
    hpair]

theorem percentDecode_percentBytes (bytes : List UInt8) (cs : List Char) :
    percentDecode (bytes.flatMap percentByte ++ cs) = bytes ++ percentDecode cs := by
  induction bytes with
  | nil => rfl
  | cons b bytes ih => rw [List.flatMap_cons, List.append_assoc, percentDecode_percentByte, ih, List.cons_append]

/-! ### Texts -/

theorem percentEncode_append (set : Char → Bool) (xs ys : List Char) :
    percentEncode set (xs ++ ys) = percentEncode set xs ++ percentEncode set ys := List.flatMap_append

theorem percentEncode_eq_self {set : Char → Bool} {cs : List Char} (h : ∀ c ∈ cs, set c = false) :
    percentEncode set cs = cs := by
  induction cs with
  | nil => rfl
  | cons c cs ih =>
    have hc : set c = false := h c List.mem_cons_self
    have hcs : percentEncode set cs = cs := ih fun d hd => h d (List.mem_cons_of_mem c hd)
    rw [percentEncode] at hcs ⊢
    rw [List.flatMap_cons, hcs, hc]
    rfl

/-- Encoding is undone by decoding, for a text without a percent sign of its own. -/
theorem percentDecode_percentEncode (set : Char → Bool) {cs : List Char} (h : '%' ∉ cs) :
    percentDecode (percentEncode set cs) = Utf8.encode cs := by
  induction cs with
  | nil => rfl
  | cons c cs ih =>
    rw [List.mem_cons, not_or] at h
    obtain ⟨hc, hcs⟩ := h
    have hread := ih hcs
    rw [percentEncode] at hread ⊢
    rw [Utf8.encode, List.flatMap_cons, List.flatMap_cons]
    cases set c with
    | false =>
      simp only [Bool.false_eq_true, if_false, List.singleton_append]
      rw [percentDecode_cons (Ne.symm hc), hread, Utf8.encode]
    | true =>
      simp only [if_true]
      rw [percentDecode_percentBytes, hread, Utf8.encode]

theorem percentDecode_eq_encode {cs : List Char} (h : '%' ∉ cs) : percentDecode cs = Utf8.encode cs := by
  have hread := percentDecode_percentEncode (fun _ => false) h
  rwa [percentEncode_eq_self fun _ _ => rfl] at hread

/-- A text with every byte of it written as a percent sign and two digits. -/
def escapeAll (cs : List Char) : List Char := (Utf8.encode cs).flatMap percentByte

theorem percentDecode_escapeAll (cs : List Char) : percentDecode (escapeAll cs) = Utf8.encode cs := by
  have hread := percentDecode_percentBytes (Utf8.encode cs) []
  rwa [percentDecode_nil, List.append_nil, List.append_nil] at hread

theorem mem_hexChars : ∀ n < 16, hexChar n ∈ "0123456789ABCDEF".toList := by decide

/-- An encoded byte is written with the percent sign and two hexadecimal digits. -/
theorem mem_of_mem_percentByte {b : UInt8} {c : Char} (h : c ∈ percentByte b) : c ∈ "%0123456789ABCDEF".toList := by
  have hlt : b.toNat < 256 := b.toNat_lt
  have hdigits : "%0123456789ABCDEF".toList = '%' :: "0123456789ABCDEF".toList := by decide
  rw [hdigits]
  simp only [percentByte, List.mem_cons, List.not_mem_nil, or_false] at h
  rcases h with rfl | rfl | rfl
  · exact List.mem_cons_self
  · exact List.mem_cons_of_mem _ (mem_hexChars _ (by omega))
  · exact List.mem_cons_of_mem _ (mem_hexChars _ (by omega))

theorem mem_of_mem_escapeAll {cs : List Char} {c : Char} (h : c ∈ escapeAll cs) :
    c ∈ "%0123456789ABCDEF".toList := by
  obtain ⟨b, -, hb⟩ := List.mem_flatMap.1 h
  exact mem_of_mem_percentByte hb

/-! ### Forms -/

theorem map_plus_eq_self {cs : List Char} (h : '+' ∉ cs) : cs.map (fun c => if c == '+' then ' ' else c) = cs := by
  have hsame : ∀ c ∈ cs, (if c == '+' then ' ' else c) = id c := by
    intro c hc
    have hne : (c == '+') = false := by simpa using fun heq : c = '+' => h (heq ▸ hc)
    rw [hne]
    rfl
  rw [List.map_congr_left hsame, List.map_id]

theorem formText_of_percentDecode {cs text : List Char} (hplus : '+' ∉ cs) (h : percentDecode cs = Utf8.encode text) :
    formText cs = String.ofList text := by
  rw [formText, map_plus_eq_self hplus, h, Utf8.decodeLossy_encode]

theorem formText_eq_ofList {cs : List Char} (hplus : '+' ∉ cs) (hsign : '%' ∉ cs) : formText cs = String.ofList cs :=
  formText_of_percentDecode hplus (percentDecode_eq_encode hsign)

theorem formText_escapeAll (cs : List Char) : formText (escapeAll cs) = String.ofList cs := by
  have hplus : '+' ∉ escapeAll cs := fun hmem => absurd (mem_of_mem_escapeAll hmem) (by decide)
  exact formText_of_percentDecode hplus (percentDecode_escapeAll cs)

theorem formPair_append {name : List Char} (h : '=' ∉ name) (value : List Char) :
    formPair (name ++ '=' :: value) = (formText name, formText value) := by
  rw [formPair, takeWhile_ne_append h, dropWhile_ne_append h]
  rfl

theorem formPairs_append (first rest : List Char) :
    formPairs (first ++ '&' :: rest) = formPairs first ++ formPairs rest := by
  have hsplit : (first ++ '&' :: rest).splitOn '&' = first.splitOn '&' ++ rest.splitOn '&' :=
    List.splitOnP_append_cons first rest (beq_self_eq_true '&')
  rw [formPairs, hsplit, List.filter_append, List.map_append]
  rfl

theorem formPairs_of_pair {name value : List Char} (hname : '&' ∉ name) (hvalue : '&' ∉ value) (hequals : '=' ∉ name) :
    formPairs (name ++ '=' :: value) = [(formText name, formText value)] := by
  have hand : ∀ c ∈ name ++ '=' :: value, (c == '&') = false := by
    intro c hc
    rw [List.mem_append, List.mem_cons] at hc
    rcases hc with hc | rfl | hc
    · simpa using fun heq : c = '&' => hname (heq ▸ hc)
    · decide
    · simpa using fun heq : c = '&' => hvalue (heq ▸ hc)
  have hsplit : (name ++ '=' :: value).splitOn '&' = [name ++ '=' :: value] := List.splitOnP_eq_singleton hand
  rw [formPairs, hsplit, List.filter_cons_of_pos (by simp), List.filter_nil, List.map_singleton,
    formPair_append hequals]

/-- A form as it is written, with the pairs as they are. -/
def formOf (pairs : List (String × String)) : String :=
  "&".intercalate (pairs.map fun (name, value) => name ++ "=" ++ value)

theorem toList_formOf (pairs : List (String × String)) :
    (formOf pairs).toList = ['&'].intercalate (pairs.map fun (name, value) => name.toList ++ '=' :: value.toList) := by
  have hand : "&".toList = ['&'] := by decide
  have hequals : "=".toList = ['='] := by decide
  simp [formOf, String.toList_intercalate, hand, hequals, Function.comp_def]

theorem formPairs_intercalate (parts : List (List Char)) :
    formPairs (['&'].intercalate parts) = parts.flatMap formPairs := by
  induction parts with
  | nil => rfl
  | cons part parts ih =>
    cases parts with
    | nil => rw [List.intercalate_singleton, List.flatMap_singleton]
    | cons next parts =>
      rw [List.intercalate_cons_cons, List.append_assoc, List.singleton_append, formPairs_append, ih]
      rfl

theorem formPairs_formOf {pairs : List (String × String)}
    (hand : ∀ pair ∈ pairs, '&' ∉ pair.1.toList ∧ '&' ∉ pair.2.toList) (hequals : ∀ pair ∈ pairs, '=' ∉ pair.1.toList) :
    formPairs (formOf pairs).toList = pairs.map fun (name, value) => (formText name.toList, formText value.toList) := by
  rw [toList_formOf, formPairs_intercalate, List.flatMap_map, List.map_eq_flatMap]
  refine List.flatMap_congr fun pair hpair => ?_
  exact formPairs_of_pair (hand pair hpair).1 (hand pair hpair).2 (hequals pair hpair)

end PodAttach.Url

import PodAttach.Proofs.Target.Resolution
import PodAttach.Proofs.Url.Authorities

/-!
# Hosts that are written

What a host is written with once it was read: letters, digits and a few signs, none of which ends the host of a URL or
is dropped by a reader. So a host and a port that were written are found again as an authority, whatever follows.
-/

namespace PodAttach.Url

open Text

/-! ### The characters of a written host -/

/-- An ASCII character that neither is blank nor ends or leads in any part of an authority but a port. -/
structure IsHostChar (c : Char) : Prop where
  isBlank_eq : isBlank c = false
  ne_mark : c ≠ '/' ∧ c ≠ '\\' ∧ c ≠ '?' ∧ c ≠ '#' ∧ c ≠ '@'

theorem toNat_of_isBlank {c : Char} (h : isBlank c = true) : c.toNat ≤ 0x20 ∨ 0x80 ≤ c.toNat := by
  simp only [isBlank, Bool.or_eq_true, Bool.and_eq_true, beq_iff_eq, decide_eq_true_eq, or_assoc] at h
  rcases h with rfl | h | rfl | rfl | rfl | h | rfl | rfl | rfl | rfl | rfl
  · exact .inl (by decide)
  · have hle : c.toNat ≤ 13 := h.2
    exact .inl (by omega)
  all_goals first | exact .inr (by decide) | skip
  · have hle : 0x2000 ≤ c.toNat := h.1
    exact .inr (by omega)

namespace DomainName

/-- A character that may be left in a domain name in ASCII form. -/
structure IsWritten (c : Char) : Prop where
  toNat_lt : c.toNat < 0x80
  isForbidden_eq : isForbidden c = false

theorem IsWritten.not_mem {c : Char} (h : IsWritten c) : c ∉ "%#/:<>?@[\\]^|".toList := by
  have hforbidden := h.isForbidden_eq
  simp only [isForbidden, Bool.or_eq_false_iff] at hforbidden
  simpa using hforbidden.2

theorem IsWritten.isHostChar {c : Char} (h : IsWritten c) : IsHostChar c := by
  have hmarks := h.not_mem
  have hforbidden := h.isForbidden_eq
  simp only [isForbidden, Bool.or_eq_false_iff, decide_eq_false_iff_not] at hforbidden
  constructor
  · rw [← Bool.not_eq_true]
    intro hblank
    have hlt := h.toNat_lt
    have hgt := hforbidden.1.1
    rcases toNat_of_isBlank hblank with hle | hle <;> omega
  · simp_all

end DomainName

/-! ### Punycode -/

namespace Punycode

variable {P : Char → Prop} (hdigit : ∀ d < 36, P (digitChar d))
include hdigit

/-- Every digit of a distance is below the base, so it is written with a letter or a digit. -/
theorem forall_mem_number (bias k q : Nat) : ∀ c ∈ number bias k q, P c := by
  have hthreshold : ∀ k, 1 ≤ threshold bias k ∧ threshold bias k ≤ 26 := by
    intro k
    unfold threshold tMin tMax
    split
    · omega
    · split <;> omega
  induction k, q using number.induct bias with
  | case1 k q t hlt =>
    obtain ⟨-, hle⟩ := hthreshold k
    rw [number, if_pos hlt]
    simpa using hdigit q (by omega)
  | case2 k q t hlt ih =>
    obtain ⟨-, hle⟩ := hthreshold k
    have hmod : (q - threshold bias k) % (base - threshold bias k) < base - threshold bias k :=
      Nat.mod_lt _ (by unfold base; omega)
    rw [number, if_neg hlt, List.forall_mem_cons]
    exact ⟨hdigit _ (by unfold base at *; omega), ih⟩

theorem forall_mem_place {cs : List Char} {code : Nat} {w : Writer} (hout : ∀ c ∈ w.out, P c) :
    ∀ c ∈ (w.place code cs).out, P c := by
  unfold Writer.place
  induction cs generalizing w with
  | nil => exact hout
  | cons c cs ih =>
    rw [List.foldl_cons]
    apply ih
    split
    · exact hout
    · split
      · exact List.forall_mem_append.2 ⟨hout, forall_mem_number hdigit _ _ _⟩
      · exact hout

theorem forall_mem_run {cs : List Char} {codes : List Nat} {next : Nat} {w : Writer} (hout : ∀ c ∈ w.out, P c) :
    ∀ c ∈ (w.run next codes cs).out, P c := by
  induction codes generalizing next w with
  | nil => exact hout
  | cons code codes ih =>
    rw [Writer.run]
    exact ih (forall_mem_place hdigit hout)

/-- What is written is what was ASCII before, and hyphens and digits of the base. -/
theorem forall_mem_encode {cs : List Char} (hhyphen : P '-') (hbasic : ∀ c ∈ cs, c.toNat < 0x80 → P c) :
    ∀ c ∈ encode cs, P c := by
  have hkept : ∀ c ∈ cs.filter (·.toNat < 0x80), P c := by
    intro c hc
    obtain ⟨hmem, hlt⟩ := List.mem_filter.1 hc
    exact hbasic c hmem (of_decide_eq_true hlt)
  rw [encode]
  apply forall_mem_run hdigit
  dsimp only
  split
  · simp
  · exact List.forall_mem_append.2 ⟨hkept, by simpa using hhyphen⟩

end Punycode

namespace DomainName

theorem isWritten_digitChar : ∀ d < 36, IsWritten (Punycode.digitChar d) := by
  have hall : ∀ d < 36, (Punycode.digitChar d).toNat < 0x80 ∧ isForbidden (Punycode.digitChar d) = false := by decide
  intro d hd
  exact ⟨(hall d hd).1, (hall d hd).2⟩

theorem isWritten_of_mem_writeLabel {label : List Char} (h : isValidLabel label = true) :
    ∀ c ∈ writeLabel label, IsWritten c := by
  simp only [isValidLabel, Bool.and_eq_true, List.all_eq_true, Bool.not_eq_true'] at h
  have hallowed : ∀ c ∈ label, isForbidden c = false := fun c hc => (h.1.1.1 c hc).2
  rw [writeLabel]
  split
  · next hascii =>
    simp only [List.all_eq_true, decide_eq_true_eq] at hascii
    exact fun c hc => ⟨hascii c hc, hallowed c hc⟩
  · rw [List.forall_mem_append]
    constructor
    · have hace : ∀ c ∈ acePrefix, c.toNat < 0x80 ∧ isForbidden c = false := by simp [acePrefix, isForbidden]
      exact fun c hc => ⟨(hace c hc).1, (hace c hc).2⟩
    · apply Punycode.forall_mem_encode isWritten_digitChar ⟨by decide, by decide⟩
      intro c hc hlt
      exact ⟨hlt, hallowed c hc⟩

/-- A name in ASCII form holds nothing that is forbidden in a domain name. -/
theorem isWritten_of_mem_ascii? {name ascii : List Char} (h : ascii? name = some ascii) : ∀ c ∈ ascii, IsWritten c := by
  rw [ascii?] at h
  split at h
  · next hplain =>
    simp only [isPlain, Bool.and_eq_true, List.all_eq_true, decide_eq_true_eq] at hplain
    have hlower : ∀ n < 128, (Char.ofNat n).toLower.toNat < 128 := by decide
    dsimp only at h
    split at h
    · contradiction
    next hallowed =>
    obtain rfl := Option.some.inj h
    simp only [List.any_eq_true, not_exists, not_and, Bool.not_eq_true] at hallowed
    intro c hc
    obtain ⟨d, hd, rfl⟩ := List.mem_map.1 hc
    have hlt := hlower d.toNat (hplain.1 d hd)
    rw [Char.ofNat_toNat] at hlt
    exact ⟨hlt, hallowed _ hc⟩
  · rw [encodeLabels?] at h
    obtain ⟨mapped, -, h⟩ := Option.bind_eq_some_iff.1 h
    obtain ⟨labels, -, h⟩ := Option.bind_eq_some_iff.1 h
    dsimp only at h
    split at h
    · next hvalid =>
      obtain rfl := Option.some.inj h
      simp only [List.all_eq_true, Bool.and_eq_true] at hvalid
      have hdot : IsWritten '.' := ⟨by decide, by decide⟩
      refine forall_mem_intercalate (P := IsWritten) hdot ?_
      intro part hpart
      obtain ⟨label, hlabel, rfl⟩ := List.mem_map.1 hpart
      exact isWritten_of_mem_writeLabel (hvalid label hlabel).1
    · contradiction

end DomainName

/-! ### Addresses -/

theorem isWritten_of_mem_renderIpv4 (address : UInt32) : ∀ c ∈ (Ipv4.render address).toList, DomainName.IsWritten c := by
  have hdigit : ∀ n < 10, (Nat.digitChar n).toNat < 0x80 ∧ DomainName.isForbidden (Nat.digitChar n) = false := by decide
  have hdot : ".".toList = ['.'] := by decide
  have hrepr : ∀ n, ∀ c ∈ (Nat.repr n).toList, DomainName.IsWritten c := by
    intro n c hc
    rw [Nat.repr, String.toList_ofList] at hc
    obtain ⟨d, hd, rfl⟩ := exists_eq_digitChar (Nat.isDigit_of_mem_toDigits (by decide) (by decide) hc)
    exact ⟨(hdigit d hd).1, (hdigit d hd).2⟩
  rw [Ipv4.render, String.toList_intercalate, hdot]
  refine forall_mem_intercalate (P := DomainName.IsWritten) ⟨by decide, by decide⟩ ?_
  simp only [List.map_cons, List.map_nil, List.forall_mem_cons]
  exact ⟨hrepr _, hrepr _, hrepr _, hrepr _, by simp⟩

theorem exists_of_mem_toDigits {b n : Nat} {c : Char} (hb : 1 < b) (h : c ∈ Nat.toDigits b n) :
    ∃ d < b, c = Nat.digitChar d := by
  induction n using Nat.strongRecOn with
  | _ n ih =>
    rw [Nat.toDigits_eq_if hb] at h
    split at h
    · next hlt => exact ⟨n, hlt, List.mem_singleton.1 h⟩
    · rcases List.mem_append.1 h with hmem | hmem
      · exact ih (n / b) (Nat.div_lt_self (by omega) hb) hmem
      · exact ⟨n % b, Nat.mod_lt n (by omega), List.mem_singleton.1 hmem⟩

/-- The characters of an address in groups. -/
def groupChars : List Char := "0123456789abcdef:".toList

theorem mem_groupChars_of_mem_renderIpv6 (groups : List UInt16) : ∀ c ∈ (Ipv6.render groups).toList, c ∈ groupChars := by
  have hcolon : ":".toList = [':'] := by decide
  have hdouble : "::".toList = [':', ':'] := by decide
  have hmem : ':' ∈ groupChars := by decide
  have hdigit : ∀ d < 16, Nat.digitChar d ∈ groupChars := by decide
  have hhex : ∀ part : List UInt16, ∀ c ∈ (String.intercalate ":" (part.map fun g =>
      String.ofList (Nat.toDigits 16 g.toNat))).toList, c ∈ groupChars := by
    intro part
    rw [String.toList_intercalate, hcolon]
    refine forall_mem_intercalate (P := (· ∈ groupChars)) hmem ?_
    intro text htext c hc
    simp only [List.map_map, List.mem_map, Function.comp_apply, String.toList_ofList] at htext
    obtain ⟨group, -, rfl⟩ := htext
    obtain ⟨d, hd, rfl⟩ := exists_of_mem_toDigits (by decide) hc
    exact hdigit d hd
  unfold Ipv6.render
  dsimp only
  split
  · exact hhex _
  · rw [String.toList_append, String.toList_append, List.forall_mem_append, List.forall_mem_append]
    rw [hdouble, List.forall_mem_cons, List.forall_mem_singleton]
    exact ⟨⟨hhex _, hmem, hmem⟩, hhex _⟩

/-! ### The host and the port of a text -/

theorem hostText_append {cs : List Char} (h : ∀ c ∈ cs, c ≠ ':' ∧ c ≠ '[' ∧ c ≠ ']') (rest : List Char) :
    hostText false (cs ++ rest) = cs ++ hostText false rest := by
  induction cs with
  | nil => rfl
  | cons c cs ih =>
    rw [List.forall_mem_cons] at h
    obtain ⟨⟨hcolon, hopening, hclosing⟩, hcs⟩ := h
    simp [hostText, hcolon, hopening, hclosing, ih hcs]

/-- Inside brackets a colon stands for itself. -/
theorem hostText_brackets {cs : List Char} (h : ']' ∉ cs) (rest : List Char) :
    hostText false ('[' :: (cs ++ ']' :: rest)) = '[' :: (cs ++ ']' :: hostText false rest) := by
  have hinside : ∀ cs : List Char, ']' ∉ cs → hostText true (cs ++ ']' :: rest) = cs ++ ']' :: hostText false rest := by
    intro cs
    induction cs with
    | nil => simp [hostText]
    | cons c cs ih =>
      intro h
      rw [List.mem_cons, not_or] at h
      obtain ⟨hc, hcs⟩ := h
      simp [hostText, Ne.symm hc, ih hcs]
  simp [hostText, hinside cs h]

/-- A host as it is written: a URL reader finds its end, and nothing in it means anything else. -/
structure Host.IsReadable (host : Host) : Prop where
  isHostChar : ∀ c ∈ host.render.toList, IsHostChar c
  hostText_eq : ∀ rest, hostText false (host.render.toList ++ rest) = host.render.toList ++ hostText false rest

theorem isReadable_of_isWritten {host : Host} (h : ∀ c ∈ host.render.toList, DomainName.IsWritten c) :
    host.IsReadable := by
  refine ⟨fun c hc => (h c hc).isHostChar, fun rest => hostText_append (fun c hc => ?_) rest⟩
  have hmarks := (h c hc).not_mem
  simp_all

theorem isReadable_ipv6 (groups : List UInt16) : (Host.ipv6 groups).IsReadable := by
  have hgroups := mem_groupChars_of_mem_renderIpv6 groups
  have hchars : ('[' :: (groupChars ++ [']'])).all (fun c => !isBlank c && !"/\\?#@".toList.contains c) = true := by decide
  have hrender : (Host.ipv6 groups).render.toList = '[' :: ((Ipv6.render groups).toList ++ [']']) := by
    simp [Host.render]
  constructor
  · rw [hrender]
    intro c hc
    have hmem : c ∈ '[' :: (groupChars ++ [']']) := by
      rw [List.mem_cons, List.mem_append] at hc ⊢
      exact hc.imp_right (Or.imp_left (hgroups c))
    have hc := List.all_eq_true.1 hchars c hmem
    simp only [Bool.and_eq_true, Bool.not_eq_true'] at hc
    exact ⟨hc.1, by simpa using hc.2⟩
  · intro rest
    have hclosing : ']' ∉ (Ipv6.render groups).toList := fun hmem => absurd (hgroups _ hmem) (by decide)
    rw [hrender]
    simpa using hostText_brackets hclosing rest

theorem exists_groups_of_ofBrackets (cs : List Char) :
    Yields (fun host => ∃ groups, host = .ipv6 groups) (Host.ofBrackets cs) := by
  intro host h
  unfold Host.ofBrackets at h
  split at h
  · split at h
    · next groups _ => exact ⟨groups, (Except.ok.inj h).symm⟩
    · contradiction
  · contradiction

/-- A host of the web is an address in groups, or it is written like a domain name in ASCII form. -/
theorem ofDomain_cases (cs : List Char) :
    Yields (fun host => (∃ groups, host = .ipv6 groups) ∨ ∀ c ∈ host.render.toList, DomainName.IsWritten c)
      (Host.ofDomain cs) := by
  intro host h
  unfold Host.ofDomain at h
  split at h
  · exact .inl (exists_groups_of_ofBrackets _ host h)
  · split at h
    · contradiction
    · contradiction
    · next domain _ hdomain =>
      right
      split at h
      · split at h
        · obtain rfl := Except.ok.inj h
          rw [Host.render]
          exact isWritten_of_mem_renderIpv4 _
        · contradiction
      · obtain rfl := Except.ok.inj h
        obtain ⟨text, -, hascii⟩ := Option.bind_eq_some_iff.1 hdomain
        rw [Host.render, String.toList_ofList]
        exact DomainName.isWritten_of_mem_ascii? hascii

theorem isReadable_ofDomain (cs : List Char) : Yields Host.IsReadable (Host.ofDomain cs) := by
  intro host h
  rcases ofDomain_cases cs host h with ⟨groups, rfl⟩ | hwritten
  · exact isReadable_ipv6 groups
  · exact isReadable_of_isWritten hwritten

/-! ### A host and a port that are read back -/

def portText (port : Option UInt16) : List Char :=
  match port with
  | some port => ':' :: Nat.toDigits 10 port.toNat
  | none => []

theorem readPort_toDigits (scheme : Scheme) (port : UInt16) :
    readPort scheme (Nat.toDigits 10 port.toNat) = .ok (if some port = scheme.defaultPort? then none else some port) := by
  have hne : (Nat.toDigits 10 port.toNat).isEmpty = false := by simp
  have hlt : ¬port.toNat ≥ 65536 := Nat.not_le.2 port.toNat_lt
  rw [readPort, hne, readDigits?_toDigits]
  simp [hlt]

theorem isHostChar_of_mem_portText (port : Option UInt16) : ∀ c ∈ portText port, IsHostChar c := by
  have hdigit : ∀ n < 10, isBlank (Nat.digitChar n) = false ∧ Nat.digitChar n ≠ '/' ∧ Nat.digitChar n ≠ '\\' ∧
      Nat.digitChar n ≠ '?' ∧ Nat.digitChar n ≠ '#' ∧ Nat.digitChar n ≠ '@' := by decide
  cases port with
  | none => simp [portText]
  | some port =>
    rw [portText, List.forall_mem_cons]
    refine ⟨⟨by decide, by decide⟩, fun c hc => ?_⟩
    obtain ⟨d, hd, rfl⟩ := exists_eq_digitChar (Nat.isDigit_of_mem_toDigits (by decide) (by decide) hc)
    exact ⟨(hdigit d hd).1, (hdigit d hd).2⟩

/-- The text of a host and a port. -/
theorem isHostChar_of_mem_text {host : Host} (h : host.IsReadable) (port : Option UInt16) :
    ∀ c ∈ host.render.toList ++ portText port, IsHostChar c :=
  List.forall_mem_append.2 ⟨h.isHostChar, isHostChar_of_mem_portText port⟩

/-- No host is written with nothing. -/
theorem render_ne_nil {host : Host} (hback : Host.ofDomain host.render.toList = .ok host) : host.render.toList ≠ [] := by
  intro hnil
  rw [hnil] at hback
  have hempty : Host.ofDomain [] = .error .emptyHost := by rfl
  rw [hempty] at hback
  contradiction

section

variable {scheme : Scheme} (hspecial : scheme.isSpecial = true) {host : Host} (h : host.IsReadable)
  (hback : Host.ofDomain host.render.toList = .ok host)
include hspecial h hback

theorem readHostPort_render (port : Option UInt16) (rest : List Char) :
    readHostPort scheme (host.render.toList ++ portText port) rest =
      .ok ⟨host, port.filter fun port => some port ≠ scheme.defaultPort?, rest⟩ := by
  have hhostText : hostText false (host.render.toList ++ portText port) = host.render.toList := by
    rw [h.hostText_eq]
    cases port <;> simp [portText, hostText]
  have hne : host.render.toList.isEmpty = false := List.isEmpty_eq_false_iff.2 (render_ne_nil hback)
  have hhost := isEmpty_ofDomain _ host hback
  simp only [readHostPort, hhostText, hspecial, hne, Bool.and_false, hback, List.drop_left]
  cases port with
  | none => rfl
  | some port =>
    have hdigits : '\\' ∉ Nat.toDigits 10 port.toNat := fun hmem =>
      (isHostChar_of_mem_portText (some port) _ (List.mem_cons_of_mem _ hmem)).ne_mark.2.1 rfl
    simp only [portText, takeWhile_ne_eq_self hdigits, dropWhile_ne_eq_nil hdigits, readPort_toDigits]
    simp only [Bool.false_eq_true, if_false, if_true, bind, Except.bind, pure, Except.pure, hhost, List.nil_append]
    by_cases hdefault : some port = scheme.defaultPort? <;> simp [hdefault, Option.filter]

/-- A host that is read back as itself is found as the host of a URL, and a port behind it as its port. -/
theorem read_render (port : Option UInt16) (rest : List Char) :
    Authority.read scheme (host.render.toList ++ portText port ++ '/' :: rest) =
      .ok ⟨host, port.filter fun port => some port ≠ scheme.defaultPort?, '/' :: rest⟩ := by
  have hchars := isHostChar_of_mem_text h port
  have hends : ∀ c ∈ host.render.toList ++ portText port, scheme.endsAuthority c = false := by
    intro c hc
    obtain ⟨hslash, hbackslash, hquestion, hnumber, -⟩ := (hchars c hc).ne_mark
    exact (endsAuthority_eq_false_iff hspecial c).2 ⟨hslash, hbackslash, hquestion, hnumber⟩
  obtain ⟨htext, hrest⟩ := cut_authority hends rest
  have hcredentials : '@' ∉ host.render.toList ++ portText port := fun hmem => (hchars '@' hmem).ne_mark.2.2.2.2 rfl
  have hcut : cutCredentials (host.render.toList ++ portText port) = (none, host.render.toList ++ portText port) := by
    rw [cutCredentials, if_neg (by simpa using hcredentials)]
  rw [Authority.read, htext, hrest, hcut]
  exact readHostPort_render hspecial h hback port _

end

end PodAttach.Url

import PodAttach.Program.Launch
import PodAttach.Proofs.Target.Faults
import PodAttach.Proofs.Url.Printing

/-!
# Messages that stay on their line

What is wrong with an address or with some options is told in words that quote them. A value is quoted with whatever does
not print as an escape, and a URL is shown as it is written, in printable ASCII. So no text that is handed in can break the
line of a message, or bring an escape sequence to the terminal through it.
-/

namespace PodAttach

open Text

/-! ### Characters -/

namespace Unicode

/-- The two blocks of control characters, with the delete character in front of the second. -/
def IsControl (c : Char) : Prop := c.toNat ≤ 0x1f ∨ 0x7f ≤ c.toNat ∧ c.toNat ≤ 0x9f

theorem not_isControl_of_isPrintable {c : Char} (h : isPrintable c = true) : ¬IsControl c := by
  unfold isPrintable at h
  split at h
  · have hle : 0x20 ≤ c.toNat := of_decide_eq_true h
    rintro (hlow | hhigh) <;> omega
  · split at h
    · contradiction
    · rintro (hlow | hhigh) <;> omega

theorem isPrintable_of_printsInAscii {c : Char} (h : Url.PrintsInAscii c) : isPrintable c = true := by
  rw [isPrintable, if_pos h.2]
  exact decide_eq_true h.1

end Unicode

open Unicode

/-- A text of which every character prints. -/
def IsPrintableText (s : String) : Prop := ∀ c ∈ s.toList, isPrintable c = true

theorem isPrintableText_append {s t : String} : IsPrintableText (s ++ t) ↔ IsPrintableText s ∧ IsPrintableText t := by
  rw [IsPrintableText, String.toList_append, List.forall_mem_append]
  rfl

theorem isPrintableText_of_isAsciiText {s : String} (h : Url.IsAsciiText s) : IsPrintableText s :=
  fun c hc => isPrintable_of_printsInAscii (h c hc)

/-! ### Quoted values -/

theorem printsInAscii_escapeCode (c : Char) : ∀ d ∈ escapeCode c, Url.PrintsInAscii d := by
  have hdigit : ∀ n < 16, Url.PrintsInAscii (Nat.digitChar n) := by decide
  rw [escapeCode, List.forall_mem_append, List.forall_mem_append]
  refine ⟨⟨by simp [Url.PrintsInAscii], ?_⟩, by simp [Url.PrintsInAscii]⟩
  intro d hd
  obtain ⟨n, hn, rfl⟩ := Url.exists_of_mem_toDigits (by decide) hd
  exact hdigit n hn

/-- A character stands for itself only if it prints; every escape is ASCII. -/
theorem isPrintable_of_mem_escapeChar (c : Char) : ∀ d ∈ escapeChar c, isPrintable d = true := by
  have hascii : ∀ {ds : List Char}, (∀ d ∈ ds, Url.PrintsInAscii d) → ∀ d ∈ ds, isPrintable d = true :=
    fun h d hd => isPrintable_of_printsInAscii (h d hd)
  unfold escapeChar
  iterate 6
    split
    · exact hascii (by simp [Url.PrintsInAscii])
  split
  · exact hascii (printsInAscii_escapeCode c)
  · next hprints =>
    simp only [Bool.or_eq_true, Bool.not_eq_true', not_or, Bool.not_eq_false] at hprints
    exact List.forall_mem_singleton.2 hprints.2

theorem isPrintableText_quote (s : String) : IsPrintableText (quote s) := by
  have hmark : isPrintable '"' = true := by decide
  rw [quote, IsPrintableText, String.toList_ofList, List.cons_append, List.forall_mem_cons, List.forall_mem_append,
    List.forall_mem_singleton]
  refine ⟨hmark, ?_, hmark⟩
  intro d hd
  obtain ⟨c, -, hc⟩ := List.mem_flatMap.1 hd
  exact isPrintable_of_mem_escapeChar c d hc

/-! ### Faults -/

namespace Target

/-- A fault of an address shows no URL but one that is written in printable ASCII. -/
def Fault.IsShowable : Fault → Prop
  | .invalidAddress (.noHost url) => url.IsPrinted
  | _ => True

theorem isAsciiText_name (part : Part) : Url.IsAsciiText part.name := by
  cases part <;> decide

theorem isAsciiText_faultMessage (fault : Url.Fault) : Url.IsAsciiText fault.message := by
  cases fault <;> decide

theorem Fault.IsShowable.isPrintableText_message {fault : Fault} (h : fault.IsShowable) : IsPrintableText fault.message := by
  cases fault with
  | missing part =>
    apply isPrintableText_of_isAsciiText
    show Url.IsAsciiText ("missing required field '" ++ part.name ++ "'")
    simp only [Url.isAsciiText_append]
    exact ⟨⟨by decide, isAsciiText_name part⟩, by decide⟩
  | missingNamespace =>
    apply isPrintableText_of_isAsciiText
    show Url.IsAsciiText "namespace is required for shell sessions"
    decide
  | invalid part value =>
    show IsPrintableText ("invalid value for '" ++ part.name ++ "': " ++ quote value)
    rw [isPrintableText_append]
    refine ⟨isPrintableText_of_isAsciiText ?_, isPrintableText_quote value⟩
    simp only [Url.isAsciiText_append]
    exact ⟨⟨by decide, isAsciiText_name part⟩, by decide⟩
  | invalidAddress fault =>
    apply isPrintableText_of_isAsciiText
    show Url.IsAsciiText ("invalid page address: " ++ fault.message)
    rw [Url.isAsciiText_append]
    refine ⟨by decide, ?_⟩
    cases fault with
    | malformed fault => exact isAsciiText_faultMessage fault
    | noHost url =>
      show Url.IsAsciiText ("'" ++ url.render ++ "' has no host")
      simp only [Url.isAsciiText_append]
      exact ⟨⟨by decide, Url.IsPrinted.isAsciiText_render h⟩, by decide⟩

/-- What is wrong with a description is nothing that an address is blamed for. -/
theorem isShowable_of_mem_faults {d : Description} {mode : Mode} {fault : Fault} (h : fault ∈ d.faults mode) :
    fault.IsShowable := by
  have habsent : ∀ {part value?}, fault ∈ absent part value? → fault.IsShowable := by
    intro part value? hmem
    cases value? with
    | some value => contradiction
    | none =>
      obtain rfl := List.mem_singleton.1 hmem
      trivial
  have hrejected : ∀ {part value?} {accepts : String → Prop} [DecidablePred accepts],
      fault ∈ rejected part accepts value? → fault.IsShowable := by
    intro part value? accepts _ hmem
    unfold rejected at hmem
    split at hmem
    · split at hmem
      · contradiction
      · obtain rfl := List.mem_singleton.1 hmem
        trivial
    · contradiction
  have hnamespace : fault ∈ namespaceFaults mode d.ns → fault.IsShowable := by
    intro hmem
    unfold namespaceFaults at hmem
    split at hmem
    · exact hrejected hmem
    · split at hmem
      · contradiction
      · obtain rfl := List.mem_singleton.1 hmem
        trivial
  have hoptions : fault ∈ optionFaults mode d.tail d.follow → fault.IsShowable := by
    intro hmem
    unfold optionFaults at hmem
    split at hmem
    · rcases List.mem_append.1 hmem with hmem | hmem <;> exact hrejected hmem
    · contradiction
  simp only [Description.faults, List.mem_append] at h
  rcases h with ((((hpod | hcontainer) | hns) | hoption) | hpod) | hcontainer
  · exact habsent hpod
  · exact habsent hcontainer
  · exact hnamespace hns
  · exact hoptions hoption
  · exact hrejected hpod
  · exact hrejected hcontainer

theorem isShowable_of_resolve {fields : Fields} {mode : Mode} {fault : Fault} (h : resolve fields mode = .error fault) :
    fault.IsShowable :=
  isShowable_of_mem_faults (List.mem_of_mem_head? (((reports_resolve fields mode).eq_error_iff fault).1 h))

end Target

/-! ### Addresses and orders -/

theorem Page.isShowable_of_locate {address : String} {fault : Target.AddressFault} (h : locate address = .error fault) :
    (Target.Fault.invalidAddress fault).IsShowable := by
  cases fault with
  | malformed fault => trivial
  | noHost url =>
    have hread : Url.read (trim address) = .ok url := by
      unfold locate at h
      cases hread : Url.read (trim address) with
      | ok other =>
        simp only [hread] at h
        split at h
        · cases h
        · cases h
          rfl
      | error fault =>
        cases fault with
        | relative =>
          simp only [hread] at h
          split at h <;> cases h
        | _ =>
          simp only [hread] at h
          cases h
    exact Url.isPrinted_read _ url hread

theorem Page.isShowable_of_read {style : AddressStyle} {address : String} {fault : Target.Fault}
    (h : read style address = .error fault) : fault.IsShowable := by
  unfold read at h
  split at h
  · next addressFault hlocate =>
    cases h
    exact isShowable_of_locate hlocate
  · cases h

theorem Page.isShowable_of_resolve {address : String} {style : AddressStyle} {mode : Mode} {fault : Target.Fault}
    (h : resolve address style mode = .error fault) : fault.IsShowable := by
  simp only [resolve, Target.bind_eq_error_iff] at h
  rcases h with hread | ⟨page, -, hresolve | ⟨target, -, hreturn⟩⟩
  · exact isShowable_of_read hread
  · exact Target.isShowable_of_resolve hresolve
  · cases hreturn

theorem Order.isShowable_of_page {order : Order} {settings : Settings} {fault : Target.Fault}
    (h : order.page settings = .error fault) : fault.IsShowable := by
  unfold page at h
  split at h
  · rcases Target.bind_eq_error_iff.1 h with hread | ⟨page, -, hreturn⟩
    · exact Page.isShowable_of_read hread
    · cases hreturn
  · cases h

theorem Order.isShowable_of_resolve {order : Order} {settings : Settings} {fault : Target.Fault}
    (h : order.resolve settings = .error fault) : fault.IsShowable := by
  simp only [resolve, Target.bind_eq_error_iff] at h
  rcases h with hpage | ⟨page, -, hresolve | ⟨target, -, hreturn⟩⟩
  · exact isShowable_of_page hpage
  · exact Target.isShowable_of_resolve hresolve
  · cases hreturn

/-- Whatever is handed in as an address or as options, what is wrong with it is told in characters that print; none of them
is a control. So the program's complaint is one line, and there is no escape sequence in it. -/
theorem isPrintable_of_refused (address : String) (style : AddressStyle) (mode : Mode) (order : Order)
    (settings : Settings) :
    (∀ fault, Page.resolve address style mode = .error fault →
      ∀ c ∈ fault.message.toList, isPrintable c = true ∧ ¬IsControl c) ∧
    ∀ fault, order.resolve settings = .error fault →
      (∀ c ∈ fault.message.toList, isPrintable c = true ∧ ¬IsControl c) ∧
      ∃ line, (Program.rejected (.target fault)).errors = line ++ "\n" ∧ ∀ c ∈ line.toList, ¬IsControl c := by
  have hprints : ∀ {s : String}, IsPrintableText s → ∀ c ∈ s.toList, isPrintable c = true ∧ ¬IsControl c :=
    fun h c hc => ⟨h c hc, not_isControl_of_isPrintable (h c hc)⟩
  refine ⟨fun fault h => ?_, fun fault h => ?_⟩
  · exact hprints (Page.isShowable_of_resolve h).isPrintableText_message
  · have hmessage := (Order.isShowable_of_resolve h).isPrintableText_message
    have hname : IsPrintableText "podbridge: " := isPrintableText_of_isAsciiText (by decide)
    have hline := hprints (isPrintableText_append.2 ⟨hname, hmessage⟩)
    exact ⟨hprints hmessage, "podbridge: " ++ fault.message, rfl, fun c hc => (hline c hc).2⟩

/-- An order whose pod would break the line and clear the screen. -/
def rudeOrder : Order where
  mode := .logs
  settingsPath := none
  host := none
  secure := false
  ns := none
  pod := some "a\n\x1b[2Jb"
  container := some "app"
  address := none
  style := none
  tail := none
  follow := none

/-- The same text in a query, and an address of no host with a control in each of its parts. -/
theorem isPrintable_of_refused_rude :
    Page.resolve "/logs?pod=a%0A%1B[2Jb&container=app" .query .logs = .error (.invalid .pod "a\n\x1b[2Jb") ∧
    (∃ url, Page.resolve "x:/\x1b\u009b?\x07#\x7f" .path .shell = .error (.invalidAddress (.noHost url)) ∧
      url.render = "x:/%1B%C2%9B?%07#%7F" ∧
      ∀ c ∈ (Target.Fault.invalidAddress (.noHost url)).message.toList, isPrintable c = true ∧ ¬IsControl c) ∧
    rudeOrder.resolve Settings.default = .error (.invalid .pod "a\n\x1b[2Jb") ∧
    ∃ line, (Program.rejected (.target (.invalid .pod "a\n\x1b[2Jb"))).errors = line ++ "\n" ∧
      ∀ c ∈ line.toList, ¬IsControl c := by
  have hquery : Page.resolve "/logs?pod=a%0A%1B[2Jb&container=app" .query .logs = .error (.invalid .pod "a\n\x1b[2Jb") := by rfl
  obtain ⟨url, hurl, hrender⟩ : ∃ url,
      Page.resolve "x:/\x1b\u009b?\x07#\x7f" .path .shell = .error (.invalidAddress (.noHost url)) ∧
        url.render = "x:/%1B%C2%9B?%07#%7F" := ⟨_, rfl, by decide⟩
  have horder : rudeOrder.resolve Settings.default = .error (.invalid .pod "a\n\x1b[2Jb") := by rfl
  obtain ⟨haddress, horders⟩ := isPrintable_of_refused "x:/\x1b\u009b?\x07#\x7f" .path .shell rudeOrder Settings.default
  exact ⟨hquery, ⟨url, hurl, hrender, haddress _ hurl⟩, horder, (horders _ horder).2⟩

end PodAttach

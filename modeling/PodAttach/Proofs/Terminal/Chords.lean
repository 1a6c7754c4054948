import PodAttach.Proofs.Text.Letters
import PodAttach.Terminal.Keyboard

/-!
# Control chords

A chord is a character together with control. What a chord sends is the same for a letter and its capital. Whether it
detaches is not: the log of a container is left with control and `c`, while control and a capital `C` goes on to a session
that relays nothing. That is the only chord whose meaning depends on the case.
-/

namespace PodAttach.Terminal

open Text

namespace Key

/-- A character with some modifiers. -/
def typed (c : Char) (modifiers : Modifiers) (motion : KeyMotion) : Key := ⟨.char c, modifiers, motion⟩

/-! ### What a chord sends -/

theorem controlChar?_toLower (c : Char) : controlChar? c.toLower = controlChar? c := by
  by_cases hupper : c.isUpper = true
  · have hlower : c.toLower.isLower = true := isLower_toLower hupper
    rw [controlChar?, controlChar?, Char.toLower_toLower_eq_toLower, if_pos hlower, if_pos hlower]
  · rw [Char.toLower_eq_of_not_isUpper hupper]

/-- A letter has the control character of its place in the alphabet. -/
theorem controlChar?_eq_etx_iff {c : Char} : controlChar? c = some '\x03' ↔ c = 'c' ∨ c = 'C' := by
  have hletter : c.toLower = 'c' ↔ c = 'c' ∨ c = 'C' := toLower_eq_iff (by decide)
  rw [← hletter]
  by_cases hlower : c.toLower.isLower = true
  · obtain ⟨hle, hge⟩ : 97 ≤ c.toLower.toNat ∧ c.toLower.toNat ≤ 122 := by
      simpa [Char.isLower, UInt32.le_iff_toNat_le, ← Char.toNat_val] using hlower
    have hvalid : (c.toLower.toNat % 32).isValidChar := .inl (by omega)
    rw [controlChar?, if_pos hlower, Option.some_inj, ← Char.toNat_inj, ← Char.toNat_inj, Char.toNat_ofNat, if_pos hvalid]
    show c.toLower.toNat % 32 = 3 ↔ c.toLower.toNat = 99
    omega
  · refine iff_of_false ?_ fun hc => hlower (by rw [hc]; rfl)
    rw [controlChar?, if_neg hlower]
    split_ifs <;> decide

theorem text?_of_ctrl {key : Key} (h : key.modifiers.ctrl = true) : key.text? = key.plain? := by
  simp [text?, h]

theorem text?_typed {modifiers : Modifiers} (h : modifiers.ctrl = true) (c : Char) (motion : KeyMotion) :
    (typed c modifiers motion).text? = (controlChar? c).map String.singleton := by
  rw [text?_of_ctrl h]
  exact if_pos h

theorem functionKey?_ne_etx (number : Nat) : functionKey? number ≠ some "\x03" := by
  unfold functionKey?
  split <;> decide

/-- End of text is what control and `c` send, in either case, and nothing else together with control does. -/
theorem text?_eq_etx_iff {modifiers : Modifiers} (h : modifiers.ctrl = true) (code : KeyCode) (motion : KeyMotion) :
    (⟨code, modifiers, motion⟩ : Key).text? = some "\x03" ↔ code = .char 'c' ∨ code = .char 'C' := by
  cases code with
  | char c =>
    have hetx : (typed c modifiers motion).text? = some "\x03" ↔ controlChar? c = some '\x03' := by
      have hsingle : "\x03" = String.singleton '\x03' := rfl
      rw [text?_typed h, hsingle, Option.map_eq_some_iff]
      simp only [String.singleton_inj, exists_eq_right]
    rw [KeyCode.char.injEq, KeyCode.char.injEq, ← controlChar?_eq_etx_iff]
    exact hetx
  | function number =>
    rw [text?_of_ctrl h]
    exact iff_of_false (functionKey?_ne_etx _) (by simp)
  | _ =>
    rw [text?_of_ctrl h]
    exact iff_of_false (by simp [plain?]) (by simp)

/-! ### Which chords detach -/

theorem isDetach_typed {modifiers : Modifiers} (h : modifiers.ctrl = true) (c : Char) (motion : KeyMotion) (mode : Mode) :
    (typed c modifiers motion).isDetach mode = true ↔ c = ']' ∨ c = '5' ∨ mode = .logs ∧ c = 'c' := by
  have hnone : modifiers ≠ .none := by
    rintro rfl
    cases h
  simp [typed, isDetach, h, hnone, or_assoc]

/-- No capital detaches, and `C` is the only one whose small letter does. -/
theorem isDetach_capital {modifiers : Modifiers} (h : modifiers.ctrl = true) {c : Char} (hupper : c.isUpper = true)
    (motion : KeyMotion) (mode : Mode) :
    (typed c modifiers motion).isDetach mode = false ∧
      ((typed c.toLower modifiers motion).isDetach mode = true ↔ c = 'C' ∧ mode = .logs) := by
  constructor
  · rw [Bool.eq_false_iff, ne_eq, isDetach_typed h]
    rintro (rfl | rfl | ⟨-, rfl⟩) <;> cases hupper
  · have hlower : c.toLower.isLower = true := isLower_toLower hupper
    have hbracket : c.toLower ≠ ']' := fun heq => by simp [heq] at hlower
    have hfive : c.toLower ≠ '5' := fun heq => by simp [heq] at hlower
    have hletter : c.toLower = 'c' ↔ c = 'C' := by
      rw [toLower_eq_iff (by decide), or_iff_right]
      · rfl
      · rintro rfl
        cases hupper
    rw [isDetach_typed h, hletter]
    simp only [hbracket, hfive, false_or, and_comm]

end Key

namespace Input

open Key

theorem action?_of_ne_release {key : Key} (h : key.motion ≠ .release) (mode : Mode) :
    (Input.key key).action? mode =
      if key.isDetach mode then some .detach else key.text?.map fun text => .forward (.input text) := by
  simp [action?, h]

/-- A chord means the same for a letter and its capital, except that a log is left with control and `c` but not with
control and `C`, whose end of text goes on instead. What is sent is the same for either. -/
theorem action?_toLower {modifiers : Modifiers} (h : modifiers.ctrl = true) (motion : KeyMotion) (mode : Mode) :
    (∀ c, (Input.key (typed c modifiers motion)).action? mode = (Input.key (typed c.toLower modifiers motion)).action? mode ↔
      ¬(c = 'C' ∧ mode = .logs ∧ motion ≠ .release)) ∧
    (∀ c, (typed c modifiers motion).text? = (typed c.toLower modifiers motion).text?) ∧
    (∀ code, (⟨code, modifiers, motion⟩ : Key).text? = some "\x03" ↔ code = .char 'c' ∨ code = .char 'C') ∧
    (motion ≠ .release →
      (Input.key (typed 'c' modifiers motion)).action? .logs = some .detach ∧
      (Input.key (typed 'C' modifiers motion)).action? .logs = some (.forward (.input "\x03"))) := by
  have htext : ∀ c, (typed c modifiers motion).text? = (typed c.toLower modifiers motion).text? := fun c => by
    rw [text?_typed h, text?_typed h, controlChar?_toLower]
  refine ⟨fun c => ?_, htext, fun code => text?_eq_etx_iff h code motion, fun hmotion => ⟨?_, ?_⟩⟩
  · by_cases hmotion : motion = .release
    · simp [action?, typed, hmotion]
    by_cases hupper : c.isUpper = true
    · obtain ⟨hcapital, hsmall⟩ := isDetach_capital h hupper motion mode
      rw [action?_of_ne_release hmotion, action?_of_ne_release hmotion, hcapital, if_neg Bool.false_ne_true, ← htext c]
      by_cases hlost : c = 'C' ∧ mode = .logs
      · rw [if_pos (hsmall.2 hlost)]
        refine iff_of_false (fun heq => ?_) (not_not.2 ⟨hlost.1, hlost.2, hmotion⟩)
        obtain ⟨text, -, hforward⟩ := Option.map_eq_some_iff.1 heq
        cases hforward
      · rw [if_neg (mt hsmall.1 hlost)]
        exact iff_of_true rfl fun ⟨hc, hmode, _⟩ => hlost ⟨hc, hmode⟩
    · rw [Char.toLower_eq_of_not_isUpper hupper]
      exact iff_of_true rfl fun ⟨hc, _⟩ => hupper (by rw [hc]; rfl)
  · rw [action?_of_ne_release hmotion, if_pos ((isDetach_typed h _ _ _).2 (.inr (.inr ⟨rfl, rfl⟩)))]
  · rw [action?_of_ne_release hmotion, (isDetach_capital h rfl motion .logs).1, text?_typed h]
    rfl

/-- With control alone, `d` and `D` mean the same to a log. -/
theorem action?_toLower_d :
    Modifiers.ctrl ⟨false, true, false, false, false, false⟩ = true ∧
      (Input.key (typed 'D' ⟨false, true, false, false, false, false⟩ .press)).action? .logs =
        (Input.key (typed 'd' ⟨false, true, false, false, false, false⟩ .press)).action? .logs :=
  ⟨rfl, ((action?_toLower rfl .press .logs).1 'D').2 (by simp)⟩

/-- A log is left with control and `c`, and not with control and `C`. -/
theorem action?_capital_c :
    let modifiers : Modifiers := ⟨false, true, false, false, false, false⟩
    (Input.key (typed 'C' modifiers .press)).action? .logs ≠ (Input.key (typed 'C'.toLower modifiers .press)).action? .logs ∧
      (typed 'C' modifiers .press).text? = some "\x03" ∧
      (Input.key (typed 'C' modifiers .press)).action? .logs = some (.forward (.input "\x03")) := by
  decide

end Input

end PodAttach.Terminal

import Mathlib.Data.List.TakeWhile
import PodAttach.Proofs.Terminal.Refusals

/-!
# The gates of a relay

Two gates decide what comes through a relay. One is shut by unsubscribing and stops what is relayed in either direction;
the other is shut by destroying the screen and stops every call on it. Neither is ever opened again. Whatever a relay is
asked for, and in whatever order, its screen gets the calls of what came before the screen was destroyed, of the relayed
ones only those from before the relay was unsubscribed, and the destruction itself, once and last.
-/

namespace PodAttach.Terminal

open Wire

/-! ### Operations -/

/-- What a relay can be asked for. -/
inductive Operation where
  | incoming (frame : Frame)
  | outgoing (event : Event)
  | write (data : String)
  | writeLine (line : String)
  | unsubscribe
  | destroy
deriving DecidableEq, Repr

namespace Operation

/-- The operation passes something on between the session and the screen. -/
def isRelayed : Operation → Bool
  | incoming _ => true
  | outgoing _ => true
  | _ => false

/-- The call on the screen that an operation comes to. -/
def call? (mode : Mode) : Operation → Option Call
  | incoming frame => (mode.decode frame).toOption.map Relay.showing
  | outgoing _ => none
  | write data => some (.write data)
  | writeLine line => some (.writeLine line)
  | unsubscribe => none
  | destroy => some .destroy

@[simp] theorem isRelayed_unsubscribe : unsubscribe.isRelayed = false := rfl

@[simp] theorem isRelayed_destroy : destroy.isRelayed = false := rfl

@[simp] theorem call?_unsubscribe (mode : Mode) : unsubscribe.call? mode = none := rfl

@[simp] theorem call?_destroy (mode : Mode) : destroy.call? mode = some .destroy := rfl

theorem eq_destroy_of_call? {mode : Mode} {op : Operation} (h : op.call? mode = some .destroy) : op = .destroy := by
  cases op with
  | incoming frame =>
    obtain ⟨output, -, hcall⟩ := Option.map_eq_some_iff.1 h
    cases output <;> cases hcall
  | destroy => rfl
  | _ => cases h

end Operation

namespace Relay

/-- What an operation leaves of the relay, and what it gives back. -/
def perform (relay : Relay) : Operation → Relay × Except Violation (Option String)
  | .incoming frame =>
    match relay.incoming frame with
    | .ok next => (next, .ok none)
    | .error violation => (relay, .error violation)
  | .outgoing event => (relay, relay.outgoing event)
  | .write data => (relay.write data, .ok none)
  | .writeLine line => (relay.writeLine line, .ok none)
  | .unsubscribe => (relay.unsubscribe, .ok none)
  | .destroy => (relay.destroy, .ok none)

/-- What operations leave of the relay, one after the other. -/
def run (relay : Relay) : List Operation → Relay
  | [] => relay
  | op :: ops => (relay.perform op).1.run ops

/-! ### What one operation does -/

/-- The call that comes through both gates. -/
def passed? (relay : Relay) (op : Operation) : Option Call :=
  if relay.isDestroyed || (op.isRelayed && !relay.isSubscribed) then none else op.call? relay.mode

theorem perform_fst (relay : Relay) (op : Operation) :
    (relay.perform op).1 =
      { mode := relay.mode
        screen := (relay.passed? op).elim relay.screen relay.screen.call
        isSubscribed := relay.isSubscribed && decide (op ≠ .unsubscribe)
        isDestroyed := relay.isDestroyed || decide (op = .destroy) } := by
  obtain ⟨mode, screen, subscribed, destroyed⟩ := relay
  cases op with
  | incoming frame =>
    cases subscribed with
    | false => simp [perform, incoming, passed?, Operation.isRelayed]
    | true =>
      cases hdecode : mode.decode frame <;> cases destroyed <;>
        simp [perform, incoming, passed?, Operation.isRelayed, Operation.call?, hdecode, Except.map, Except.toOption, call]
  | outgoing event => cases subscribed <;> cases destroyed <;> simp [perform, passed?, Operation.isRelayed, Operation.call?]
  | write data => cases destroyed <;> simp [perform, passed?, Operation.isRelayed, Operation.call?, call]
  | writeLine line => cases destroyed <;> simp [perform, passed?, Operation.isRelayed, Operation.call?, call]
  | unsubscribe => cases destroyed <;> simp [perform, passed?, Operation.isRelayed, Operation.call?, unsubscribe]
  | destroy => cases destroyed <;> simp [perform, passed?, Operation.isRelayed, Operation.call?, destroy, call]

@[simp] theorem mode_perform (relay : Relay) (op : Operation) : (relay.perform op).1.mode = relay.mode := by
  rw [perform_fst]

@[simp] theorem isSubscribed_perform (relay : Relay) (op : Operation) :
    (relay.perform op).1.isSubscribed = (relay.isSubscribed && decide (op ≠ .unsubscribe)) := by
  rw [perform_fst]

@[simp] theorem isDestroyed_perform (relay : Relay) (op : Operation) :
    (relay.perform op).1.isDestroyed = (relay.isDestroyed || decide (op = .destroy)) := by
  rw [perform_fst]

theorem screen_perform (relay : Relay) (op : Operation) :
    (relay.perform op).1.screen = (relay.passed? op).elim relay.screen relay.screen.call := by
  rw [perform_fst]

theorem calls_perform (relay : Relay) (op : Operation) :
    (relay.perform op).1.screen.calls = relay.screen.calls ++ (relay.passed? op).toList := by
  rw [screen_perform]
  cases relay.passed? op <;> simp

/-! ### What a history does -/

theorem isSubscribed_run (relay : Relay) (ops : List Operation) :
    (relay.run ops).isSubscribed = (relay.isSubscribed && decide (.unsubscribe ∉ ops)) := by
  induction ops generalizing relay with
  | nil => simp [run]
  | cons op ops ih =>
    rw [run, ih, isSubscribed_perform]
    by_cases hop : op = .unsubscribe <;> simp [hop, Ne.symm]

theorem isDestroyed_run (relay : Relay) (ops : List Operation) :
    (relay.run ops).isDestroyed = (relay.isDestroyed || decide (.destroy ∈ ops)) := by
  induction ops generalizing relay with
  | nil => simp [run]
  | cons op ops ih =>
    rw [run, ih, isDestroyed_perform]
    by_cases hop : op = .destroy <;> simp [hop, Ne.symm]

/-- A destroyed screen is left alone. -/
theorem screen_run {relay : Relay} (h : relay.isDestroyed = true) (ops : List Operation) :
    (relay.run ops).screen = relay.screen := by
  induction ops generalizing relay with
  | nil => rfl
  | cons op ops ih =>
    have hscreen : (relay.perform op).1.screen = relay.screen := by simp [screen_perform, passed?, h]
    rw [run, ih (by simp [h]), hscreen]

theorem IsKept.perform {P : Relay → Prop} (hkept : IsKept P) {relay : Relay} (op : Operation) (h : P relay) :
    P (relay.perform op).1 := by
  cases op with
  | incoming frame =>
    rw [Relay.perform]
    split
    · next hnext => exact hkept.incoming h hnext
    · exact h
  | outgoing event => exact h
  | write data => exact hkept.write data h
  | writeLine line => exact hkept.writeLine line h
  | unsubscribe => exact hkept.unsubscribe h
  | destroy => exact hkept.destroy h

theorem IsKept.run {P : Relay → Prop} (hkept : IsKept P) {relay : Relay} (ops : List Operation) (h : P relay) :
    P (relay.run ops) := by
  induction ops generalizing relay with
  | nil => exact h
  | cons op ops ih => exact ih (hkept.perform op h)

/-! ### The calls of a history -/

/-- What is asked for before the screen is destroyed. -/
def live (ops : List Operation) : List Operation := ops.takeWhile (· ≠ .destroy)

/-- What the gate of the subscription lets through: everything until the relay is unsubscribed, and from then on what is
not relayed. -/
def admitted (subscribed : Bool) (ops : List Operation) : List Operation :=
  let direct := fun op : Operation => !op.isRelayed
  if subscribed then ops.takeWhile (· ≠ .unsubscribe) ++ (ops.dropWhile (· ≠ .unsubscribe)).filter direct
  else ops.filter direct

/-- The destruction of the screen, if it is asked for. -/
def ending (ops : List Operation) : List Call := if .destroy ∈ ops then [.destroy] else []

theorem admitted_cons (subscribed : Bool) (op : Operation) (ops : List Operation) :
    admitted subscribed (op :: ops) =
      (if op.isRelayed && !subscribed then [] else [op]) ++ admitted (subscribed && decide (op ≠ .unsubscribe)) ops := by
  cases subscribed with
  | false => cases hrelayed : op.isRelayed <;> simp [admitted, hrelayed]
  | true => by_cases hop : op = .unsubscribe <;> simp [admitted, hop]

theorem mem_of_mem_admitted {subscribed : Bool} {op : Operation} {ops : List Operation} (h : op ∈ admitted subscribed ops) :
    op ∈ ops := by
  cases subscribed with
  | false => exact (List.mem_filter.1 h).1
  | true =>
    rw [← List.takeWhile_append_dropWhile (p := (· ≠ .unsubscribe)) (l := ops)]
    rcases List.mem_append.1 h with h | h
    · exact List.mem_append_left _ h
    · exact List.mem_append_right _ (List.mem_filter.1 h).1

theorem toList_passed? {relay : Relay} (h : relay.isDestroyed = false) (op : Operation) :
    (relay.passed? op).toList =
      (if op.isRelayed && !relay.isSubscribed then [] else [op]).filterMap (Operation.call? relay.mode) := by
  rw [passed?, h, Bool.false_or]
  split
  · rfl
  · cases hcall : op.call? relay.mode <;> simp [hcall]

/-- The screen gets what comes through the gates, in the order it is asked for, and its destruction last. -/
theorem calls_of_history {relay : Relay} (h : relay.isDestroyed = false) (ops : List Operation) :
    (relay.run ops).screen.calls =
      relay.screen.calls ++ (admitted relay.isSubscribed (live ops)).filterMap (Operation.call? relay.mode) ++ ending ops := by
  induction ops generalizing relay with
  | nil => simp [run, live, admitted, ending]
  | cons op ops ih =>
    by_cases hop : op = .destroy
    · subst hop
      rw [run, screen_run (by simp), calls_perform, toList_passed? h]
      simp [live, admitted, ending]
    · have hnext := @ih (relay.perform op).1 (by simp [h, hop])
      have hlive : live (op :: ops) = op :: live ops := List.takeWhile_cons_of_pos (by simp [hop])
      have hending : ending (op :: ops) = ending ops := by simp [ending, Ne.symm hop]
      rw [run, hnext, calls_perform, toList_passed? h, hlive, hending, admitted_cons, List.filterMap_append, mode_perform,
        isSubscribed_perform]
      simp only [List.append_assoc]

/-- A notice comes through after the relay is unsubscribed, and a frame does not. -/
example :
    let ops : List Operation := [.incoming (.text "one"), .unsubscribe, .incoming (.text "two"), .writeLine "left", .destroy,
      .write "late"]
    ((new (.new (.new fun _ => false)) .logs).run ops).screen.calls = [.writeLine "one", .writeLine "left", .destroy] := by
  decide

/-- A screen is destroyed once, if at all. -/
theorem count_destroy_of_history {screen : Screen} (h : .destroy ∉ screen.calls) (mode : Mode) (ops : List Operation) :
    ((new screen mode).run ops).screen.calls.count .destroy = if .destroy ∈ ops then 1 else 0 := by
  have hlive : .destroy ∉ (admitted true (live ops)).filterMap (Operation.call? mode) := by
    intro hmem
    obtain ⟨op, hop, hcall⟩ := List.mem_filterMap.1 hmem
    have hne : op ≠ .destroy := by simpa using List.mem_takeWhile_imp (mem_of_mem_admitted hop)
    exact hne (Operation.eq_destroy_of_call? hcall)
  have hending : (ending ops).count .destroy = if .destroy ∈ ops then 1 else 0 := by
    rw [ending]
    split <;> rfl
  have hcalls : ((new screen mode).run ops).screen.calls =
      screen.calls ++ (admitted true (live ops)).filterMap (Operation.call? mode) ++ ending ops := calls_of_history rfl ops
  rw [hcalls, List.count_append, List.count_append, List.count_eq_zero_of_not_mem h, List.count_eq_zero_of_not_mem hlive,
    hending, Nat.zero_add]

/-! ### The gates -/

/-- The operation makes the call on the screen, which shows what comes through of it. -/
structure Makes (relay : Relay) (op : Operation) (c : Call) : Prop where
  calls_eq : (relay.perform op).1.screen.calls = relay.screen.calls ++ [c]
  output_eq : (relay.perform op).1.screen.output =
    relay.screen.output ++ c.shown relay.screen.writer.refuses relay.screen.writer.attempts

theorem makes_of_passed? {relay : Relay} {op : Operation} {c : Call} (hscreen : relay.screen.isDestroyed = false)
    (h : relay.passed? op = some c) : relay.Makes op c := by
  have hcall : (relay.perform op).1.screen = relay.screen.call c := by rw [screen_perform, h, Option.elim_some]
  refine ⟨by rw [hcall, Screen.calls_call], ?_⟩
  rw [hcall, Screen.call, Screen.output, hscreen, if_neg Bool.false_ne_true, Screen.writeAll_texts]
  rfl

theorem perform_incoming_of_error {relay : Relay} {frame : Frame} {violation : Violation}
    (h : (relay.perform (.incoming frame)).2 = .error violation) : (relay.perform (.incoming frame)).1 = relay := by
  rw [perform] at h ⊢
  split at h
  · cases h
  · rfl

/-- What holds of a relay after any history, whichever writes are refused. Its screen got exactly what came through the
gates, and shows what was not refused of it; the gates are shut by what was asked for, and stay shut. -/
theorem gates_run (refuses : Nat → Bool) (mode : Mode) (ops : List Operation) :
    let relay := (new (.new (.new refuses)) mode).run ops
    (relay.isDestroyed ↔ .destroy ∈ ops) ∧ (relay.isSubscribed ↔ .unsubscribe ∉ ops) ∧
    relay.screen.isDestroyed = relay.isDestroyed ∧
    relay.screen.calls = (admitted true (live ops)).filterMap (Operation.call? mode) ++ ending ops ∧
    relay.screen.output = Call.allShown refuses 0 relay.screen.calls ∧
    relay.screen.calls.count .destroy ≤ 1 ∧
    (.destroy ∈ relay.screen.calls → ∀ later, (relay.run later).screen = relay.screen) ∧
    (∀ frame,
      (∃ call? : Option Call, (relay.perform (.incoming frame)).1.screen.calls = relay.screen.calls ++ call?.toList) ∧
      ∀ violation, (relay.perform (.incoming frame)).2 = .error violation → (relay.perform (.incoming frame)).1 = relay) ∧
    (.unsubscribe ∈ ops →
      (∀ event, relay.perform (.outgoing event) = (relay, .ok none)) ∧
      ∀ frame, relay.perform (.incoming frame) = (relay, .ok none)) ∧
    (.destroy ∉ ops → ∀ text, relay.Makes (.write text) (.write text) ∧ relay.Makes (.writeLine text) (.writeLine text)) ∧
    ∀ op, (relay.isDestroyed → (relay.perform op).1.isDestroyed) ∧
      (relay.isSubscribed = false → (relay.perform op).1.isSubscribed = false) := by
  intro relay
  have hdrawn : relay.IsDrawn refuses := (isKept_isDrawn refuses).run ops ⟨rfl, Screen.isDrawn_new refuses⟩
  have hdestroyed : relay.isDestroyed = true ↔ .destroy ∈ ops := by simp [relay, isDestroyed_run, new]
  have hsubscribed : relay.isSubscribed = true ↔ .unsubscribe ∉ ops := by simp [relay, isSubscribed_run, new]
  have hcount : relay.screen.calls.count .destroy = if .destroy ∈ ops then 1 else 0 :=
    count_destroy_of_history List.not_mem_nil mode ops
  refine ⟨hdestroyed, hsubscribed, hdrawn.isDestroyed_eq, calls_of_history rfl ops, hdrawn.screen.output_eq, ?_, ?_, ?_, ?_,
    ?_, ?_⟩
  · rw [hcount]
    split <;> decide
  · intro hcall
    have hop : .destroy ∈ ops := by
      by_contra hop
      rw [if_neg hop, List.count_eq_zero] at hcount
      exact hcount hcall
    exact screen_run (hdestroyed.2 hop)
  · exact fun frame => ⟨⟨_, calls_perform relay _⟩, fun _ => perform_incoming_of_error⟩
  · intro hop
    have hsub : relay.isSubscribed = false := by simpa [hop] using hsubscribed
    exact ⟨fun event => by rw [perform, outgoing, hsub]; rfl, fun frame => by rw [perform, incoming, hsub]; rfl⟩
  · intro hop text
    have hd : relay.isDestroyed = false := by simpa [hop] using hdestroyed
    have hscreen := hdrawn.isDestroyed_eq.trans hd
    exact ⟨makes_of_passed? hscreen (by simp [passed?, hd, Operation.isRelayed, Operation.call?]),
      makes_of_passed? hscreen (by simp [passed?, hd, Operation.isRelayed, Operation.call?])⟩
  · exact fun op => ⟨fun hd => by simp [hd], fun hs => by simp [hs]⟩

end Relay

end PodAttach.Terminal

import PodAttach.Proofs.Session.Directions
import PodAttach.Proofs.Terminal.Refusals

/-!
# A session whose screen refuses writes

Nothing comes back from a screen. What a session sends, the phases it passes through, how it ends and what it asks its
screen to show are the same whichever writes are refused; only what is shown differs, and by no more than the texts whose
own writes were refused and the line breaks behind such lines.
-/

namespace PodAttach

open Terminal

namespace Session

/-! ### The relay of a session -/

section

variable {P : Relay → Prop} (hkept : Relay.IsKept P) {session : Session}
include hkept

omit hkept in
theorem kept_onSignal {signal : Signal} {act : Session → Session} (h : P session.relay)
    (hact : ∀ phase, P (act { session with phase }).relay) : P (session.onSignal signal act).relay := by
  unfold onSignal
  split
  · exact hact _
  · exact h

theorem kept_fail (reason : String) (h : P session.relay) : P (session.fail reason).relay :=
  kept_onSignal h fun _ =>
    hkept.unsubscribe (hkept.destroy (hkept.writeLine _ (hkept.writeLine _ (hkept.writeLine _ h))))

theorem kept_send (frame : String) (h : P session.relay) : P (session.send frame).relay := by
  unfold send
  dsimp only
  split
  · exact h
  · exact kept_fail hkept _ h

theorem kept_onCleanClose (h : P session.relay) : P session.onCleanClose.relay := by
  unfold onCleanClose
  split
  · exact kept_fail hkept _ h
  · refine kept_onSignal h fun phase => hkept.unsubscribe ?_
    split
    · exact hkept.writeLine _ (hkept.writeLine _ h)
    · exact hkept.writeLine _ h

theorem kept_onTerminal (event : Event) (h : P session.relay) : P (session.onTerminal event).relay := by
  unfold onTerminal
  split
  · split
    · exact kept_send hkept _ h
    · exact h
    · exact h
  · exact h

/-- What every operation of a relay keeps, every step of its session keeps. -/
theorem kept_step (step : Step) (h : P session.relay) : P (session.step step).relay := by
  match step with
  | .connect =>
    refine kept_onSignal h fun phase => ?_
    split
    · exact hkept.write _ h
    · exact h
  | .link .opened =>
    refine kept_onSignal h fun phase => ?_
    split
    · exact kept_send hkept _ (hkept.write _ h)
    · exact h
  | .link (.frame frame) =>
    change P (session.onFrame frame).relay
    unfold onFrame
    split
    · split
      · next hnext => exact hkept.incoming h hnext
      · exact h
    · exact h
  | .link (.closed true _) => exact kept_onCleanClose hkept h
  | .link (.closed false _) => exact kept_fail hkept _ h
  | .link (.failed _) => exact kept_fail hkept _ h
  | .terminal event => exact kept_onTerminal hkept event h

theorem kept_run (steps : List Step) (h : P session.relay) : P (session.run steps).relay := by
  induction steps generalizing session with
  | nil => exact h
  | cons step steps ih => exact ih (kept_step hkept step h)

end

/-! ### Whole runs -/

/-- What a session sends, and what it asks its screen to show. -/
def conduct (session : Session) : SendingSide × List Call := (session.sendingSide, session.screen.calls)

theorem isSide_conduct : IsSide Sound (fun _ => true) conduct where
  fits_step step hs := hs.step step
  untouched := by simp
  carried := by
    intro session other step hs ho heq
    obtain ⟨hside, hcalls⟩ := Prod.mk.inj heq
    obtain ⟨htarget, hphase, hlink, -⟩ := SendingSide.mk.inj hside
    have hrefusal : session.refusal? step = other.refusal? step := by rw [refusal?, refusal?, htarget, hphase, hlink]
    refine Prod.ext (isSide_sendingSide.carried step hs ho hside) ?_
    change (session.step step).screen.calls = (other.step step).screen.calls
    rw [(effect_step step hs).calls_eq, (effect_step step ho).calls_eq, hcalls, htarget, hphase, hrefusal]

/-- Refused writes stay on the screen. Whichever they are, a run sends the same, asks for the same to be shown, passes
through the same phases and comes to the same end, after each of its steps. The screen shows what came through of the
calls: a text is missing if its own write was refused, and a line break also if the line in front of it is. -/
theorem output_run (target : Target) (url : AttachUrl) (link : Link) (refuses other : Nat → Bool) (steps : List Step) :
    let start refuses := new target url link (.new (.new refuses))
    outline conduct (start refuses) steps = outline conduct (start other) steps ∧
      ((start refuses).run steps).conduct = ((start other).run steps).conduct ∧
      ((start refuses).run steps).screen.output =
        Call.allShown refuses 0 ((start refuses).run steps).screen.calls := by
  intro start
  have hsound : ∀ refuses, (start refuses).Sound := fun refuses => sound_new target url link (.new (.new refuses))
  obtain ⟨hrun, houtline⟩ := isSide_conduct.run_filter (hsound refuses) (hsound other) rfl steps
  have hall : ∀ {α : Type} (xs : List α), xs.filter (fun _ => true) = xs := fun xs => List.filter_eq_self.2 (by simp)
  rw [hall] at hrun
  rw [hall, hall] at houtline
  have hdrawn : (start refuses).relay.IsDrawn refuses := ⟨rfl, Screen.isDrawn_new refuses⟩
  exact ⟨houtline, hrun, (kept_run (Relay.isKept_isDrawn refuses) steps hdrawn).screen.output_eq⟩

end Session

end PodAttach

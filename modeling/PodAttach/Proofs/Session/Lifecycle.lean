import PodAttach.Proofs.Session.Showing

/-!
# The life of a session

What a session holds besides its phase keeps step with it: its relay is subscribed until the session is closed, and a
reason for failing is on record exactly if the screen was given up, which happens once at most. A closed session, and an
idle one that is not told to connect, are left as they are by every step.
-/

namespace PodAttach

open Terminal Wire

namespace Session

/-- An idle session waits for nothing but to connect. -/
theorem step_of_idle {session : Session} (hp : session.phase = .idle) {step : Step} (h : step ≠ .connect) :
    session.step step = session := by
  have hfail : ∀ reason, session.fail reason = session := fun reason => fail_of_not_isLive (by rw [hp]; rfl)
  match step with
  | .connect => exact absurd rfl h
  | .link .opened => simp [Session.step, onLink, onOpened, onSignal, Phase.next?, hp]
  | .link (.frame frame) => simp [Session.step, onLink, onFrame, Phase.acceptsInput, hp]
  | .link (.closed true reason) => simp [Session.step, onLink, onCleanClose, onSignal, Phase.next?, hp]
  | .link (.closed false reason) => exact hfail (lossReason reason)
  | .link (.failed reason) => exact hfail reason
  | .terminal event => simp [Session.step, onTerminal, Phase.acceptsInput, hp]

/-! ### Giving the screen up -/

theorem destroy_not_mem_prologue (target : Target) (history : List (Phase × Step)) :
    .destroy ∉ prologue target history := by
  unfold prologue
  split
  · simp
  · split <;> split <;> simp

theorem destroy_not_mem_body (mode : Mode) (history : List (Phase × Step)) : .destroy ∉ body mode history := by
  intro hmem
  obtain ⟨entry, -, hcall⟩ := List.mem_filterMap.1 hmem
  unfold entryCall? at hcall
  split at hcall
  · next frame =>
    rw [frameCall?_eq] at hcall
    split at hcall
    · next output _ => cases output <;> simp [Relay.showing] at hcall
    · contradiction
  · contradiction

/-- The outcome is a failure exactly if a reason is on record. -/
theorem Sound.count_destroy_epilogue {session : Session} (hs : session.Sound) (mode : Mode) :
    (epilogue mode session.outcome).count .destroy = if session.failure.isSome then 1 else 0 := by
  cases hf : session.failure with
  | none =>
    have hending : session.outcome = .closed ∨ session.outcome = .detached := by
      unfold outcome
      cases session.phase <;> simp [hf]
    rcases hending with ho | ho
    · rw [ho]
      cases mode <;> rfl
    · rw [ho]
      rfl
  | some reason =>
    have hp := hs.phase_of_isDestroyed (by rw [hs.isDestroyed_eq, hf]; rfl)
    have ho : session.outcome = .failed reason := by simp [outcome, hp, hf]
    simp [ho, epilogue]

theorem count_destroy_run (target : Target) (url : AttachUrl) (link : Link) (writer : Writer) (steps : List Step) :
    let session := (new target url link (.new writer)).run steps
    session.screen.calls.count .destroy = if session.failure.isSome then 1 else 0 := by
  intro session
  have hsound : session.Sound := (sound_new target url link (.new writer)).run steps
  have hcalls : session.screen.calls = _ := calls_run_new target url link (.new writer) steps
  have hprologue := destroy_not_mem_prologue target ((new target url link (.new writer)).history steps)
  have hbody := destroy_not_mem_body target.mode ((new target url link (.new writer)).history steps)
  rw [hcalls, List.count_append, List.count_append, List.count_append, List.count_eq_zero_of_not_mem hprologue,
    List.count_eq_zero_of_not_mem hbody, hsound.count_destroy_epilogue]
  exact Nat.zero_add _

/-- What holds of a session between any two steps, whatever the link does. -/
theorem invariant_run (target : Target) (url : AttachUrl) (link : Link) (writer : Writer) (steps : List Step) :
    let start := new target url link (.new writer)
    let session := start.run steps
    session.phase ≠ .erroring ∧
    (session.failure.isSome ↔ .destroy ∈ session.screen.calls) ∧
    (session.failure.isSome ↔ session.relay.isDestroyed) ∧
    (session.failure.isSome → session.phase = .closed) ∧
    (session.relay.isSubscribed ↔ session.phase ≠ .closed) ∧
    session.screen.calls.count .destroy ≤ 1 ∧
    ((start.phases steps).destutter (· ≠ ·) <+: [.idle, .connecting, .opened, .closed] ∨
      (start.phases steps).destutter (· ≠ ·) <+: [.idle, .connecting, .closed]) ∧
    ∀ step, session.phase = .closed ∨ session.phase = .idle ∧ step ≠ .connect → session.step step = session := by
  intro start session
  have hstart : start.Sound := sound_new target url link (.new writer)
  have hs : session.Sound := hstart.run steps
  have hcount : session.screen.calls.count .destroy = if session.failure.isSome then 1 else 0 :=
    count_destroy_run target url link writer steps
  refine ⟨hs.phase_ne_erroring, ?_, ?_, ?_, hs.isSubscribed_iff, ?_, ?_, ?_⟩
  · rw [← List.count_pos_iff, hcount]
    cases session.failure.isSome <;> simp
  · rw [hs.isDestroyed_eq]
  · intro hfailed
    exact hs.phase_of_isDestroyed (hs.isDestroyed_eq.trans hfailed)
  · rw [hcount]
    split <;> omega
  · obtain ⟨life, hlife, hprefix⟩ := destutter_phases hstart steps
    have hlives : start.phase.lives = [[.idle, .connecting, .opened, .closed], [.idle, .connecting, .closed]] := rfl
    simp only [hlives, List.mem_cons, List.not_mem_nil, or_false] at hlife
    rcases hlife with rfl | rfl
    · exact .inl hprefix
    · exact .inr hprefix
  · rintro step (hp | ⟨hp, hne⟩)
    · exact step_of_closed hp step
    · exact step_of_idle hp hne

end Session

end PodAttach

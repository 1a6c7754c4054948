import PodAttach.Session.Basic
import PodAttach.Proofs.Terminal.Relay

/-!
# What a step does to a session

A step is told by what it reads of the session: the mode, the phase, and whether the link will refuse a frame. From these
follow the frame that the step calls for, the calls it makes on the screen, the phase it leads to, and how it ends the
session, if it does. The rest of the theory knows steps only by these four.
-/

namespace PodAttach

open Terminal Wire

/-- The connection is being made, or it is there; only then can it fail. -/
def Phase.isLive : Phase → Bool
  | .connecting => true
  | .opened => true
  | _ => false

/-- The frame of an event, if it calls for one: input always does, a size only if both its dimensions are positive. -/
def Terminal.Event.frame? : Event → Option String
  | .input data => some (Message.stdin data).encode
  | .resize cols rows => if cols = 0 ∨ rows = 0 then none else some (Message.resize cols rows).encode

theorem Mode.encode_logs (event : Event) : Mode.logs.encode event = .ok none := rfl

theorem Mode.encode_shell_of_frame?_eq_some {event : Event} {frame : String} (h : event.frame? = some frame) :
    Mode.shell.encode event = .ok (some frame) := by
  cases event with
  | input data =>
    rw [← h]
    rfl
  | resize cols rows =>
    simp only [Event.frame?] at h
    split at h
    · contradiction
    · next hz =>
      rw [← h, Mode.encode, Mode.toMessage, Message.sized, if_neg hz]
      rfl

theorem Mode.encode_shell_of_frame?_eq_none {event : Event} (h : event.frame? = none) :
    ∃ violation, Mode.shell.encode event = .error violation := by
  cases event with
  | input data => contradiction
  | resize cols rows =>
    simp only [Event.frame?] at h
    split at h
    · next hz =>
      rw [Mode.encode, Mode.toMessage, Message.sized, if_pos hz]
      exact ⟨_, rfl⟩
    · contradiction

namespace Session

def unopenedReason : String := "connection closed before it opened"

def lossReason (reason : String) : String := if reason = "" then "connection lost" else reason

/-! ### The four tables -/

def Step.frame? (mode : Mode) (phase : Phase) : Step → Option String
  | .link .opened => if mode = .shell ∧ phase = .connecting then some Message.priming.encode else none
  | .terminal event => if mode = .shell ∧ phase = .opened then event.frame? else none
  | _ => none

/-- Why the frame that a step calls for will be refused, if it will be. -/
def refusal? (session : Session) (step : Step) : Option String :=
  (step.frame? session.target.mode session.phase).bind fun _ => session.link.refusal

/-- Only the opening and the events of an open session make frames due. -/
theorem opened_of_frame? {mode : Mode} {phase : Phase} {step : Step} {frame : String}
    (h : step.frame? mode phase = some frame) : phase = .opened ∨ phase = .connecting ∧ step = .link .opened := by
  unfold Step.frame? at h
  split at h <;> simp_all

/-- The phase after a step whose frame may be refused. -/
def Step.phaseAfter (phase : Phase) (refusal : Option String) : Step → Phase
  | .connect => if phase = .idle then .connecting else phase
  | .link .opened => if phase = .connecting then if refusal.isSome then .closed else .opened else phase
  | .link (.frame _) => phase
  | .link (.closed _ _) => if phase.isLive then .closed else phase
  | .link (.failed _) => if phase.isLive then .closed else phase
  | .terminal _ => if refusal.isSome then .closed else phase

def failureCalls (reason : String) : List Call :=
  [.writeLine "", .writeLine (failureNotice reason), .writeLine restartNotice, .destroy]

def Step.calls (target : Target) (phase : Phase) (refusal : Option String) : Step → List Call
  | .connect =>
    if phase = .idle ∧ target.mode = .shell then [.write (connectingNotice target)] else []
  | .link .opened =>
    if phase = .connecting ∧ target.mode = .shell then
      .write "\r" :: (refusal.map failureCalls).getD []
    else []
  | .link (.frame frame) =>
    if phase = .opened then
      match target.mode.decode frame with
      | .ok output => [Relay.showing output]
      | .error _ => []
    else []
  | .link (.closed true _) =>
    match phase with
    | .connecting => failureCalls unopenedReason
    | .opened => .writeLine "" :: if target.mode = .shell then [.writeLine peerClosedNotice] else []
    | _ => []
  | .link (.closed false reason) => if phase.isLive then failureCalls (lossReason reason) else []
  | .link (.failed reason) => if phase.isLive then failureCalls reason else []
  | .terminal _ => (refusal.map failureCalls).getD []

/-- How a step ends the session, if it does. Only a live session can be ended. -/
def Step.ending? (phase : Phase) (refusal : Option String) : Step → Option Outcome
  | .connect => none
  | .link .opened => refusal.map .failed
  | .link (.frame _) => none
  | .link (.closed true _) =>
    match phase with
    | .connecting => some (.failed unopenedReason)
    | .opened => some .closed
    | _ => none
  | .link (.closed false reason) => if phase.isLive then some (.failed (lossReason reason)) else none
  | .link (.failed reason) => if phase.isLive then some (.failed reason) else none
  | .terminal _ => refusal.map .failed

/-! ### What holds between steps -/

/-- The states in which a session is left by every step. -/
structure Sound (session : Session) : Prop where
  mode_eq : session.relay.mode = session.target.mode
  isSubscribed_iff : session.relay.isSubscribed = true ↔ session.phase ≠ .closed
  phase_of_isDestroyed : session.relay.isDestroyed = true → session.phase = .closed
  isDestroyed_eq : session.relay.isDestroyed = session.failure.isSome
  phase_ne_erroring : session.phase ≠ .erroring

theorem sound_new (target : Target) (url : AttachUrl) (link : Link) (screen : Screen) :
    (new target url link screen).Sound where
  mode_eq := rfl
  isSubscribed_iff := by simp [new, Relay.new]
  phase_of_isDestroyed := by simp [new, Relay.new]
  isDestroyed_eq := rfl
  phase_ne_erroring := by simp [new]

structure Effect (session : Session) (step : Step) (next : Session) : Prop where
  target_eq : next.target = session.target
  link_eq : next.link = ((step.frame? session.target.mode session.phase).map session.link.send).getD session.link
  phase_eq : next.phase = step.phaseAfter session.phase (session.refusal? step)
  calls_eq : next.screen.calls =
    session.screen.calls ++ step.calls session.target session.phase (session.refusal? step)
  outcome_eq : next.outcome = (step.ending? session.phase (session.refusal? step)).getD session.outcome
  sound : next.Sound

theorem Effect.refl {session : Session} {step : Step} (hs : session.Sound)
    (hframe : step.frame? session.target.mode session.phase = none)
    (hphase : step.phaseAfter session.phase none = session.phase)
    (hcalls : step.calls session.target session.phase none = [])
    (hending : step.ending? session.phase none = none) : session.Effect step session := by
  have hrefusal : session.refusal? step = none := by simp [refusal?, hframe]
  refine ⟨rfl, ?_, ?_, ?_, ?_, hs⟩
  · simp [hframe]
  · rw [hrefusal, hphase]
  · rw [hrefusal, hcalls, List.append_nil]
  · rw [hrefusal, hending, Option.getD_none]

theorem outcome_of_phase_ne_closed {session : Session} (h : session.phase ≠ .closed) :
    session.outcome = .detached := by
  unfold outcome
  split
  · next hp _ => exact absurd hp h
  · next hp _ => exact absurd hp h
  · rfl

theorem phase_eq_closed_of_outcome_ne {session : Session} (h : session.outcome ≠ .detached) :
    session.phase = .closed :=
  Decidable.byContradiction fun hp => h (outcome_of_phase_ne_closed hp)

theorem isDestroyed_eq_false {session : Session} (hs : session.Sound) (h : session.phase ≠ .closed) :
    session.relay.isDestroyed = false := by
  rw [Bool.eq_false_iff]
  exact fun hd => h (hs.phase_of_isDestroyed hd)

theorem failure_eq_none {session : Session} (hs : session.Sound) (h : session.phase ≠ .closed) :
    session.failure = none := by
  have hd := isDestroyed_eq_false hs h
  rw [hs.isDestroyed_eq] at hd
  simpa using hd

theorem phase_ne_closed_of_isLive {phase : Phase} (h : phase.isLive = true) : phase ≠ .closed := by
  rintro rfl
  simp [Phase.isLive] at h

/-! ### Failing -/

def failed (session : Session) (reason : String) : Session :=
  { session with phase := .closed, failure := some reason, relay := tearDown reason session.relay }

theorem fail_of_isLive {session : Session} {reason : String} (h : session.phase.isLive = true) :
    session.fail reason = session.failed reason := by
  unfold fail onSignal
  cases hp : session.phase <;> simp [hp, Phase.isLive] at h <;>
    simp [Phase.next?, Phase.after, mapRelay, failed]

theorem fail_of_not_isLive {session : Session} {reason : String} (h : session.phase.isLive = false) :
    session.fail reason = session := by
  unfold fail onSignal
  cases hp : session.phase <;> simp [hp, Phase.isLive] at h <;> simp [Phase.next?]

theorem mode_tearDown (reason : String) (relay : Relay) : (tearDown reason relay).mode = relay.mode := by
  simp [tearDown]

theorem calls_tearDown {relay : Relay} (reason : String) (h : relay.isDestroyed = false) :
    (tearDown reason relay).screen.calls = relay.screen.calls ++ failureCalls reason := by
  simp [tearDown, Relay.calls_destroy, Relay.calls_call, h, failureCalls]

theorem sound_failed {session : Session} (reason : String) (hs : session.Sound) : (session.failed reason).Sound where
  mode_eq := (mode_tearDown reason session.relay).trans hs.mode_eq
  isSubscribed_iff := by simp [failed, tearDown, Relay.unsubscribe]
  phase_of_isDestroyed := fun _ => rfl
  isDestroyed_eq := by simp [failed, tearDown]
  phase_ne_erroring := by simp [failed]

theorem calls_failed {session : Session} (reason : String) (hs : session.Sound) (h : session.phase.isLive = true) :
    (session.failed reason).screen.calls = session.screen.calls ++ failureCalls reason :=
  calls_tearDown reason (isDestroyed_eq_false hs (phase_ne_closed_of_isLive h))

/-- A report that ends the session if it is live, for a reason that depends on nothing else. -/
theorem effect_fail {session : Session} {step : Step} {reason : String} (hs : session.Sound)
    (hframe : step.frame? session.target.mode session.phase = none)
    (hphase : step.phaseAfter session.phase none = if session.phase.isLive then .closed else session.phase)
    (hcalls : step.calls session.target session.phase none =
      if session.phase.isLive then failureCalls reason else [])
    (hending : step.ending? session.phase none = if session.phase.isLive then some (.failed reason) else none) :
    session.Effect step (session.fail reason) := by
  have hrefusal : session.refusal? step = none := by simp [refusal?, hframe]
  cases hl : session.phase.isLive with
  | false =>
    rw [fail_of_not_isLive hl]
    simp only [hl, Bool.false_eq_true, if_false] at hphase hcalls hending
    exact Effect.refl hs hframe hphase hcalls hending
  | true =>
    rw [fail_of_isLive hl]
    simp only [hl, if_true] at hphase hcalls hending
    refine ⟨rfl, ?_, ?_, ?_, ?_, sound_failed reason hs⟩
    · simp [hframe, failed]
    · rw [hrefusal, hphase]
      rfl
    · rw [hrefusal, hcalls]
      exact calls_failed reason hs hl
    · rw [hrefusal, hending]
      rfl

/-! ### Sending -/

/-- A frame is taken by the link, or ends the session. The step is one that calls for this frame and leads nowhere else. -/
theorem effect_send {session before : Session} {step : Step} {frame : String} (shown : List Call)
    (hs : before.Sound) (hopen : before.phase = .opened) (htarget : before.target = session.target)
    (hlink : before.link = session.link) (hcalls : before.screen.calls = session.screen.calls ++ shown)
    (houtcome : session.outcome = .detached)
    (hframe : step.frame? session.target.mode session.phase = some frame)
    (hphase : ∀ refusal, step.phaseAfter session.phase refusal = if refusal.isSome then .closed else .opened)
    (hstep : ∀ refusal, step.calls session.target session.phase refusal =
      shown ++ (refusal.map failureCalls).getD [])
    (hending : ∀ refusal, step.ending? session.phase refusal =
      refusal.map .failed) :
    session.Effect step (before.send frame) := by
  have hrefusal : session.refusal? step = session.link.refusal := by simp [refusal?, hframe]
  have hsent : ({ before with link := before.link.send frame } : Session).Sound := ⟨hs.1, hs.2, hs.3, hs.4, hs.5⟩
  unfold send
  rw [hlink]
  cases hr : session.link.refusal with
  | none =>
    refine ⟨htarget, ?_, ?_, ?_, ?_, hlink ▸ hsent⟩
    · simp [hframe]
    · simp [hrefusal, hr, hphase, hopen]
    · rw [hrefusal, hr, hstep, Option.map_none, Option.getD_none, List.append_nil]
      exact hcalls
    · rw [hrefusal, hr, hending, Option.map_none, Option.getD_none, houtcome]
      exact outcome_of_phase_ne_closed (by simp [hopen])
  | some reason =>
    have hl : ({ before with link := session.link.send frame } : Session).phase.isLive = true := by
      rw [hopen]
      rfl
    dsimp only
    rw [fail_of_isLive hl]
    refine ⟨htarget, ?_, ?_, ?_, ?_, sound_failed _ (hlink ▸ hsent)⟩
    · simp [hframe, failed]
    · simp [hrefusal, hr, hphase, failed]
    · rw [calls_failed _ (hlink ▸ hsent) hl, hrefusal, hr, hstep, ← List.append_assoc, ← hcalls]
      rfl
    · rw [hrefusal, hr, hending]
      rfl

/-! ### One step at a time -/

theorem effect_connect {session : Session} (hs : session.Sound) : session.Effect .connect session.connect := by
  unfold connect onSignal
  cases hp : session.phase with
  | idle =>
    have hd := isDestroyed_eq_false hs (by simp [hp])
    have hsub : session.relay.isSubscribed = true := hs.isSubscribed_iff.2 (by simp [hp])
    have hfail := failure_eq_none hs (by simp [hp])
    simp only [Phase.next?]
    cases hm : session.target.mode with
    | logs =>
      rw [if_neg (by simp [isShell, hm])]
      refine ⟨rfl, rfl, ?_, ?_, ?_, ⟨hs.mode_eq, ?_, ?_, ?_, ?_⟩⟩
      all_goals simp [Step.phaseAfter, Step.calls, Step.ending?, outcome, screen, hp, hm, hsub, hd, hfail]
    | shell =>
      rw [if_pos (by simp [isShell, hm])]
      refine ⟨rfl, rfl, ?_, ?_, ?_, ⟨?_, ?_, ?_, ?_, ?_⟩⟩
      all_goals simp [Step.phaseAfter, Step.calls, Step.ending?, outcome, screen, mapRelay, Relay.calls_call, hs.mode_eq, hp,
        hm, hsub, hd, hfail]
  | _ => exact Effect.refl hs rfl (by simp [Step.phaseAfter, hp]) (by simp [Step.calls, hp]) rfl

theorem effect_onOpened {session : Session} (hs : session.Sound) :
    session.Effect (.link .opened) session.onOpened := by
  unfold onOpened onSignal
  cases hp : session.phase with
  | connecting =>
    have hd := isDestroyed_eq_false hs (by simp [hp])
    have hsub : session.relay.isSubscribed = true := hs.isSubscribed_iff.2 (by simp [hp])
    have hfail := failure_eq_none hs (by simp [hp])
    simp only [Phase.next?]
    cases hm : session.target.mode with
    | logs =>
      rw [if_neg (by simp [isShell, hm])]
      refine ⟨rfl, ?_, ?_, ?_, ?_, ⟨hs.mode_eq, ?_, ?_, ?_, ?_⟩⟩
      all_goals simp [Step.frame?, Step.phaseAfter, Step.calls, Step.ending?, refusal?, outcome, screen, hp, hm, hsub, hd,
        hfail]
    | shell =>
      rw [if_pos (by simp [isShell, hm])]
      refine effect_send [.write "\r"] ⟨?_, ?_, ?_, ?_, ?_⟩ rfl rfl rfl ?_ ?_ ?_ ?_ ?_ fun _ => rfl
      all_goals simp [Step.frame?, Step.phaseAfter, Step.calls, outcome, screen, mapRelay, Relay.calls_call, hs.mode_eq, hp,
        hm, hsub, hd, hfail]
  | _ =>
    exact Effect.refl hs (by simp [Step.frame?, hp]) (by simp [Step.phaseAfter, hp]) (by simp [Step.calls, hp]) rfl

theorem effect_onFrame {session : Session} (frame : Frame) (hs : session.Sound) :
    session.Effect (.link (.frame frame)) (session.onFrame frame) := by
  unfold onFrame
  by_cases hp : session.phase = .opened
  · have hd := isDestroyed_eq_false hs (by simp [hp])
    have hsub : session.relay.isSubscribed = true := hs.isSubscribed_iff.2 (by simp [hp])
    rw [if_pos (by simp [Phase.acceptsInput, hp]), Relay.incoming_of_isSubscribed frame hsub, hs.mode_eq]
    have hfail := failure_eq_none hs (by simp [hp])
    cases hdec : session.target.mode.decode frame with
    | error violation => exact Effect.refl hs rfl rfl (by simp [Step.calls, hp, hdec]) rfl
    | ok output =>
      simp only [Except.map]
      refine ⟨rfl, rfl, rfl, ?_, rfl, ⟨?_, ?_, ?_, ?_, ?_⟩⟩
      all_goals simp [Step.calls, screen, Relay.calls_call, hs.mode_eq, hp, hdec, hsub, hd, hfail]
  · rw [if_neg (by simp [Phase.acceptsInput, hp])]
    exact Effect.refl hs rfl rfl (by simp [Step.calls, hp]) rfl

theorem effect_onCleanClose {session : Session} (reason : String) (hs : session.Sound) :
    session.Effect (.link (.closed true reason)) session.onCleanClose := by
  unfold onCleanClose
  cases hp : session.phase with
  | connecting =>
    refine effect_fail hs rfl rfl ?_ ?_
    all_goals simp [Step.calls, Step.ending?, hp, Phase.isLive, unopenedReason]
  | opened =>
    have hd := isDestroyed_eq_false hs (by simp [hp])
    have hfail := failure_eq_none hs (by simp [hp])
    simp only [onSignal, hp, Phase.next?]
    refine ⟨rfl, rfl, ?_, ?_, ?_, ⟨?_, ?_, ?_, ?_, ?_⟩⟩
    all_goals cases hm : session.target.mode
    all_goals simp [Step.phaseAfter, Phase.isLive, Step.calls, Step.ending?, outcome, screen, mapRelay, isShell,
      Relay.calls_call, hs.mode_eq, hp, hm, hd, hfail]
  | _ =>
    simp only [onSignal, hp, Phase.next?]
    exact Effect.refl hs rfl (by simp [Step.phaseAfter, Phase.isLive, hp]) (by simp [Step.calls, hp])
      (by simp [Step.ending?, hp])

theorem effect_onTerminal {session : Session} (event : Event) (hs : session.Sound) :
    session.Effect (.terminal event) (session.onTerminal event) := by
  unfold onTerminal
  by_cases hp : session.phase = .opened
  · have hsub : session.relay.isSubscribed = true := hs.isSubscribed_iff.2 (by simp [hp])
    rw [if_pos (by simp [Phase.acceptsInput, hp, hsub]), Relay.outgoing_of_isSubscribed event hsub, hs.mode_eq]
    cases hm : session.target.mode with
    | logs =>
      rw [Mode.encode_logs]
      exact Effect.refl hs (by simp [Step.frame?, hm]) rfl rfl rfl
    | shell =>
      cases hf : event.frame? with
      | none =>
        obtain ⟨violation, hv⟩ := Mode.encode_shell_of_frame?_eq_none hf
        rw [hv]
        exact Effect.refl hs (by simp [Step.frame?, hf]) rfl rfl rfl
      | some frame =>
        rw [Mode.encode_shell_of_frame?_eq_some hf]
        refine effect_send [] hs hp rfl rfl (List.append_nil _).symm (outcome_of_phase_ne_closed (by simp [hp])) ?_ ?_ ?_
          fun _ => rfl
        all_goals simp [Step.frame?, Step.phaseAfter, Step.calls, hm, hp, hf]
  · rw [if_neg (by simp [Phase.acceptsInput, hp])]
    exact Effect.refl hs (by simp [Step.frame?, hp]) rfl rfl rfl

/-- The tables tell everything about a step. -/
theorem effect_step {session : Session} (step : Step) (hs : session.Sound) :
    session.Effect step (session.step step) := by
  match step with
  | .connect => exact effect_connect hs
  | .link .opened => exact effect_onOpened hs
  | .link (.frame frame) => exact effect_onFrame frame hs
  | .link (.closed true reason) => exact effect_onCleanClose reason hs
  | .link (.closed false reason) => exact effect_fail hs rfl rfl rfl rfl
  | .link (.failed reason) => exact effect_fail hs rfl rfl rfl rfl
  | .terminal event => exact effect_onTerminal event hs

/-! ### Runs -/

/-- The steps of a run, each with the phase in which it finds the session. -/
def history (session : Session) : List Step → List (Phase × Step)
  | [] => []
  | step :: steps => (session.phase, step) :: (session.step step).history steps

/-- A closed session takes no further step. -/
theorem step_of_closed {session : Session} (hc : session.phase = .closed) (step : Step) :
    session.step step = session := by
  have hsignal : ∀ signal, session.phase.next? signal = none := by
    intro signal
    rw [hc]
    rfl
  have hfail : ∀ reason, session.fail reason = session := fun reason => fail_of_not_isLive (by rw [hc]; rfl)
  match step with
  | .connect => simp only [Session.step, connect, onSignal, hsignal]
  | .link .opened => simp only [Session.step, onLink, onOpened, onSignal, hsignal]
  | .link (.frame frame) => simp [Session.step, onLink, onFrame, Phase.acceptsInput, hc]
  | .link (.closed true reason) => simp [Session.step, onLink, onCleanClose, onSignal, Phase.next?, hc]
  | .link (.closed false reason) => exact hfail (lossReason reason)
  | .link (.failed reason) => exact hfail reason
  | .terminal event => simp [Session.step, onTerminal, Phase.acceptsInput, hc]

theorem run_of_closed {session : Session} (hc : session.phase = .closed) (steps : List Step) :
    session.run steps = session := by
  induction steps with
  | nil => rfl
  | cons step steps ih =>
    change (session.step step).run steps = session
    rw [step_of_closed hc step, ih]

theorem Sound.step {session : Session} (hs : session.Sound) (step : Step) : (session.step step).Sound :=
  (effect_step step hs).sound

theorem Sound.run {session : Session} (hs : session.Sound) (steps : List Step) : (session.run steps).Sound := by
  induction steps generalizing session with
  | nil => exact hs
  | cons step steps ih => exact ih (hs.step step)

end Session

end PodAttach

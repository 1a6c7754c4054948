import PodAttach.Proofs.Session.Steps

/-!
# How sessions end

A session ends by one of seven causes, each with an outcome of its own: the connection fails or is lost, it closes, or the
link refuses a frame. Only a session that is connecting or open can be ended. So the first cause of a run is its only one,
and whatever follows it, the outcome stays.
-/

namespace PodAttach

open Terminal Wire

namespace Session

/-! ### The causes -/

/-- A step that ends the session in front of it, and the outcome that it ends with. -/
inductive Ends (session : Session) : Step → Outcome → Prop where
  | failed {reason : String} (hphase : session.phase = .connecting ∨ session.phase = .opened) :
      Ends session (.link (.failed reason)) (.failed reason)
  | lost {reason : String} (hphase : session.phase = .connecting ∨ session.phase = .opened) (hreason : reason ≠ "") :
      Ends session (.link (.closed false reason)) (.failed reason)
  | lostSilently (hphase : session.phase = .connecting ∨ session.phase = .opened) :
      Ends session (.link (.closed false "")) (.failed "connection lost")
  | unopened {reason : String} (hphase : session.phase = .connecting) :
      Ends session (.link (.closed true reason)) (.failed "connection closed before it opened")
  | closed {reason : String} (hphase : session.phase = .opened) : Ends session (.link (.closed true reason)) .closed
  /-- The priming frame of a shell is refused. -/
  | unprimed {message : String} (hmode : session.target.mode = .shell) (hphase : session.phase = .connecting)
      (hrefusal : session.link.refusal = some message) : Ends session (.link .opened) (.failed message)
  /-- The frame of an event is refused. -/
  | unsent {event : Event} {frame message : String} (hmode : session.target.mode = .shell) (hphase : session.phase = .opened)
      (hframe : event.frame? = some frame) (hrefusal : session.link.refusal = some message) :
      Ends session (.terminal event) (.failed message)

variable {session : Session} {step : Step} {outcome : Outcome}

theorem isLive_iff {phase : Phase} : phase.isLive = true ↔ phase = .connecting ∨ phase = .opened := by
  cases phase <;> simp [Phase.isLive]

theorem Ends.isLive (h : Ends session step outcome) : session.phase.isLive = true := by
  rw [isLive_iff]
  cases h with
  | failed hphase => exact hphase
  | lost hphase => exact hphase
  | lostSilently hphase => exact hphase
  | unopened hphase => exact .inl hphase
  | closed hphase => exact .inr hphase
  | unprimed _ hphase => exact .inl hphase
  | unsent _ hphase => exact .inr hphase

theorem Ends.ne_detached (h : Ends session step outcome) : outcome ≠ .detached := by
  cases h <;> simp

/-- The refusal that a step meets comes from the link, at a frame that is due. -/
theorem refusal?_eq_some_iff {message : String} :
    session.refusal? step = some message ↔
      (∃ frame, step.frame? session.target.mode session.phase = some frame) ∧ session.link.refusal = some message := by
  rw [refusal?, Option.bind_eq_some_iff]
  constructor
  · rintro ⟨frame, hframe, hrefusal⟩
    exact ⟨⟨frame, hframe⟩, hrefusal⟩
  · rintro ⟨⟨frame, hframe⟩, hrefusal⟩
    exact ⟨frame, hframe, hrefusal⟩

theorem exists_of_refused (h : (session.refusal? step).map .failed = some outcome) :
    ∃ frame message, step.frame? session.target.mode session.phase = some frame ∧
      session.link.refusal = some message ∧ outcome = .failed message := by
  obtain ⟨message, hmessage, rfl⟩ := Option.map_eq_some_iff.1 h
  obtain ⟨⟨frame, hframe⟩, hrefusal⟩ := refusal?_eq_some_iff.1 hmessage
  exact ⟨frame, message, hframe, hrefusal, rfl⟩

theorem ends_of_cleanClose {reason : String}
    (h : Step.ending? session.phase (session.refusal? (.link (.closed true reason))) (.link (.closed true reason)) =
      some outcome) : Ends session (.link (.closed true reason)) outcome := by
  simp only [Step.ending?] at h
  split at h
  · next hphase =>
    obtain rfl := Option.some.inj h
    exact .unopened hphase
  · next hphase =>
    obtain rfl := Option.some.inj h
    exact .closed hphase
  · contradiction

/-- The causes are those of the table of endings. -/
theorem ends_iff : Ends session step outcome ↔ step.ending? session.phase (session.refusal? step) = some outcome := by
  constructor
  · intro h
    have hlive := h.isLive
    cases h with
    | failed => simp [Step.ending?, hlive]
    | lost _ hreason => simp [Step.ending?, hlive, lossReason, hreason]
    | lostSilently => simp [Step.ending?, hlive, lossReason]
    | unopened hphase => simp [Step.ending?, hphase, unopenedReason]
    | closed hphase => simp [Step.ending?, hphase]
    | unprimed hmode hphase hrefusal =>
      have hdue : session.refusal? (.link .opened) = _ :=
        refusal?_eq_some_iff.2 ⟨⟨_, if_pos ⟨hmode, hphase⟩⟩, hrefusal⟩
      rw [hdue]
      rfl
    | @unsent event frame message hmode hphase hframe hrefusal =>
      have hdue : session.refusal? (.terminal event) = _ :=
        refusal?_eq_some_iff.2 ⟨⟨frame, (if_pos ⟨hmode, hphase⟩).trans hframe⟩, hrefusal⟩
      rw [hdue]
      rfl
  · intro h
    cases step with
    | connect => simp [Step.ending?] at h
    | terminal event =>
      have hrefused : (session.refusal? (.terminal event)).map .failed = some outcome := h
      obtain ⟨frame, message, hframe, hrefusal, rfl⟩ := exists_of_refused hrefused
      obtain ⟨⟨hmode, hphase⟩, hframe⟩ := Option.ite_none_right_eq_some.1 hframe
      exact .unsent hmode hphase hframe hrefusal
    | link event =>
      cases event with
      | frame frame => simp [Step.ending?] at h
      | opened =>
        have hrefused : (session.refusal? (.link .opened)).map .failed = some outcome := h
        obtain ⟨frame, message, hframe, hrefusal, rfl⟩ := exists_of_refused hrefused
        obtain ⟨⟨hmode, hphase⟩, -⟩ := Option.ite_none_right_eq_some.1 hframe
        exact .unprimed hmode hphase hrefusal
      | failed reason =>
        obtain ⟨hlive, h⟩ := Option.ite_none_right_eq_some.1 h
        obtain rfl := Option.some.inj h
        exact .failed (isLive_iff.1 hlive)
      | closed isClean reason =>
        cases isClean with
        | true => exact ends_of_cleanClose h
        | false =>
          obtain ⟨hlive, h⟩ := Option.ite_none_right_eq_some.1 h
          obtain rfl := Option.some.inj h
          by_cases hreason : reason = ""
          · subst hreason
            exact .lostSilently (isLive_iff.1 hlive)
          · rw [lossReason, if_neg hreason]
            exact .lost (isLive_iff.1 hlive) hreason

/-! ### One step -/

theorem Ends.outcome_step (hs : session.Sound) (h : Ends session step outcome) :
    (session.step step).outcome = outcome := by
  rw [(effect_step step hs).outcome_eq, ends_iff.1 h, Option.getD_some]

theorem outcome_step_of_not_ends (hs : session.Sound) (h : ∀ outcome, ¬ Ends session step outcome) :
    (session.step step).outcome = session.outcome := by
  have hnone : step.ending? session.phase (session.refusal? step) = none :=
    Option.eq_none_iff_forall_ne_some.2 fun outcome heq => h outcome (ends_iff.2 heq)
  rw [(effect_step step hs).outcome_eq, hnone, Option.getD_none]

theorem Ends.outcome_eq (h : Ends session step outcome) : session.outcome = .detached :=
  outcome_of_phase_ne_closed (phase_ne_closed_of_isLive h.isLive)

/-- A session that was ended takes no further step. -/
theorem Ends.phase_step (hs : session.Sound) (h : Ends session step outcome) :
    (session.step step).phase = .closed := by
  apply phase_eq_closed_of_outcome_ne
  rw [h.outcome_step hs]
  exact h.ne_detached

theorem outcome_step_ne_iff (hs : session.Sound) :
    (session.step step).outcome ≠ session.outcome ↔ ∃ outcome, Ends session step outcome := by
  constructor
  · intro hne
    apply Classical.byContradiction
    intro hnone
    exact hne (outcome_step_of_not_ends hs fun outcome h => hnone ⟨outcome, h⟩)
  · rintro ⟨outcome, h⟩
    rw [h.outcome_step hs, h.outcome_eq]
    exact h.ne_detached

/-! ### Runs -/

/-- No step of the run ends the session. -/
def Unended (session : Session) (steps : List Step) : Prop :=
  ∀ before step after, steps = before ++ step :: after → ∀ outcome, ¬ Ends (session.run before) step outcome

theorem run_append (session : Session) (before after : List Step) :
    session.run (before ++ after) = (session.run before).run after := List.foldl_append

theorem outcome_run_of_unended (hs : session.Sound) {steps : List Step} (h : session.Unended steps) :
    (session.run steps).outcome = session.outcome := by
  induction steps generalizing session with
  | nil => rfl
  | cons step steps ih =>
    have hfirst : ∀ outcome, ¬ Ends session step outcome := h [] step steps rfl
    have hrest : (session.step step).Unended steps := by
      intro before later after heq
      exact h (step :: before) later after (congrArg (step :: ·) heq)
    exact (ih (hs.step step) hrest).trans (outcome_step_of_not_ends hs hfirst)

/-- An ended session stays as it was ended, whatever follows. -/
theorem Ends.outcome_run_append {before : List Step} (hs : session.Sound) (h : Ends (session.run before) step outcome)
    (after : List Step) : (session.run (before ++ step :: after)).outcome = outcome := by
  have hbefore : (session.run before).Sound := hs.run before
  have hclosed : ((session.run before).step step).phase = .closed := h.phase_step hbefore
  rw [run_append]
  change (((session.run before).step step).run after).outcome = outcome
  rw [run_of_closed hclosed, h.outcome_step hbefore]

theorem unended_of_outcome_run (hs : session.Sound) {steps : List Step}
    (h : (session.run steps).outcome = .detached) : session.Unended steps := by
  rintro before step after rfl outcome hends
  rw [hends.outcome_run_append hs after] at h
  exact hends.ne_detached h

theorem target_run (hs : session.Sound) (steps : List Step) : (session.run steps).target = session.target := by
  induction steps generalizing session with
  | nil => rfl
  | cons step steps ih => exact (ih (hs.step step)).trans (effect_step step hs).target_eq

/-- The steps that end no session, whatever its link does: those that say nothing new, and those that come before the
connection is asked for or after its end. -/
def Step.IsHarmless (mode : Mode) (phase : Phase) : Step → Prop
  | .connect => True
  | .link (.frame _) => True
  | .link .opened => phase ≠ .connecting
  | .link (.closed _ _) => phase = .idle ∨ phase = .closed
  | .link (.failed _) => phase = .idle ∨ phase = .closed
  | .terminal event => phase ≠ .opened ∨ mode = .logs ∨ event.frame? = none

theorem Step.IsHarmless.not_ends (h : step.IsHarmless session.target.mode session.phase) : ¬ Ends session step outcome := by
  intro hends
  have hlive := hends.isLive
  have hnever : ¬(session.phase = .idle ∨ session.phase = .closed) := by
    rintro (hp | hp)
    all_goals simp [Phase.isLive, hp] at hlive
  cases hends with
  | failed => exact hnever h
  | lost => exact hnever h
  | lostSilently => exact hnever h
  | unopened => exact hnever h
  | closed => exact hnever h
  | unprimed _ hphase => exact h hphase
  | unsent hmode hphase hframe => simp [Step.IsHarmless, hmode, hphase, hframe] at h

/-- The first cause decides the outcome for good. A run without a cause leaves the session detached. Any cause is the
first of its run, and the outcome that belongs to it stays whatever follows. The causes are exactly the steps that change
an outcome; no other step does. -/
theorem outcome_run (target : Target) (url : AttachUrl) (link : Link) (screen : Screen) :
    let start := new target url link screen
    (∀ steps, (start.run steps).outcome = .detached ↔ start.Unended steps) ∧
    (∀ before step outcome, Ends (start.run before) step outcome →
      start.Unended before ∧ ∀ after, (start.run (before ++ step :: after)).outcome = outcome) ∧
    (∀ steps step, (start.run (steps ++ [step])).outcome ≠ (start.run steps).outcome ↔
      ∃ outcome, Ends (start.run steps) step outcome) ∧
    ∀ steps step, step.IsHarmless target.mode (start.run steps).phase →
      (start.run (steps ++ [step])).outcome = (start.run steps).outcome := by
  intro start
  have hsound : start.Sound := sound_new target url link screen
  have hlast : ∀ steps step, start.run (steps ++ [step]) = (start.run steps).step step := by
    intro steps step
    rw [run_append]
    rfl
  refine ⟨?_, ?_, ?_, ?_⟩
  · intro steps
    exact ⟨unended_of_outcome_run hsound, outcome_run_of_unended hsound⟩
  · intro before step outcome h
    exact ⟨unended_of_outcome_run hsound h.outcome_eq, h.outcome_run_append hsound⟩
  · intro steps step
    rw [hlast]
    exact outcome_step_ne_iff (hsound.run steps)
  · intro steps step hharmless
    rw [hlast]
    apply outcome_step_of_not_ends (hsound.run steps)
    intro outcome
    have htarget : (start.run steps).target = target := target_run hsound steps
    apply Step.IsHarmless.not_ends
    rw [htarget]
    exact hharmless

/-- The link refuses the second frame; that the peer closes and that the connection fails comes too late. -/
theorem outcome_run_refused :
    let start := new ⟨"prod", "web-1", "nginx", .shell, none, none⟩ ⟨"ws://h/ws/prod/web-1/nginx/webshell"⟩
      (.bounded 1 "broken pipe") (.new (.new fun _ => false))
    let outcome := Outcome.failed "transport error: broken pipe"
    Ends (start.run [.connect, .link .opened]) (.terminal (.input "ls\r")) outcome ∧
      (start.run [.connect, .link .opened, .terminal (.input "ls\r"), .link (.closed true ""),
        .link (.failed "reset")]).outcome = outcome := by
  intro start outcome
  have hends : Ends (start.run [.connect, .link .opened]) (.terminal (.input "ls\r")) outcome :=
    .unsent rfl rfl rfl (by decide)
  obtain ⟨-, hdecides, -⟩ := outcome_run ⟨"prod", "web-1", "nginx", .shell, none, none⟩
    ⟨"ws://h/ws/prod/web-1/nginx/webshell"⟩ (.bounded 1 "broken pipe") (.new (.new fun _ => false))
  obtain ⟨-, hstays⟩ := hdecides _ _ _ hends
  exact ⟨hends, hstays [.link (.closed true ""), .link (.failed "reset")]⟩

end Session

end PodAttach

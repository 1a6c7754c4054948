import PodAttach.Proofs.Session.Steps

/-!
# The two directions of a session

What a session sends does not depend on what it is shown, and as long as its link takes every frame, what it shows does
not depend on what it is told to send. Each direction is a side of the session: the part of it that the steps of the
other direction leave alone, and that all other steps carry on without looking at the rest. So those steps can be
deleted from a run without a trace on that side.
-/

namespace PodAttach

open Terminal Wire

namespace Session

def Step.isFrame : Step → Bool
  | .link (.frame _) => true
  | _ => false

def Step.isTerminal : Step → Bool
  | .terminal _ => true
  | _ => false

/-- The steps of a run, each with a side of the session that it leaves behind. -/
def outline {α : Type} (side : Session → α) (session : Session) : List Step → List (Step × α)
  | [] => []
  | step :: steps => (step, side (session.step step)) :: outline side (session.step step) steps

/-! ### Sides -/

/-- A side of the sessions that satisfy `fits`: the steps outside `kept` do not touch it, and those in `kept` lead from
equal sides to equal sides. -/
structure IsSide {α : Type} (fits : Session → Prop) (kept : Step → Bool) (side : Session → α) : Prop where
  fits_step : ∀ {session : Session} (step : Step), fits session → fits (session.step step)
  untouched : ∀ {session : Session} {step : Step}, fits session → kept step = false →
    side (session.step step) = side session
  carried : ∀ {session other : Session} (step : Step), fits session → fits other → side session = side other →
    side (session.step step) = side (other.step step)

/-- Two runs that start with equal sides end with equal sides, if one of them skips steps that do not touch the side; and
they agree after every step that both of them take. -/
theorem IsSide.run_filter {α : Type} {fits : Session → Prop} {kept : Step → Bool} {side : Session → α}
    (hside : IsSide fits kept side) {session other : Session} (hsession : fits session) (hother : fits other)
    (heq : side session = side other) (steps : List Step) :
    side (session.run (steps.filter kept)) = side (other.run steps) ∧
      outline side session (steps.filter kept) = (outline side other steps).filter fun entry => kept entry.1 := by
  induction steps generalizing session other with
  | nil => exact ⟨heq, rfl⟩
  | cons step steps ih =>
    cases hkept : kept step with
    | false =>
      have hnext : side session = side (other.step step) := heq.trans (hside.untouched hother hkept).symm
      obtain ⟨hrun, houtline⟩ := ih hsession (hside.fits_step step hother) hnext
      rw [List.filter_cons_of_neg (by simp [hkept]), outline, List.filter_cons_of_neg (by simp [hkept])]
      exact ⟨hrun, houtline⟩
    | true =>
      have hnext : side (session.step step) = side (other.step step) := hside.carried step hsession hother heq
      obtain ⟨hrun, houtline⟩ := ih (hside.fits_step step hsession) (hside.fits_step step hother) hnext
      rw [List.filter_cons_of_pos hkept, outline, outline, List.filter_cons, if_pos hkept, ← houtline, hnext]
      exact ⟨hrun, rfl⟩

/-! ### The sending side -/

/-- What a session has to do with its link. -/
structure SendingSide where
  target : Target
  phase : Phase
  link : Link
  outcome : Outcome

def sendingSide (session : Session) : SendingSide := ⟨session.target, session.phase, session.link, session.outcome⟩

theorem sendingSide_step {session : Session} (hs : session.Sound) (step : Step) :
    (session.step step).sendingSide =
      { target := session.target
        phase := step.phaseAfter session.phase (session.refusal? step)
        link := ((step.frame? session.target.mode session.phase).map session.link.send).getD session.link
        outcome := (step.ending? session.phase (session.refusal? step)).getD session.outcome } := by
  have he := effect_step step hs
  rw [sendingSide, he.target_eq, he.phase_eq, he.link_eq, he.outcome_eq]

theorem isSide_sendingSide : IsSide Sound (fun step => !step.isFrame) sendingSide where
  fits_step step hs := hs.step step
  untouched := by
    intro session step hs hframe
    rw [sendingSide_step hs]
    match step with
    | .link (.frame _) => rfl
  carried := by
    intro session other step hs ho heq
    obtain ⟨htarget, hphase, hlink, houtcome⟩ := SendingSide.mk.inj heq
    rw [sendingSide_step hs, sendingSide_step ho, refusal?, refusal?, htarget, hphase, hlink, houtcome]

/-! ### The showing side -/

/-- What a session has to do with its screen. -/
structure ShowingSide where
  target : Target
  phase : Phase
  calls : List Call
  outcome : Outcome

def showingSide (session : Session) : ShowingSide :=
  ⟨session.target, session.phase, session.screen.calls, session.outcome⟩

/-- A session that no refusal can end: it asks its link for nothing, or the link takes every frame. -/
structure Unhindered (session : Session) : Prop where
  sound : session.Sound
  takes : session.target.mode = .logs ∨ ∀ n, session.link.refusal? n = none

theorem Unhindered.refusal?_eq {session : Session} (hs : session.Unhindered) (step : Step) :
    session.refusal? step = none := by
  rcases hs.takes with hlogs | hlink
  · have hframe : step.frame? session.target.mode session.phase = none := by
      rw [hlogs]
      unfold Step.frame?
      split <;> simp
    rw [refusal?, hframe, Option.bind_none]
  · have hrefusal : session.link.refusal = none := hlink session.link.attempts
    rw [refusal?, hrefusal]
    cases step.frame? session.target.mode session.phase <;> rfl

theorem Unhindered.step {session : Session} (hs : session.Unhindered) (step : Step) : (session.step step).Unhindered where
  sound := hs.sound.step step
  takes := by
    have he := effect_step step hs.sound
    rw [he.target_eq, he.link_eq]
    refine hs.takes.imp id fun hlink => ?_
    cases step.frame? session.target.mode session.phase <;> exact hlink

theorem showingSide_step {session : Session} (hs : session.Unhindered) (step : Step) :
    (session.step step).showingSide =
      { target := session.target
        phase := step.phaseAfter session.phase none
        calls := session.screen.calls ++ step.calls session.target session.phase none
        outcome := (step.ending? session.phase none).getD session.outcome } := by
  have he := effect_step step hs.sound
  have hrefusal := hs.refusal?_eq step
  rw [showingSide, he.target_eq, he.phase_eq, he.calls_eq, he.outcome_eq, hrefusal]

theorem isSide_showingSide : IsSide Unhindered (fun step => !step.isTerminal) showingSide where
  fits_step step hs := hs.step step
  untouched := by
    intro session step hs hterminal
    rw [showingSide_step hs]
    match step with
    | .terminal _ => simp [Step.phaseAfter, Step.calls, Step.ending?, showingSide]
  carried := by
    intro session other step hs ho heq
    obtain ⟨htarget, hphase, hcalls, houtcome⟩ := ShowingSide.mk.inj heq
    rw [showingSide_step hs, showingSide_step ho, htarget, hphase, hcalls, houtcome]

/-! ### Whole runs -/

/-- The directions do not interfere. Without the frames of its peer a run sends the same, passes through the same phases
and comes to the same end, whatever the link refuses. Without the events of its terminal it shows the same, passes
through the same phases and comes to the same end, provided that the link takes every frame or the session only
receives. -/
theorem sides_run (target : Target) (url : AttachUrl) (link : Link) (screen : Screen) (steps : List Step) :
    let start := new target url link screen
    let unframed := steps.filter fun step => !step.isFrame
    let unprompted := steps.filter fun step => !step.isTerminal
    ((start.run unframed).sendingSide = (start.run steps).sendingSide ∧
      outline sendingSide start unframed = (outline sendingSide start steps).filter fun entry => !entry.1.isFrame) ∧
    (target.mode = .logs ∨ (∀ n, link.refusal? n = none) →
      (start.run unprompted).showingSide = (start.run steps).showingSide ∧
      outline showingSide start unprompted =
        (outline showingSide start steps).filter fun entry => !entry.1.isTerminal) := by
  intro start unframed unprompted
  have hsound : start.Sound := sound_new target url link screen
  constructor
  · exact isSide_sendingSide.run_filter hsound hsound rfl steps
  · intro hlink
    have hstart : start.Unhindered := ⟨hsound, hlink⟩
    exact isSide_showingSide.run_filter hstart hstart rfl steps

/-- A shell whose link takes every frame shows the same whether or not anything is typed into it. -/
theorem sides_run_typing :
    let start := new ⟨"prod", "web-1", "nginx", .shell, none, none⟩ ⟨"ws://h/ws/prod/web-1/nginx/webshell"⟩ .unbounded
      (.new (.new fun _ => false))
    let greeting : Step := .link (.frame (.text "\x7b\"operation\":\"stdout\",\"data\":\"hello\"\x7d"))
    let typing := [.connect, .link .opened, .terminal (.input "ls\r"), greeting, .terminal (.resize 80 24),
      .link (.closed true "")]
    (∀ n, Link.unbounded.refusal? n = none) ∧
      (start.run [.connect, .link .opened, greeting, .link (.closed true "")]).showingSide =
        (start.run typing).showingSide := by
  intro start greeting typing
  have hruns := (sides_run ⟨"prod", "web-1", "nginx", .shell, none, none⟩ ⟨"ws://h/ws/prod/web-1/nginx/webshell"⟩
    .unbounded (.new (.new fun _ => false)) typing).2 (.inr fun _ => rfl)
  exact ⟨fun _ => rfl, hruns.1⟩

end Session

end PodAttach

import PodAttach.Proofs.Session.Steps

/-!
# What a session sends

A run is told by its history: its steps, each with the phase it found the session in. The history alone says which
frames are due, and the link is asked for these and for nothing else, in this order. It has taken those that fit into
its limit; the first that does not fit ends the session, so that nothing follows it.
-/

namespace PodAttach

open Terminal Wire

/-- Takes as many frames as the limit allows, if there is one, and refuses all others, each for a reason of its own. -/
def Link.withLimit (limit : Option Nat) (reason : Nat → String) : Link :=
  .new fun n =>
    match limit with
    | none => none
    | some count => if n < count then none else some (reason n)

namespace Session

def atMost {α : Type} (limit : Option Nat) (xs : List α) : List α :=
  match limit with
  | none => xs
  | some count => xs.take count

/-- The priming frame, if the connection opened while the session waited for that. -/
def primingDue (history : List (Phase × Step)) : List String :=
  if (.connecting, .link .opened) ∈ history then [Message.priming.encode] else []

def terminalFrame? : Phase × Step → Option String
  | (.opened, .terminal event) => event.frame?
  | _ => none

/-- The frames that a shell session owes its peer. -/
def framesDue (history : List (Phase × Step)) : List String :=
  primingDue history ++ history.filterMap terminalFrame?

/-! ### Phases along a run -/

theorem phaseAfter_eq_opened {phase : Phase} {refusal : Option String} {step : Step}
    (h : step.phaseAfter phase refusal = .opened) :
    phase = .opened ∨ phase = .connecting ∧ step = .link .opened := by
  unfold Step.phaseAfter at h
  split at h <;> cases refusal <;> cases phase <;> simp_all [Phase.isLive]

theorem ne_opening_of_phaseAfter {phase : Phase} {refusal : Option String} {step : Step}
    (h : step.phaseAfter phase refusal = .idle ∨ step.phaseAfter phase refusal = .connecting) :
    (phase = .idle ∨ phase = .connecting) ∧ (phase, step) ≠ (.connecting, .link .opened) := by
  unfold Step.phaseAfter at h
  split at h <;> cases refusal <;> cases phase <;> simp_all [Phase.isLive]

theorem phaseAfter_closed (step : Step) : step.phaseAfter .closed none = .closed := by
  unfold Step.phaseAfter
  split <;> simp [Phase.isLive]

theorem frame?_logs (phase : Phase) (step : Step) : step.frame? .logs phase = none := by
  unfold Step.frame?
  split <;> simp

theorem link_run_of_logs {session : Session} (hs : session.Sound) (hm : session.target.mode = .logs)
    (steps : List Step) : (session.run steps).link = session.link := by
  induction steps generalizing session with
  | nil => rfl
  | cons step steps ih =>
    have he := effect_step step hs
    refine (ih he.sound (by rw [he.target_eq, hm])).trans ?_
    rw [he.link_eq, hm, frame?_logs]
    rfl

theorem phase_ne_closed_of_frame? {mode : Mode} {phase : Phase} {step : Step} {frame : String}
    (h : step.frame? mode phase = some frame) : phase ≠ .closed := by
  rcases opened_of_frame? h with rfl | ⟨rfl, -⟩ <;> simp

theorem phaseAfter_of_refusal {mode : Mode} {phase : Phase} {step : Step} {frame why : String}
    (h : step.frame? mode phase = some frame) : step.phaseAfter phase (some why) = .closed := by
  unfold Step.frame? at h
  split at h <;> simp_all [Step.phaseAfter]

/-! ### The priming frame -/

/-- Whether a session has opened yet, against the history that led there. -/
structure Primed (session : Session) (history : List (Phase × Step)) : Prop where
  before_opening : session.phase = .idle ∨ session.phase = .connecting →
    (.connecting, .link .opened) ∉ history ∧ framesDue history = []
  opening_mem : session.phase = .opened ∨ framesDue history ≠ [] → (.connecting, .link .opened) ∈ history

theorem primed_new (target : Target) (url : AttachUrl) (link : Link) (screen : Screen) :
    Primed (new target url link screen) [] where
  before_opening := fun _ => ⟨by simp, rfl⟩
  opening_mem := by simp [new, framesDue, primingDue]

/-- One more step makes at most one more frame due. The priming frame comes first, for nothing else can be due before. -/
theorem Primed.framesDue_concat {session : Session} {history : List (Phase × Step)} (hp : Primed session history)
    (step : Step) :
    framesDue (history ++ [(session.phase, step)]) =
      framesDue history ++ (step.frame? .shell session.phase).toList := by
  by_cases hopening : (session.phase, step) = (.connecting, .link .opened)
  · have hphase : session.phase = .connecting := congrArg Prod.fst hopening
    have hstep : step = .link .opened := congrArg Prod.snd hopening
    obtain ⟨hnot, hnone⟩ := hp.before_opening (.inr hphase)
    have hmap : history.filterMap terminalFrame? = [] := (List.append_eq_nil_iff.1 hnone).2
    simp [framesDue, primingDue, hphase, hstep, hnot, hmap, terminalFrame?, Step.frame?]
  · have hpriming : primingDue (history ++ [(session.phase, step)]) = primingDue history := by
      simp only [primingDue, List.mem_append, List.mem_singleton, Ne.symm hopening, or_false]
    have hlast : (terminalFrame? (session.phase, step)).toList = (step.frame? .shell session.phase).toList := by
      unfold terminalFrame? Step.frame?
      split <;> split <;> simp_all
    rw [framesDue, hpriming, List.filterMap_append, ← List.append_assoc, ← hlast]
    cases hf : terminalFrame? (session.phase, step) <;> simp [framesDue, hf]

theorem Primed.step {session : Session} {history : List (Phase × Step)} (hp : Primed session history)
    (hs : session.Sound) (step : Step) : Primed (session.step step) (history ++ [(session.phase, step)]) where
  before_opening := by
    rw [(effect_step step hs).phase_eq]
    intro hphase
    obtain ⟨hearly, hne⟩ := ne_opening_of_phaseAfter hphase
    obtain ⟨hnot, hnil⟩ := hp.before_opening hearly
    have hframe : step.frame? .shell session.phase = none := by
      cases hf : step.frame? .shell session.phase with
      | none => rfl
      | some frame => rcases opened_of_frame? hf with ho | ⟨ho, rfl⟩ <;> simp_all
    refine ⟨?_, by rw [hp.framesDue_concat, hnil, hframe]; rfl⟩
    simpa [hnot] using Ne.symm hne
  opening_mem := by
    have hnow : ∀ {left : Phase}, left = .opened ∨ left = .connecting ∧ step = .link .opened → left = session.phase →
        (Phase.connecting, Step.link .opened) ∈ history ++ [(session.phase, step)] := by
      rintro left (ho | ⟨ho, rfl⟩) rfl
      · exact List.mem_append_left _ (hp.opening_mem (.inl ho))
      · exact List.mem_append_right _ (by rw [ho]; exact List.mem_singleton_self _)
    rintro (hphase | hne)
    · rw [(effect_step step hs).phase_eq] at hphase
      exact hnow (phaseAfter_eq_opened hphase) rfl
    · by_cases hold : framesDue history = []
      · rw [hp.framesDue_concat, hold, List.nil_append] at hne
        cases hf : step.frame? .shell session.phase with
        | none => simp [hf] at hne
        | some frame => exact hnow (opened_of_frame? hf) rfl
      · exact List.mem_append_left _ (hp.opening_mem (.inr hold))

theorem Primed.head?_framesDue {session : Session} {history : List (Phase × Step)} (hp : Primed session history) :
    ∀ frame ∈ (framesDue history).head?, frame = Message.priming.encode := by
  intro frame hframe
  have hne : framesDue history ≠ [] := by
    intro hnil
    simp [hnil] at hframe
  have hmem := hp.opening_mem (.inr hne)
  simpa [framesDue, primingDue, hmem, eq_comm] using hframe

/-! ### The tally of a shell session -/

/-- The link of a shell session against the history that led there. -/
structure Tally (limit : Option Nat) (reason : Nat → String) (session : Session)
    (history : List (Phase × Step)) : Prop where
  refusal_eq : session.link.refusal? = (Link.withLimit limit reason).refusal?
  sent_eq : session.link.sent = atMost limit (framesDue history)
  attempts_eq : session.link.attempts = (framesDue history).length
  /-- The link has refused nothing yet. -/
  length_le : session.phase ≠ .closed → ∀ count, limit = some count → (framesDue history).length ≤ count

section

variable {limit : Option Nat} {reason : Nat → String} {session : Session} {history : List (Phase × Step)}

theorem tally_new (target : Target) (url : AttachUrl) (screen : Screen) :
    Tally limit reason (new target url (.withLimit limit reason) screen) [] where
  refusal_eq := rfl
  sent_eq := by cases limit <;> simp [atMost, framesDue, primingDue, new, Link.withLimit, Link.new]
  attempts_eq := rfl
  length_le := fun _ _ _ => Nat.zero_le _

theorem atMost_concat_of_lt {α : Type} {xs : List α} (x : α)
    (h : ∀ count, limit = some count → xs.length < count) : atMost limit (xs ++ [x]) = atMost limit xs ++ [x] := by
  cases limit with
  | none => rfl
  | some count =>
    have hlt := h count rfl
    rw [atMost, atMost, List.take_of_length_le (by simp; omega), List.take_of_length_le (by omega)]

theorem atMost_concat_of_length_eq {α : Type} {count : Nat} {xs : List α} (x : α) (h : xs.length = count) :
    atMost (some count) (xs ++ [x]) = atMost (some count) xs := by
  subst h
  simp [atMost]

theorem head?_of_head?_atMost {α : Type} {xs : List α} {x : α} (h : x ∈ (atMost limit xs).head?) : x ∈ xs.head? := by
  cases limit with
  | none => exact h
  | some count =>
    cases xs with
    | nil => simp [atMost] at h
    | cons first rest => cases count <;> simp_all [atMost]

theorem Tally.lt_of_refusal_eq_none (ht : Tally limit reason session history) (hr : session.link.refusal = none) :
    ∀ count, limit = some count → (framesDue history).length < count := by
  rintro count rfl
  rw [Link.refusal, ht.refusal_eq, ht.attempts_eq] at hr
  simpa [Link.withLimit, Link.new] using hr

theorem Tally.limit_of_refusal (ht : Tally limit reason session history) (hp : session.phase ≠ .closed)
    {why : String} (hr : session.link.refusal = some why) : limit = some (framesDue history).length := by
  rw [Link.refusal, ht.refusal_eq, ht.attempts_eq] at hr
  cases limit with
  | none => simp [Link.withLimit, Link.new] at hr
  | some count =>
    have hle := ht.length_le hp count rfl
    have hge : count ≤ (framesDue history).length := by
      simp only [Link.withLimit, Link.new] at hr
      split at hr
      · contradiction
      · omega
    rw [Nat.le_antisymm hge hle]

theorem Tally.step_of_none (ht : Tally limit reason session history) (hs : session.Sound)
    (hm : session.target.mode = .shell) {step : Step} (hf : step.frame? .shell session.phase = none)
    (hdue : framesDue (history ++ [(session.phase, step)]) = framesDue history) :
    Tally limit reason (session.step step) (history ++ [(session.phase, step)]) := by
  have he := effect_step step hs
  have hlink : (session.step step).link = session.link := by
    rw [he.link_eq, hm, hf]
    rfl
  refine ⟨?_, ?_, ?_, ?_⟩
  · rw [hlink, ht.refusal_eq]
  · rw [hlink, hdue, ht.sent_eq]
  · rw [hlink, hdue, ht.attempts_eq]
  · intro hp
    rw [hdue]
    refine ht.length_le fun hc => hp ?_
    rw [he.phase_eq, refusal?, hm, hf, hc]
    exact phaseAfter_closed step

/-- A frame that is due goes out, or it is the one that the link refuses. -/
theorem Tally.step_of_some (ht : Tally limit reason session history) (hs : session.Sound)
    (hm : session.target.mode = .shell) {step : Step} {frame : String}
    (hf : step.frame? .shell session.phase = some frame)
    (hdue : framesDue (history ++ [(session.phase, step)]) = framesDue history ++ [frame]) :
    Tally limit reason (session.step step) (history ++ [(session.phase, step)]) := by
  have he := effect_step step hs
  have hlink : (session.step step).link = session.link.send frame := by
    rw [he.link_eq, hm, hf]
    rfl
  have hrefusal : (session.step step).link.refusal? = (Link.withLimit limit reason).refusal? := by
    rw [hlink, ← ht.refusal_eq]
    rfl
  have hattempts : (session.step step).link.attempts = (framesDue (history ++ [(session.phase, step)])).length := by
    rw [hlink, hdue, List.length_append, ← ht.attempts_eq]
    rfl
  cases hr : session.link.refusal with
  | none =>
    -- there is room for the frame, so the cut does not reach it
    have hlt := ht.lt_of_refusal_eq_none hr
    refine ⟨hrefusal, ?_, hattempts, ?_⟩
    · rw [hlink, hdue, atMost_concat_of_lt frame hlt, ← ht.sent_eq, Link.send, ← Link.refusal, hr]
      rfl
    · intro _ count hcount
      have := hlt count hcount
      rw [hdue, List.length_append, List.length_singleton]
      omega
  | some why =>
    -- the limit was reached with the frame before, and the session closes
    have hfull := ht.limit_of_refusal (phase_ne_closed_of_frame? hf) hr
    refine ⟨hrefusal, ?_, hattempts, ?_⟩
    · rw [hlink, hdue, hfull, atMost_concat_of_length_eq frame rfl, ← hfull, ← ht.sent_eq, Link.send, ← Link.refusal, hr]
      rfl
    · intro hne
      refine absurd ?_ hne
      rw [he.phase_eq, refusal?, hm, hf, Option.bind_some, hr]
      exact phaseAfter_of_refusal hf

theorem Tally.step (ht : Tally limit reason session history) (hp : Primed session history) (hs : session.Sound)
    (hm : session.target.mode = .shell) (step : Step) :
    Tally limit reason (session.step step) (history ++ [(session.phase, step)]) := by
  have hdue := hp.framesDue_concat step
  cases hf : step.frame? .shell session.phase with
  | none =>
    rw [hf, Option.toList_none, List.append_nil] at hdue
    exact ht.step_of_none hs hm hf hdue
  | some frame =>
    rw [hf, Option.toList_some] at hdue
    exact ht.step_of_some hs hm hf hdue

theorem Tally.run (ht : Tally limit reason session history) (hp : Primed session history) (hs : session.Sound)
    (hm : session.target.mode = .shell) (steps : List Step) :
    Tally limit reason (session.run steps) (history ++ session.history steps) ∧
      Primed (session.run steps) (history ++ session.history steps) := by
  induction steps generalizing session history with
  | nil =>
    rw [Session.history, List.append_nil]
    exact ⟨ht, hp⟩
  | cons step steps ih =>
    have he := effect_step step hs
    have hnext := ih (ht.step hp hs hm step) (hp.step hs step) he.sound (by rw [he.target_eq, hm])
    rw [List.append_assoc] at hnext
    exact hnext

theorem Tally.phase_of_lt (ht : Tally limit reason session history)
    (h : session.link.sent.length < session.link.attempts) : session.phase = .closed := by
  refine Decidable.byContradiction fun hne => ?_
  have hall : atMost limit (framesDue history) = framesDue history := by
    cases limit with
    | none => rfl
    | some count => exact List.take_of_length_le (ht.length_le hne count rfl)
  rw [ht.sent_eq, ht.attempts_eq, hall] at h
  exact Nat.lt_irrefl _ h

end

/-- The outbound stream of a run. A log session never asks its link for anything. A shell session asks it for the frames
that are due, one after the other, and the link takes as many as it can; the priming frame is the first of them. Nothing
is asked of the link once the session is closed or a frame was refused. -/
theorem link_run (target : Target) (url : AttachUrl) (limit : Option Nat) (reason : Nat → String) (screen : Screen)
    (steps : List Step) :
    let start := new target url (.withLimit limit reason) screen
    let session := start.run steps
    match target.mode with
    | .logs => session.link.attempts = 0 ∧ session.link.sent = []
    | .shell =>
      session.link.sent = atMost limit (framesDue (start.history steps)) ∧
      session.link.attempts = (framesDue (start.history steps)).length ∧
      (∀ frame ∈ session.link.sent.head?, frame = Message.priming.encode) ∧
      ∀ more, session.phase = .closed ∨ session.link.sent.length < session.link.attempts →
        (session.run more).link = session.link := by
  intro start session
  have hsound : start.Sound := sound_new target url (.withLimit limit reason) screen
  split
  · next hm =>
    have hlink : session.link = start.link := link_run_of_logs hsound hm steps
    rw [hlink]
    exact ⟨rfl, rfl⟩
  · next hm =>
    have htally : Tally limit reason start [] := tally_new target url screen
    have hprimed : Primed start [] := primed_new target url (.withLimit limit reason) screen
    obtain ⟨ht, hp⟩ := htally.run hprimed hsound hm steps
    rw [List.nil_append] at ht hp
    refine ⟨ht.sent_eq, ht.attempts_eq, ?_, ?_⟩
    · intro frame hframe
      refine hp.head?_framesDue frame ?_
      rw [ht.sent_eq] at hframe
      exact head?_of_head?_atMost hframe
    · rintro more (hc | hlt)
      · rw [run_of_closed hc more]
      · rw [run_of_closed (ht.phase_of_lt hlt) more]

/-- The frames of a second opening and of an empty size are not due. -/
example :
    framesDue [(.idle, .connect), (.connecting, .link .opened), (.opened, .link .opened),
      (.opened, .terminal (.resize 0 40)), (.opened, .terminal (.input "q"))] =
        [Message.priming.encode, (Message.stdin "q").encode] := rfl

end Session

end PodAttach

import Mathlib.Data.List.Destutter
import PodAttach.Proofs.Session.Steps

/-!
# The phases along a run

Between steps a session only ever moves on: from idle to connecting, from there to open or closed, and from open to
closed. So the phases that a run shows, with repetitions dropped, are the start of one of two lives; no phase comes
back, and none is found in the history of a session that has left it behind.
-/

namespace PodAttach

namespace Phase

/-- The phases that a step may lead to, apart from the one it starts in. -/
def leads : Phase → List Phase
  | idle => [connecting]
  | connecting => [opened, closed]
  | opened => [closed]
  | erroring => [closed]
  | closed => []

/-- The ways in which a session may go on from a phase to its end. -/
def lives : Phase → List (List Phase)
  | idle => [[idle, connecting, opened, closed], [idle, connecting, closed]]
  | connecting => [[connecting, opened, closed], [connecting, closed]]
  | opened => [[opened, closed]]
  | erroring => [[erroring, closed]]
  | closed => [[closed]]

def rank : Phase → Nat
  | idle => 0
  | connecting => 1
  | opened => 2
  | erroring => 3
  | closed => 4

theorem rank_lt_of_mem_leads {phase next : Phase} (h : next ∈ phase.leads) : phase.rank < next.rank := by
  cases phase <;> simp [leads] at h
  all_goals rcases h with rfl | rfl <;> decide

theorem cons_mem_lives {phase next : Phase} {life : List Phase} (hnext : next ∈ phase.leads)
    (hlife : life ∈ next.lives) : phase :: life ∈ phase.lives := by
  cases phase <;> simp [leads] at hnext
  all_goals rcases hnext with rfl | rfl
  all_goals simp_all [lives]

theorem exists_mem_lives (phase : Phase) : ∃ life ∈ phase.lives, [phase] <+: life := by
  cases phase <;> simp [lives]

end Phase

namespace Session

variable {session : Session}

/-! ### One step -/

/-- A frame is only refused where one is due. -/
theorem due_of_refusal? {step : Step} {why : String} (h : session.refusal? step = some why) :
    session.phase = .opened ∨ session.phase = .connecting ∧ step = .link .opened := by
  obtain ⟨frame, hframe, -⟩ := Option.bind_eq_some_iff.1 h
  exact opened_of_frame? hframe

theorem phase_step (hs : session.Sound) (step : Step) :
    (session.step step).phase = session.phase ∨ (session.step step).phase ∈ session.phase.leads := by
  rw [(effect_step step hs).phase_eq]
  cases hr : session.refusal? step with
  | none =>
    unfold Step.phaseAfter
    split <;> cases session.phase <;> simp [Phase.leads, Phase.isLive]
  | some why =>
    rcases due_of_refusal? hr with hp | ⟨hp, rfl⟩
    · unfold Step.phaseAfter
      rw [hp]
      split <;> simp [Phase.leads, Phase.isLive]
    · simp [Step.phaseAfter, Phase.leads, hp]

theorem rank_le_rank_step (hs : session.Sound) (step : Step) :
    session.phase.rank ≤ (session.step step).phase.rank := by
  rcases phase_step hs step with heq | hmem
  · rw [heq]
  · exact Nat.le_of_lt (Phase.rank_lt_of_mem_leads hmem)

/-! ### Runs -/

/-- The phases in which a session is found before, between and after the steps of a run. -/
def phases (session : Session) : List Step → List Phase
  | [] => [session.phase]
  | step :: steps => session.phase :: (session.step step).phases steps

theorem exists_phases_eq_cons (session : Session) (steps : List Step) :
    ∃ later, session.phases steps = session.phase :: later := by
  cases steps <;> exact ⟨_, rfl⟩

/-- With repetitions dropped, the phases of a run start one of the lives that its first phase has before it. -/
theorem destutter_phases (hs : session.Sound) (steps : List Step) :
    ∃ life ∈ session.phase.lives, (session.phases steps).destutter (· ≠ ·) <+: life := by
  induction steps generalizing session with
  | nil => exact session.phase.exists_mem_lives
  | cons step steps ih =>
    obtain ⟨life, hlife, hprefix⟩ := ih (hs.step step)
    obtain ⟨later, hlater⟩ := exists_phases_eq_cons (session.step step) steps
    rw [hlater] at hprefix
    rw [phases, hlater, List.destutter_cons_cons]
    rcases phase_step hs step with heq | hmem
    · rw [if_neg (not_not_intro heq.symm), ← heq]
      exact ⟨life, hlife, hprefix⟩
    · have hne : session.phase ≠ (session.step step).phase := by
        intro heq
        have hlt := Phase.rank_lt_of_mem_leads hmem
        rw [← heq] at hlt
        exact Nat.lt_irrefl _ hlt
      rw [if_pos hne]
      exact ⟨_, Phase.cons_mem_lives hmem hlife, List.cons_prefix_cons.2 ⟨rfl, hprefix⟩⟩

/-- What a history holds was never behind the session. -/
theorem rank_le_of_mem_history (hs : session.Sound) {steps : List Step} {entry : Phase × Step}
    (h : entry ∈ session.history steps) : session.phase.rank ≤ entry.1.rank := by
  induction steps generalizing session with
  | nil => simp [history] at h
  | cons step steps ih =>
    rw [history, List.mem_cons] at h
    rcases h with rfl | h
    · exact Nat.le_refl _
    · exact Nat.le_trans (rank_le_rank_step hs step) (ih (hs.step step) h)

end Session

end PodAttach

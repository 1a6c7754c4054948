import PodAttach.Proofs.Session.Phases

/-!
# The words of a life

Told by the signals that it accepts, a life is one of three words: the connection opens and is closed by the peer, it
opens and fails, or it fails before it opens. Whatever signals come, and in whatever order, the accepted ones are the start
of one of these words. The phase tells how far that start has come: what may still be accepted is what is missing of a
word. So a life is over exactly if its word is complete, and nothing is accepted after that.
-/

namespace PodAttach

/-- The phase to which a signal leads, wherever it is accepted. -/
def Signal.destination : Signal → Phase
  | connect => .connecting
  | transportOpened => .opened
  | cleanClose => .closed
  | transportFailed => .erroring
  | tornDown => .closed

namespace Phase

variable {phase next : Phase} {signal : Signal} {signals : List Signal}

/-- The signals that lead from a phase to the end, in each of the ways there are. -/
def words : Phase → List (List Signal)
  | idle => [[.connect, .transportOpened, .cleanClose], [.connect, .transportOpened, .transportFailed, .tornDown],
      [.connect, .transportFailed, .tornDown]]
  | connecting => [[.transportOpened, .cleanClose], [.transportOpened, .transportFailed, .tornDown],
      [.transportFailed, .tornDown]]
  | opened => [[.cleanClose], [.transportFailed, .tornDown]]
  | erroring => [[.tornDown]]
  | closed => [[]]

def accepts (phase : Phase) (signal : Signal) : Bool := (phase.apply signal).isOk

/-- The phase behind signals that come one after the other. -/
def run (phase : Phase) (signals : List Signal) : Phase := signals.foldl after phase

/-- The signals that are accepted when they come. -/
def accepted (phase : Phase) : List Signal → List Signal
  | [] => []
  | signal :: signals =>
    if phase.accepts signal then signal :: (phase.after signal).accepted signals
    else (phase.after signal).accepted signals

/-! ### One signal -/

theorem apply_eq_ok_iff : phase.apply signal = .ok next ↔ phase.next? signal = some next := by
  unfold apply
  cases phase.next? signal <;> simp

theorem apply_eq_error_iff {refusal : InvalidTransition} :
    phase.apply signal = .error refusal ↔ phase.next? signal = none ∧ refusal = ⟨phase, signal⟩ := by
  unfold apply
  cases phase.next? signal <;> simp [eq_comm]

theorem accepts_iff : phase.accepts signal = true ↔ ∃ next, phase.next? signal = some next := by
  unfold accepts apply
  cases phase.next? signal <;> simp [Except.isOk, Except.toBool]

theorem after_of_some (h : phase.next? signal = some next) : phase.after signal = next := by
  rw [after, h, Option.getD_some]

theorem after_of_none (h : phase.next? signal = none) : phase.after signal = phase := by
  rw [after, h, Option.getD_none]

theorem eq_destination (h : phase.next? signal = some next) : next = signal.destination := by
  cases phase <;> cases signal <;> cases h <;> rfl

theorem rank_lt_of_next? (h : phase.next? signal = some next) : phase.rank < next.rank := by
  cases phase <;> cases signal <;> cases h <;> decide

theorem rank_inj {p q : Phase} : p.rank = q.rank ↔ p = q := by
  cases p <;> cases q <;> decide

/-- A signal is accepted exactly if a word starts with it, and leads to where the rest of the word starts. -/
theorem cons_mem_words_iff {word : List Signal} :
    signal :: word ∈ phase.words ↔ ∃ next, phase.next? signal = some next ∧ word ∈ next.words := by
  cases phase <;> cases signal <;> simp [words, next?]

theorem nil_mem_words_iff : [] ∈ phase.words ↔ phase = closed := by
  cases phase <;> simp [words]

theorem exists_mem_words (phase : Phase) : ∃ word, word ∈ phase.words := by
  cases phase <;> exact ⟨_, List.mem_cons_self⟩

/-! ### Runs -/

theorem run_cons_of_some (h : phase.next? signal = some next) : phase.run (signal :: signals) = next.run signals := by
  rw [run, List.foldl_cons, after_of_some h, run]

theorem run_cons_of_none (h : phase.next? signal = none) : phase.run (signal :: signals) = phase.run signals := by
  rw [run, List.foldl_cons, after_of_none h, run]

theorem accepted_cons_of_some (h : phase.next? signal = some next) :
    phase.accepted (signal :: signals) = signal :: next.accepted signals := by
  rw [accepted, if_pos (accepts_iff.2 ⟨next, h⟩), after_of_some h]

theorem accepted_cons_of_none (h : phase.next? signal = none) :
    phase.accepted (signal :: signals) = phase.accepted signals := by
  have hrefused : ¬ phase.accepts signal = true := by simp [accepts_iff, h]
  rw [accepted, if_neg hrefused, after_of_none h]

theorem run_append (before later : List Signal) : phase.run (before ++ later) = (phase.run before).run later :=
  List.foldl_append

theorem accepted_append (before later : List Signal) :
    phase.accepted (before ++ later) = phase.accepted before ++ (phase.run before).accepted later := by
  induction before generalizing phase with
  | nil => rfl
  | cons signal before ih =>
    rw [List.cons_append]
    cases h : phase.next? signal with
    | none => rw [accepted_cons_of_none h, accepted_cons_of_none h, run_cons_of_none h, ih]
    | some next => rw [accepted_cons_of_some h, accepted_cons_of_some h, run_cons_of_some h, ih, List.cons_append]

theorem accepted_sublist (phase : Phase) (signals : List Signal) : (phase.accepted signals).Sublist signals := by
  induction signals generalizing phase with
  | nil => exact .slnil
  | cons signal signals ih =>
    cases h : phase.next? signal with
    | none =>
      rw [accepted_cons_of_none h]
      exact (ih phase).cons signal
    | some next =>
      rw [accepted_cons_of_some h]
      exact (ih next).cons_cons signal

/-- What leads on to the end after a run is what is missing of a word whose start the run has accepted. -/
theorem mem_words_run {word : List Signal} :
    word ∈ (phase.run signals).words ↔ phase.accepted signals ++ word ∈ phase.words := by
  induction signals generalizing phase with
  | nil => rfl
  | cons signal signals ih =>
    cases h : phase.next? signal with
    | none => rw [run_cons_of_none h, accepted_cons_of_none h, ih]
    | some next =>
      rw [run_cons_of_some h, accepted_cons_of_some h, ih, List.cons_append, cons_mem_words_iff, h]
      simp only [Option.some_inj, exists_eq_left']

theorem exists_word (phase : Phase) (signals : List Signal) : ∃ word ∈ phase.words, phase.accepted signals <+: word := by
  obtain ⟨rest, hrest⟩ := exists_mem_words (phase.run signals)
  exact ⟨_, mem_words_run.1 hrest, List.prefix_append _ _⟩

theorem run_eq_closed_iff : phase.run signals = closed ↔ phase.accepted signals ∈ phase.words := by
  rw [← nil_mem_words_iff, mem_words_run, List.append_nil]

theorem accepts_run_iff :
    (phase.run signals).accepts signal = true ↔ ∃ word ∈ phase.words, phase.accepted signals ++ [signal] <+: word := by
  constructor
  · intro h
    obtain ⟨next, hnext⟩ := accepts_iff.1 h
    obtain ⟨rest, hrest⟩ := exists_mem_words next
    exact ⟨_, mem_words_run.1 (cons_mem_words_iff.2 ⟨next, hnext, hrest⟩), by simp⟩
  · rintro ⟨_, hword, rest, rfl⟩
    rw [List.append_assoc, ← mem_words_run, List.singleton_append, cons_mem_words_iff] at hword
    obtain ⟨next, hnext, -⟩ := hword
    exact accepts_iff.2 ⟨next, hnext⟩

/-- The start of a word is accepted as it stands. -/
theorem accepted_of_prefix {start word : List Signal} (hword : word ∈ phase.words) (h : start <+: word) :
    phase.accepted start = start := by
  induction start generalizing phase word with
  | nil => rfl
  | cons signal start ih =>
    obtain ⟨rest, rfl⟩ := h
    obtain ⟨next, hnext, hrest⟩ := cons_mem_words_iff.1 hword
    rw [accepted_cons_of_some hnext, ih hrest (List.prefix_append _ _)]

/-- The last signal that was accepted tells the phase. -/
theorem run_eq_destination :
    phase.run signals = ((phase.accepted signals).getLast?.map Signal.destination).getD phase := by
  induction signals generalizing phase with
  | nil => rfl
  | cons signal signals ih =>
    cases h : phase.next? signal with
    | none => rw [run_cons_of_none h, accepted_cons_of_none h, ih]
    | some next =>
      rw [run_cons_of_some h, accepted_cons_of_some h, ih, List.getLast?_cons, eq_destination h]
      cases (signal.destination.accepted signals).getLast? <;> rfl

theorem run_closed (signals : List Signal) : closed.run signals = closed ∧ closed.accepted signals = [] := by
  -- Only the empty word is left, and what was accepted starts it.
  obtain ⟨word, hword, hstart⟩ := exists_word closed signals
  rw [List.mem_singleton.1 hword, List.prefix_nil] at hstart
  have hmem : closed.accepted signals ∈ closed.words := by
    rw [hstart]
    exact List.mem_cons_self
  exact ⟨run_eq_closed_iff.2 hmem, hstart⟩

theorem rank_le_rank_run (phase : Phase) (signals : List Signal) : phase.rank ≤ (phase.run signals).rank := by
  induction signals generalizing phase with
  | nil => exact Nat.le_refl _
  | cons signal signals ih =>
    cases h : phase.next? signal with
    | none =>
      rw [run_cons_of_none h]
      exact ih phase
    | some next =>
      rw [run_cons_of_some h]
      exact Nat.le_trans (Nat.le_of_lt (rank_lt_of_next? h)) (ih next)

/-- A phase that was left does not come back. -/
theorem run_ne_of_run_ne {middle : List Signal} (h : phase.run middle ≠ phase) (later : List Signal) :
    (phase.run middle).run later ≠ phase := by
  have hfirst : phase.rank ≤ (phase.run middle).rank := rank_le_rank_run phase middle
  have hsecond : (phase.run middle).rank ≤ ((phase.run middle).run later).rank := rank_le_rank_run _ later
  intro hback
  rw [hback] at hsecond
  exact h (rank_inj.1 (Nat.le_antisymm hsecond hfirst))

/-- Which signals a life accepts, whichever come and in whatever order, what it answers to the others, and where it is. -/
theorem words_run (signals : List Signal) :
    let words : List (List Signal) := [[.connect, .transportOpened, .cleanClose],
      [.connect, .transportOpened, .transportFailed, .tornDown], [.connect, .transportFailed, .tornDown]]
    let phase := idle.run signals
    let taken := idle.accepted signals
    taken.Sublist signals ∧ taken.length ≤ 4 ∧
    (∃ word ∈ words, taken <+: word) ∧
    (∀ word ∈ words, ∀ start, start <+: word → idle.accepted start = start) ∧
    phase = (taken.getLast?.map Signal.destination).getD idle ∧
    (phase = closed ↔ taken ∈ words) ∧
    (∀ signal, phase.accepts signal ↔ ∃ word ∈ words, taken ++ [signal] <+: word) ∧
    (∀ signal next, phase.apply signal = .ok next →
      idle.run (signals ++ [signal]) = next ∧ idle.accepted (signals ++ [signal]) = taken ++ [signal]) ∧
    (∀ signal refusal, phase.apply signal = .error refusal →
      refusal = ⟨phase, signal⟩ ∧ idle.run (signals ++ [signal]) = phase ∧
      idle.accepted (signals ++ [signal]) = taken) ∧
    (phase = closed → ∀ later, idle.run (signals ++ later) = closed ∧ idle.accepted (signals ++ later) = taken) ∧
    ∀ middle later, idle.run (signals ++ middle) ≠ phase → idle.run (signals ++ middle ++ later) ≠ phase := by
  intro words phase taken
  obtain ⟨word, hword, hstart⟩ := exists_word idle signals
  refine ⟨accepted_sublist idle signals, ?_, ⟨word, hword, hstart⟩, ?_, run_eq_destination, run_eq_closed_iff, ?_, ?_, ?_, ?_,
    ?_⟩
  · have hlength : ∀ word ∈ words, word.length ≤ 4 := by decide
    exact Nat.le_trans hstart.length_le (hlength word hword)
  · exact fun word hword start hprefix => accepted_of_prefix hword hprefix
  · exact fun signal => accepts_run_iff
  · intro signal next h
    have hnext := apply_eq_ok_iff.1 h
    rw [run_append, accepted_append, accepted_cons_of_some hnext]
    exact ⟨run_cons_of_some hnext, rfl⟩
  · intro signal refusal h
    obtain ⟨hnone, hrefusal⟩ := apply_eq_error_iff.1 h
    rw [run_append, accepted_append, accepted_cons_of_none hnone]
    exact ⟨hrefusal, run_cons_of_none hnone, List.append_nil _⟩
  · intro hclosed later
    have hphase : idle.run signals = closed := hclosed
    obtain ⟨hrun, haccepted⟩ := run_closed later
    rw [run_append, accepted_append, hphase, haccepted]
    exact ⟨hrun, List.append_nil _⟩
  · intro middle later h
    rw [run_append] at h
    rw [run_append, run_append]
    exact run_ne_of_run_ne h later

/-- A life that is told everything out of turn. -/
example :
    let signals : List Signal := [.tornDown, .connect, .cleanClose, .connect, .transportOpened, .tornDown, .transportFailed,
      .transportOpened, .tornDown, .connect]
    idle.accepted signals = [.connect, .transportOpened, .transportFailed, .tornDown] ∧ idle.run signals = closed := by
  decide

end Phase

end PodAttach

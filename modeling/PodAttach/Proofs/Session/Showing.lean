import PodAttach.Proofs.Session.Phases

/-!
# What a session shows

The calls that a run makes on the screen have three parts, and each is told by the run's history and outcome alone: the
notices of connecting and opening, then one call for each frame that found the session open and has something to show,
then what the outcome leaves behind. A session that has ended shows nothing more.
-/

namespace PodAttach

open Terminal Wire

namespace Session

/-! ### The three parts -/

/-- What a shell session shows of connecting and opening. A log session shows nothing of it. -/
def prologue (target : Target) (history : List (Phase × Step)) : List Call :=
  match target.mode with
  | .logs => []
  | .shell =>
    (if history.contains (.idle, .connect) then [.write ("connecting to pod " ++ target.pod ++ "...")] else []) ++
      if history.contains (.connecting, .link .opened) then [.write "\r"] else []

/-- A log session shows each frame as a line. A shell session shows the output that a frame brings, and no other frame. -/
def frameCall? : Mode → Frame → Option Call
  | .logs, .text text => some (.writeLine text)
  | .logs, .binary bytes => some (.writeLine (String.ofList (Text.Utf8.decodeLossy bytes)))
  | .shell, .binary _ => none
  | .shell, .text text =>
    match Message.decode text with
    | .ok (.stdout data) => some (.write data)
    | _ => none

/-- What is shown of an entry of the history: of a frame, and only if it found the session open. -/
def entryCall? (mode : Mode) : Phase × Step → Option Call
  | (.opened, .link (.frame frame)) => frameCall? mode frame
  | _ => none

def body (mode : Mode) (history : List (Phase × Step)) : List Call := history.filterMap (entryCall? mode)

/-- What an outcome leaves on the screen. Only a failure gives the screen up. -/
def epilogue (mode : Mode) : Outcome → List Call
  | .detached => []
  | .closed => .writeLine "" :: if mode = .shell then [.writeLine peerClosedNotice] else []
  | .failed reason => [.writeLine "", .writeLine ("error: " ++ reason), .writeLine restartNotice, .destroy]

/-- A frame is shown as its mode decodes it, and nothing is shown of one that violates the protocol. -/
theorem frameCall?_eq (mode : Mode) (frame : Frame) :
    frameCall? mode frame = match mode.decode frame with
      | .ok output => some (Relay.showing output)
      | .error _ => none := by
  cases mode with
  | logs => cases frame <;> rfl
  | shell =>
    cases frame with
    | binary bytes => rfl
    | text text =>
      simp only [frameCall?, Mode.decode]
      rcases Message.decode text with violation | message
      · rfl
      · cases message <;> rfl

theorem frameCall?_eq_none_iff (mode : Mode) (frame : Frame) :
    frameCall? mode frame = none ↔ ∃ violation, mode.decode frame = .error violation := by
  rw [frameCall?_eq]
  cases mode.decode frame <;> simp

/-! ### One step -/

/-- What a step shows, apart from the end of the session. -/
def Step.shows (target : Target) (phase : Phase) : Step → List Call
  | .connect => if phase = .idle ∧ target.mode = .shell then [.write (connectingNotice target)] else []
  | .link .opened => if phase = .connecting ∧ target.mode = .shell then [.write "\r"] else []
  | .link (.frame frame) => if phase = .opened then (frameCall? target.mode frame).toList else []
  | _ => []

theorem shows_closed (target : Target) (step : Step) : step.shows target .closed = [] := by
  unfold Step.shows
  split <;> simp

section

variable {session : Session}

/-- A step that ends the session shows last what the outcome leaves on the screen. -/
theorem calls_step (hs : session.Sound) (step : Step) :
    (session.step step).screen.calls = session.screen.calls ++ step.shows session.target session.phase ++
      ((step.ending? session.phase (session.refusal? step)).map (epilogue session.target.mode)).getD [] := by
  rw [(effect_step step hs).calls_eq, List.append_assoc]
  congr 1
  match step with
  | .connect => simp [Step.calls, Step.shows, Step.ending?]
  | .link .opened =>
    by_cases hdue : session.phase = .connecting ∧ session.target.mode = .shell
    · simp only [Step.calls, Step.shows, Step.ending?, if_pos hdue, Option.map_map]
      rfl
    · have hrefusal : session.refusal? (.link .opened) = none := by
        rw [refusal?, Step.frame?, if_neg fun h => hdue h.symm, Option.bind_none]
      simp only [Step.calls, Step.shows, Step.ending?, if_neg hdue, hrefusal]
      rfl
  | .link (.frame frame) =>
    simp only [Step.calls, Step.shows, Step.ending?, frameCall?_eq]
    split
    · cases session.target.mode.decode frame <;> rfl
    · rfl
  | .link (.closed true reason) =>
    simp only [Step.calls, Step.shows, Step.ending?, List.nil_append]
    split <;> rfl
  | .link (.closed false reason) =>
    simp only [Step.calls, Step.shows, Step.ending?, List.nil_append]
    split <;> rfl
  | .link (.failed reason) =>
    simp only [Step.calls, Step.shows, Step.ending?, List.nil_append]
    split <;> rfl
  | .terminal event =>
    simp only [Step.calls, Step.shows, Step.ending?, List.nil_append, Option.map_map]
    rfl

theorem calls_step_frame (hs : session.Sound) (frame : Frame) :
    (session.step (.link (.frame frame))).screen.calls = session.screen.calls ++
      if session.phase = .opened then (frameCall? session.target.mode frame).toList else [] := by
  rw [calls_step hs, Step.shows]
  exact List.append_nil _

/-! ### Whole runs -/

theorem prologue_cons {target : Target} {entry : Phase × Step} {history : List (Phase × Step)}
    (hconnect : entry ≠ (.idle, .connect)) (hopened : entry ≠ (.connecting, .link .opened)) :
    prologue target (entry :: history) = prologue target history := by
  simp only [prologue, List.contains_iff_mem, List.mem_cons, hconnect.symm, hopened.symm, false_or]

/-- The first entry that connects shows the first notice. -/
theorem prologue_cons_connect {target : Target} {history : List (Phase × Step)} (h : (.idle, .connect) ∉ history) :
    prologue target ((.idle, .connect) :: history) = Step.connect.shows target .idle ++ prologue target history := by
  have hne : ((.connecting, .link .opened) : Phase × Step) ≠ (.idle, .connect) := by decide
  unfold prologue Step.shows
  cases target.mode with
  | logs => rfl
  | shell =>
    simp only [List.contains_iff_mem, List.mem_cons, true_or, if_true, h, hne, false_or, if_false, List.nil_append,
      and_self]
    rfl

/-- Once a session is open, its prologue is over. -/
theorem prologue_eq_nil {target : Target} {history : List (Phase × Step)}
    (h : ∀ entry ∈ history, Phase.opened.rank ≤ entry.1.rank) : prologue target history = [] := by
  have hconnect : (.idle, .connect) ∉ history := fun hmem => absurd (h _ hmem) (by decide)
  have hopened : (.connecting, .link .opened) ∉ history := fun hmem => absurd (h _ hmem) (by decide)
  unfold prologue
  cases target.mode <;> simp [hconnect, hopened]

theorem shows_eq_entryCall? {target : Target} {phase : Phase} {step : Step}
    (hconnect : (phase, step) ≠ (.idle, .connect)) (hopened : (phase, step) ≠ (.connecting, .link .opened)) :
    step.shows target phase = (entryCall? target.mode (phase, step)).toList := by
  unfold Step.shows entryCall?
  split <;> split <;> simp_all

/-- The entry that opens the session shows the last notice, for nothing after it connects or opens. -/
theorem prologue_cons_opened {target : Target} {history : List (Phase × Step)} (h : prologue target history = []) :
    prologue target ((.connecting, .link .opened) :: history) = (Step.link .opened).shows target .connecting := by
  have hne : ((.idle, .connect) : Phase × Step) ≠ (.connecting, .link .opened) := by decide
  unfold prologue Step.shows at *
  cases hm : target.mode with
  | logs => rfl
  | shell =>
    rw [hm] at h
    obtain ⟨hconnect, -⟩ := List.append_eq_nil_iff.1 h
    simp only [List.contains_iff_mem, List.mem_cons, true_or, if_true, hne, false_or] at hconnect ⊢
    simp only [hconnect, List.nil_append, and_self, if_true]

theorem opened_of_entryCall? {mode : Mode} {phase : Phase} {step : Step} {call : Call}
    (h : entryCall? mode (phase, step) = some call) : phase = .opened := by
  unfold entryCall? at h
  split at h <;> simp_all

theorem phase_step_connect (hs : session.Sound) (hp : session.phase = .idle) :
    (session.step .connect).phase = .connecting := by
  rw [(effect_step .connect hs).phase_eq, hp]
  rfl

theorem opened_le_rank_step_opened (hs : session.Sound) (hp : session.phase = .connecting) :
    Phase.opened.rank ≤ (session.step (.link .opened)).phase.rank := by
  rw [(effect_step (.link .opened) hs).phase_eq, hp]
  cases session.refusal? (.link .opened) with
  | none => decide
  | some why =>
    change Phase.opened.rank ≤ Phase.closed.rank
    decide

/-- What the steps of a run show, one after the other, is its prologue and then its body. -/
theorem flatMap_shows (hs : session.Sound) (steps : List Step) :
    ((session.history steps).flatMap fun entry => entry.2.shows session.target entry.1) =
      prologue session.target (session.history steps) ++ body session.target.mode (session.history steps) := by
  induction steps generalizing session with
  | nil => cases hm : session.target.mode <;> simp [history, prologue, body, hm]
  | cons step steps ih =>
    have hnext := hs.step step
    have hlater : ∀ entry ∈ (session.step step).history steps, (session.step step).phase.rank ≤ entry.1.rank :=
      fun entry hmem => rank_le_of_mem_history hnext hmem
    have hrest := ih hnext
    rw [(effect_step step hs).target_eq] at hrest
    rw [history, List.flatMap_cons, hrest, body, body]
    -- no phase comes back: what opens the prologue or ends it is not found in the history behind it
    by_cases hconnect : (session.phase, step) = (.idle, .connect)
    · obtain ⟨hp, rfl⟩ := Prod.mk.inj hconnect
      have hnot : (.idle, .connect) ∉ (session.step .connect).history steps := by
        intro hmem
        have hle := hlater _ hmem
        rw [phase_step_connect hs hp] at hle
        exact absurd hle (by decide)
      rw [hp, prologue_cons_connect hnot, List.append_assoc]
      rfl
    by_cases hopened : (session.phase, step) = (.connecting, .link .opened)
    · obtain ⟨hp, rfl⟩ := Prod.mk.inj hopened
      have hover : prologue session.target ((session.step (.link .opened)).history steps) = [] :=
        prologue_eq_nil fun entry hmem => Nat.le_trans (opened_le_rank_step_opened hs hp) (hlater entry hmem)
      rw [hp, prologue_cons_opened hover, hover]
      rfl
    · rw [prologue_cons hconnect hopened, shows_eq_entryCall? hconnect hopened]
      cases hcall : entryCall? session.target.mode (session.phase, step) with
      | none => simp [hcall]
      | some call =>
        have hover : prologue session.target ((session.step step).history steps) = [] := by
          refine prologue_eq_nil fun entry hmem => Nat.le_trans ?_ (hlater entry hmem)
          rw [← opened_of_entryCall? hcall]
          exact rank_le_rank_step hs step
        simp [hcall, hover]

/-- If what was shown so far ends with what the outcome leaves, then so it does after any run. -/
theorem calls_run_of_sound (hs : session.Sound) {shown : List Call}
    (h : session.screen.calls = shown ++ epilogue session.target.mode session.outcome) (steps : List Step) :
    (session.run steps).screen.calls =
      shown ++ (session.history steps).flatMap (fun entry => entry.2.shows session.target entry.1) ++
        epilogue session.target.mode (session.run steps).outcome := by
  induction steps generalizing session shown with
  | nil => simpa [Session.history, Session.run] using h
  | cons step steps ih =>
    have he := effect_step step hs
    have hnext : (session.step step).screen.calls =
        (shown ++ step.shows session.target session.phase) ++
          epilogue (session.step step).target.mode (session.step step).outcome := by
      rw [he.target_eq]
      by_cases hc : session.phase = .closed
      · rw [step_of_closed hc, hc, shows_closed, List.append_nil, h]
      · have hopen := outcome_of_phase_ne_closed hc
        rw [calls_step hs, he.outcome_eq, h, hopen]
        cases step.ending? session.phase (session.refusal? step) <;> simp [epilogue]
    have hrest := ih he.sound hnext
    rw [he.target_eq] at hrest
    rw [Session.history, List.flatMap_cons, ← List.append_assoc shown]
    exact hrest

/-- A run from the start, with what it shows in front of what its outcome leaves on the screen. -/
theorem calls_run_new (target : Target) (url : AttachUrl) (link : Link) (screen : Screen) (steps : List Step) :
    ((new target url link screen).run steps).screen.calls =
      screen.calls ++
        (prologue target ((new target url link screen).history steps) ++
          body target.mode ((new target url link screen).history steps)) ++
        epilogue target.mode ((new target url link screen).run steps).outcome := by
  have hsound := sound_new target url link screen
  have hstart : (new target url link screen).screen.calls =
      screen.calls ++ epilogue target.mode (new target url link screen).outcome := (List.append_nil _).symm
  rw [calls_run_of_sound hsound hstart steps, flatMap_shows hsound steps]
  rfl

end

/-- The calls of a run. The prologue tells that the session connects and that it opened; the body shows the frames that
came while it was open, in their order, and of those that violate the protocol nothing; the epilogue is left behind by the
outcome. Nothing follows it. -/
theorem calls_run (target : Target) (url : AttachUrl) (link : Link) (screen : Screen) (steps : List Step) :
    let start := new target url link screen
    let session := start.run steps
    session.screen.calls =
      screen.calls ++
        (prologue target (start.history steps) ++ body target.mode (start.history steps)) ++
        epilogue target.mode session.outcome ∧
    (∀ frame, frameCall? target.mode frame = none ↔ ∃ violation, target.mode.decode frame = .error violation) ∧
    ∀ more, session.outcome ≠ .detached → (session.run more).screen.calls = session.screen.calls := by
  intro start session
  refine ⟨calls_run_new target url link screen steps, frameCall?_eq_none_iff target.mode, ?_⟩
  intro more hended
  rw [run_of_closed (phase_eq_closed_of_outcome_ne hended) more]

/-- A frame that comes too early or too late is not shown. -/
example :
    body .logs [(.connecting, .link (.frame (.text "early"))), (.connecting, .link .opened),
      (.opened, .link (.frame (.text "ready"))), (.opened, .link (.closed true "")),
      (.closed, .link (.frame (.text "late")))] = [.writeLine "ready"] := rfl

end Session

end PodAttach

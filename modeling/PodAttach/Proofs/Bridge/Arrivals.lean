import PodAttach.Proofs.Bridge.Passes

/-!
# Arrivals in any order

What the socket delivers and what the terminal does come up at any time, while the loop makes its passes. A pass polls
the queue first, then the socket, then the terminal, and takes the first that is ready. Whatever the order of arrival,
the loop hears of nothing before its queue is empty, so that no frame is left behind when it ends.
-/

namespace PodAttach.Bridge

open Terminal

inductive Emission where
  | text (frame : String)
  /-- The part that this side has in the closing handshake. -/
  | close
deriving DecidableEq, Repr

/-- A loop with what waits for it, what went out of its socket, and what its passes took. -/
structure Scene where
  loop : Loop
  inbox : List Delivery
  /-- What the terminal has in store, in order; `none` is its end. -/
  events : List (Option Event)
  wire : List Emission
  passes : List Intake

inductive Move where
  | deliver (delivery : Delivery)
  | happen (event : Option Event)
  /-- One pass, in which the socket may have a reason not to take a frame. -/
  | pass (failure : Option String)
  | close
deriving DecidableEq, Repr

namespace Scene

def start (session : Session) : Scene := ⟨.start session, [], [], [], []⟩

def eventIntake : Option Event → Intake
  | some event => .event event
  | none => .detach

/-- What a pass finds ready, in the order in which it polls. -/
def ready (scene : Scene) (failure : Option String) : List Intake :=
  (if scene.loop.queue = [] then [] else [.queued failure]) ++ scene.inbox.head?.toList.map .delivery ++
    if scene.loop.session.phase.acceptsInput then scene.events.head?.toList.map eventIntake else []

def choose (scene : Scene) (failure : Option String) : Option Intake := (scene.ready failure).head?

/-- What is left of the things that wait, behind what a pass took. -/
def take (scene : Scene) (intake : Intake) : Scene where
  loop := scene.loop.take intake
  inbox :=
    match intake with
    | .delivery _ => scene.inbox.tail
    | _ => scene.inbox
  events :=
    match intake with
    | .event _ => scene.events.tail
    | .detach => scene.events.tail
    | _ => scene.events
  wire := scene.wire ++ ((scene.loop.take intake).written.drop scene.loop.written.length).map .text
  passes := scene.passes ++ [intake]

def next? (scene : Scene) : Move → Option Scene
  | .deliver delivery => some { scene with inbox := scene.inbox ++ [delivery] }
  | .happen event => some { scene with events := scene.events ++ [event] }
  | .pass failure => if scene.loop.ended = none then (scene.choose failure).map scene.take else none
  | .close =>
    if scene.loop.ended = none ∨ .close ∈ scene.wire then none else some { scene with wire := scene.wire ++ [.close] }

def run (scene : Scene) : List Move → Option Scene
  | [] => some scene
  | move :: moves => (scene.next? move).bind fun next => next.run moves

variable {scene : Scene}

/-- What is polled first and ready is what the loop may take. -/
theorem mayTake_of_choose {failure : Option String} {intake : Intake} (hr : scene.loop.ended = none)
    (h : scene.choose failure = some intake) : scene.loop.mayTake (!scene.inbox.isEmpty) intake = true := by
  unfold choose ready at h
  by_cases hq : scene.loop.queue = []
  · cases hi : scene.inbox with
    | nil =>
      by_cases hp : scene.loop.session.phase.acceptsInput = true
      · cases he : scene.events with
        | nil => simp [hq, hi, he] at h
        | cons event events =>
          cases event <;> simp [hq, hi, he, hp, eventIntake] at h <;> subst h <;>
            simp [Loop.mayTake, hr, hq, hp]
      · simp [hq, hi, hp] at h
    | cons delivery rest =>
      simp [hq, hi] at h
      subst h
      simp [Loop.mayTake, hr, hq]
  · simp [hq] at h
    subst h
    simp [Loop.mayTake, hr, hq]

/-- What holds in every scene that can be reached. -/
structure Intact (scene : Scene) : Prop where
  steady : scene.loop.Steady
  wire_eq : scene.wire = scene.loop.written.map .text ∨
    scene.loop.ended ≠ none ∧ scene.wire = scene.loop.written.map .text ++ [.close]
  complete : scene.loop.ended ≠ none → (∀ reason, scene.passes.getLast? ≠ some (.queued (some reason))) →
    scene.loop.written = scene.loop.session.link.sent

theorem intact_start {session : Session} (hu : session.Unrefused) (ho : session.phase = .opened) :
    (start session).Intact where
  steady := Loop.steady_start hu ho
  wire_eq := .inl rfl
  complete := fun hended => absurd rfl hended

theorem Intact.wire_of_running (hi : scene.Intact) (hr : scene.loop.ended = none) :
    scene.wire = scene.loop.written.map .text := by
  rcases hi.wire_eq with hwire | ⟨hended, -⟩
  · exact hwire
  · exact absurd hr hended

theorem Intact.take {failure : Option String} {intake : Intake} (hi : scene.Intact) (hr : scene.loop.ended = none)
    (hchoose : scene.choose failure = some intake) : (scene.take intake).Intact := by
  have hpass := hi.steady.take (mayTake_of_choose hr hchoose)
  -- nothing but the frames of this pass is added to the wire, for the socket closes after the last pass
  refine ⟨hpass.steady, .inl ?_, fun hended hlast => hpass.complete ?_ hended⟩
  · obtain ⟨added, hadded⟩ := hpass.written_prefix
    change scene.wire ++ ((scene.loop.take intake).written.drop scene.loop.written.length).map Emission.text =
      (scene.loop.take intake).written.map Emission.text
    rw [hi.wire_of_running hr, ← hadded, List.drop_left, List.map_append]
  · intro reason hintake
    refine hlast reason ?_
    change (scene.passes ++ [intake]).getLast? = _
    rw [List.getLast?_concat, hintake]

theorem Intact.next? {move : Move} {next : Scene} (hi : scene.Intact) (h : scene.next? move = some next) :
    next.Intact := by
  cases move with
  | deliver delivery =>
    cases h
    exact ⟨hi.steady, hi.wire_eq, hi.complete⟩
  | happen event =>
    cases h
    exact ⟨hi.steady, hi.wire_eq, hi.complete⟩
  | pass failure =>
    simp only [Scene.next?] at h
    split at h
    · next hr =>
      obtain ⟨intake, hchoose, rfl⟩ := Option.map_eq_some_iff.1 h
      exact hi.take hr hchoose
    · contradiction
  | close =>
    simp only [Scene.next?] at h
    split at h
    · contradiction
    · next hnot =>
      cases h
      obtain ⟨hended, hopen⟩ := not_or.1 hnot
      refine ⟨hi.steady, .inr ⟨hended, ?_⟩, hi.complete⟩
      rcases hi.wire_eq with hwire | ⟨-, hwire⟩
      · rw [← hwire]
      · exact absurd (hwire ▸ List.mem_append_right _ (List.mem_singleton_self _)) hopen

theorem Intact.run {moves : List Move} {last : Scene} (hi : scene.Intact) (h : scene.run moves = some last) :
    last.Intact := by
  induction moves generalizing scene with
  | nil =>
    cases h
    exact hi
  | cons move moves ih =>
    obtain ⟨next, hnext, hrest⟩ := Option.bind_eq_some_iff.1 h
    exact ih (hi.next? hnext) hrest

/-- No frame is lost, and none overtakes another. The frames of the opening are queued at first. Whenever a pass takes
anything else than a frame, everything that was sent is on the wire. So it is when the loop is over, unless the socket
failed in the last pass, and nothing but this side's part of the closing handshake follows. Even then the wire carries the
first of the frames, in order. -/
theorem wire_of_run (target : Target) (url : AttachUrl) (screen : Screen) (pending : Option Event)
    (moves : List Move) {scene : Scene}
    (h : (start (opening (Session.new target url .unbounded screen).connect pending)).run moves = some scene) :
    (Loop.start (opening (Session.new target url .unbounded screen).connect pending)).queue =
      (match target.mode with
      | .logs => []
      | .shell => Wire.Message.priming.encode :: (pending.bind Event.frame?).toList) ∧
    (∀ failure intake, scene.loop.ended = none → scene.choose failure = some intake →
      (∀ failure, intake ≠ .queued failure) →
        scene.loop.queue = [] ∧ scene.wire = scene.loop.session.link.sent.map .text) ∧
    (scene.loop.ended ≠ none → (∀ reason, scene.passes.getLast? ≠ some (.queued (some reason))) →
      scene.wire = scene.loop.session.link.sent.map .text ∨
      scene.wire = scene.loop.session.link.sent.map .text ++ [.close]) ∧
    ∃ frames, frames <+: scene.loop.session.link.sent ∧
      (scene.wire = frames.map .text ∨ scene.loop.ended ≠ none ∧ scene.wire = frames.map .text ++ [.close]) := by
  have hi : scene.Intact :=
    (intact_start (unrefused_opening target url screen pending) (phase_opening target url screen pending)).run h
  refine ⟨sent_opening target url screen pending, ?_, ?_, scene.loop.written, hi.steady.written_prefix, hi.wire_eq⟩
  · intro failure intake hr hchoose hnot
    have hq := Loop.queue_eq_nil_of_mayTake (mayTake_of_choose hr hchoose) hnot
    refine ⟨hq, ?_⟩
    rw [hi.wire_of_running hr, hi.steady.written_eq hr hq]
  · intro hended hlast
    rw [← hi.complete hended hlast]
    exact hi.wire_eq.imp_right And.right

/-- The server closes and the terminal is gone while a frame is still queued: that frame goes out, and the server is heard
before the terminal. -/
theorem wire_of_run_closed :
    ∃ scene : Scene,
      (start (opening (Session.new ⟨"ns", "pod", "c", .shell, none, none⟩ ⟨"ws://h/"⟩ .unbounded
        (.new (.new fun _ => false))).connect (some (.resize 80 24)))).run
          [.pass none, .happen (some (.input "q")), .pass none, .pass none, .deliver (.close "bye"), .happen none,
            .pass none, .pass none, .close] = some scene ∧
      scene.loop.ended = some .closed ∧
      scene.wire = [.text Wire.Message.priming.encode, .text (Wire.Message.resize 80 24).encode,
        .text (Wire.Message.stdin "q").encode, .close] := by
  refine ⟨_, rfl, rfl, ?_⟩
  have hwire := (wire_of_run ⟨"ns", "pod", "c", .shell, none, none⟩ ⟨"ws://h/"⟩ (.new (.new fun _ => false))
    (some (.resize 80 24)) [.pass none, .happen (some (.input "q")), .pass none, .pass none, .deliver (.close "bye"),
      .happen none, .pass none, .pass none, .close] rfl).2.2.1 nofun nofun
  rcases hwire with hopen | hclosed
  · exact absurd (congrArg List.length hopen) (by decide)
  · exact hclosed

end Scene

end PodAttach.Bridge

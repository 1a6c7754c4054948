import PodAttach.Bridge.Script
import PodAttach.Proofs.Session.Steps

/-!
# The passes of a loop

The session of a bridge sends into a queue, which refuses nothing. So a loop that still runs has an open session, and what
it wrote together with what is queued is what its session sent. A pass either moves one frame from the queue to the
socket, or finds the queue empty and hands one thing to the session. The loop ends only from an empty queue, or with a
frame that the socket did not take.
-/

namespace PodAttach

open Terminal Wire

namespace Session

/-! ### Sessions that are refused nothing -/

/-- A session whose link takes every frame. -/
structure Unrefused (session : Session) : Prop where
  sound : session.Sound
  refusal_eq : session.link.refusal? = fun _ => none

theorem unrefused_new (target : Target) (url : AttachUrl) (screen : Screen) :
    (new target url .unbounded screen).Unrefused :=
  ⟨sound_new target url .unbounded screen, rfl⟩

variable {session : Session}

theorem Unrefused.refusal?_eq (hu : session.Unrefused) (step : Step) : session.refusal? step = none := by
  have hnone : session.link.refusal = none := by rw [Link.refusal, hu.refusal_eq]
  unfold refusal?
  rw [hnone]
  cases step.frame? session.target.mode session.phase <;> rfl

theorem Unrefused.step (hu : session.Unrefused) (step : Step) : (session.step step).Unrefused where
  sound := hu.sound.step step
  refusal_eq := by
    rw [(effect_step step hu.sound).link_eq]
    cases step.frame? session.target.mode session.phase with
    | none => exact hu.refusal_eq
    | some frame => exact hu.refusal_eq

theorem Unrefused.run (hu : session.Unrefused) (steps : List Step) : (session.run steps).Unrefused := by
  induction steps generalizing session with
  | nil => exact hu
  | cons step steps ih => exact ih (hu.step step)

theorem Unrefused.phase_step (hu : session.Unrefused) (step : Step) :
    (session.step step).phase = step.phaseAfter session.phase none := by
  rw [(effect_step step hu.sound).phase_eq, hu.refusal?_eq]

theorem Unrefused.sent_step (hu : session.Unrefused) (step : Step) :
    (session.step step).link.sent =
      session.link.sent ++ (step.frame? session.target.mode session.phase).toList := by
  rw [(effect_step step hu.sound).link_eq]
  cases step.frame? session.target.mode session.phase with
  | none => simp
  | some frame => simp [Link.send, hu.refusal_eq]

/-- What a connection reports to an open session is never answered with a frame. -/
theorem Unrefused.sent_step_link (hu : session.Unrefused) (ho : session.phase = .opened) (event : LinkEvent) :
    (session.step (.link event)).link.sent = session.link.sent := by
  have hframe : (Step.link event).frame? session.target.mode session.phase = none := by
    cases event <;> simp [Step.frame?, ho]
  rw [hu.sent_step, hframe]
  exact List.append_nil _

theorem Unrefused.phase_step_terminal (hu : session.Unrefused) (event : Event) :
    (session.step (.terminal event)).phase = session.phase := by
  rw [hu.phase_step]
  rfl

theorem Unrefused.phase_step_of_opened (hu : session.Unrefused) (ho : session.phase = .opened) (step : Step) :
    (session.step step).phase = .opened ∨ (session.step step).phase = .closed := by
  rw [hu.phase_step, ho]
  unfold Step.phaseAfter
  split <;> simp [Phase.isLive]

end Session

namespace Bridge

open Session

/-! ### Opening -/

theorem opening_eq_run (session : Session) (pending : Option Event) :
    opening session pending = session.run (.link .opened :: (pending.map Step.terminal).toList) := by
  cases pending <;> rfl

section

variable (target : Target) (url : AttachUrl) (screen : Screen) (pending : Option Event)

theorem unrefused_connect : (Session.new target url .unbounded screen).connect.Unrefused :=
  (unrefused_new target url screen).step .connect

theorem phase_connect : (Session.new target url .unbounded screen).connect.phase = .connecting :=
  (unrefused_new target url screen).phase_step .connect

theorem sent_connect : (Session.new target url .unbounded screen).connect.link.sent = [] :=
  (unrefused_new target url screen).sent_step .connect

theorem phase_onOpened : ((Session.new target url .unbounded screen).connect.step (.link .opened)).phase = .opened := by
  rw [(unrefused_connect target url screen).phase_step, phase_connect]
  rfl

theorem unrefused_opening : (opening (Session.new target url .unbounded screen).connect pending).Unrefused := by
  rw [opening_eq_run]
  exact (unrefused_connect target url screen).run _

theorem phase_opening : (opening (Session.new target url .unbounded screen).connect pending).phase = .opened := by
  have hopened := phase_onOpened target url screen
  rw [opening_eq_run]
  cases pending with
  | none => exact hopened
  | some event => exact (((unrefused_connect target url screen).step _).phase_step_terminal event).trans hopened

/-- The frames of an opening: the priming frame, and the last size if there is any to it. -/
theorem sent_opening :
    (opening (Session.new target url .unbounded screen).connect pending).link.sent =
      match target.mode with
      | .logs => []
      | .shell => Message.priming.encode :: (pending.bind Event.frame?).toList := by
  have hu := unrefused_connect target url screen
  have htarget : (Session.new target url .unbounded screen).connect.target = target :=
    (effect_connect (sound_new target url .unbounded screen)).target_eq
  have hpriming := hu.sent_step (.link .opened)
  rw [sent_connect, htarget, phase_connect, List.nil_append] at hpriming
  have hsize : ∀ event, (((Session.new target url .unbounded screen).connect.step (.link .opened)).step
      (.terminal event)).link.sent =
        ((Step.link .opened).frame? target.mode .connecting).toList ++
          ((Step.terminal event).frame? target.mode .opened).toList := by
    intro event
    rw [(hu.step (.link .opened)).sent_step, hpriming, phase_onOpened, (effect_step (.link .opened) hu.sound).target_eq,
      htarget]
  rw [opening_eq_run]
  cases hm : target.mode <;> cases pending <;>
    simp_all [Session.run, Step.frame?]

end

namespace Loop

/-! ### Between two passes -/

structure Steady (loop : Loop) : Prop where
  unrefused : loop.session.Unrefused
  written_prefix : loop.written <+: loop.session.link.sent
  opened_of_running : loop.ended = none → loop.session.phase = .opened
  taken_of_running : loop.ended = none → loop.taken = loop.written.length

theorem steady_start {session : Session} (hu : session.Unrefused) (ho : session.phase = .opened) :
    (start session).Steady where
  unrefused := hu
  written_prefix := List.nil_prefix
  opened_of_running := fun _ => ho
  taken_of_running := fun _ => rfl

variable {loop : Loop}

/-- Nothing is ever between the queue and the socket. -/
theorem Steady.written_append_queue (hs : loop.Steady) (hr : loop.ended = none) :
    loop.written ++ loop.queue = loop.session.link.sent := by
  obtain ⟨rest, hrest⟩ := hs.written_prefix
  rw [queue, hs.taken_of_running hr, ← hrest, List.drop_left]

theorem Steady.written_eq (hs : loop.Steady) (hr : loop.ended = none) (hq : loop.queue = []) :
    loop.written = loop.session.link.sent := by
  rw [← hs.written_append_queue hr, hq, List.append_nil]

theorem settle_eq (loop : Loop) :
    loop.settle =
      { loop with ended := if loop.session.phase = .closed then some loop.session.outcome else loop.ended } := by
  unfold settle
  by_cases hc : loop.session.phase = .closed
  · rw [if_pos (by simp [Phase.isFinal, hc]), if_pos hc]
  · rw [if_neg (by simpa [Phase.isFinal] using hc), if_neg hc]

theorem settle_of_opened (ho : loop.session.phase = .opened) : loop.settle = loop := by
  rw [settle_eq, if_neg (by simp [ho])]

/-! ### A frame of the queue -/

theorem take_queued {frame : String} {rest : List String} (ho : loop.session.phase = .opened)
    (hq : loop.queue = frame :: rest) :
    loop.take (.queued none) = { loop with taken := loop.taken + 1, written := loop.written ++ [frame] } := by
  have hframe : loop.takeFrame none = { loop with taken := loop.taken + 1, written := loop.written ++ [frame] } := by
    simp only [takeFrame, hq]
  rw [take, hframe]
  exact settle_of_opened ho

theorem queue_take_queued {frame : String} {rest : List String} (ho : loop.session.phase = .opened)
    (hq : loop.queue = frame :: rest) : (loop.take (.queued none)).queue = rest := by
  rw [take_queued ho hq]
  change loop.session.link.sent.drop (loop.taken + 1) = rest
  rw [← List.tail_drop, ← queue, hq, List.tail_cons]

/-- A frame that the socket does not take ends the loop. -/
theorem take_queued_failed {frame : String} {rest : List String} (reason : String)
    (ho : loop.session.phase = .opened) (hq : loop.queue = frame :: rest) :
    loop.take (.queued (some reason)) =
      ⟨loop.session.step (.link (.failed reason)), loop.taken + 1, loop.written,
        some (loop.session.step (.link (.failed reason))).outcome⟩ := by
  have hframe : loop.takeFrame (some reason) =
      { loop with taken := loop.taken + 1, session := loop.session.step (.link (.failed reason)) } := by
    simp only [takeFrame, hq]
    rfl
  have hlive : loop.session.phase.isLive = true := by
    rw [ho]
    rfl
  have hclosed : (loop.session.step (.link (.failed reason))).phase = .closed := by
    change (loop.session.fail reason).phase = .closed
    rw [fail_of_isLive hlive]
    rfl
  rw [take, hframe, settle_eq, if_pos hclosed]

/-- While the socket takes everything, the loop writes its whole queue and changes nothing else. -/
theorem foldl_take_queued (ho : loop.session.phase = .opened) (frames : List String) (hq : loop.queue = frames) :
    frames.foldl (fun loop _ => loop.take (.queued none)) loop =
      { loop with taken := loop.taken + frames.length, written := loop.written ++ frames } := by
  induction frames generalizing loop with
  | nil => simp
  | cons frame rest ih =>
    have hnext := queue_take_queued ho hq
    rw [List.foldl_cons, take_queued ho hq] at *
    rw [ih (by exact ho) hnext]
    simp [Nat.add_assoc, Nat.add_comm 1]

/-! ### Something for the session -/

theorem take_report {delivery : Delivery} {event : LinkEvent} (hreport : delivery.report? = some event) :
    loop.take (.delivery delivery) =
      { loop with
        session := loop.session.step (.link event)
        ended :=
          if (loop.session.step (.link event)).phase = .closed then some (loop.session.step (.link event)).outcome
          else loop.ended } := by
  have htold : loop.takeDelivery delivery = { loop with session := loop.session.step (.link event) } := by
    simp only [takeDelivery, hreport]
    rfl
  rw [take, htold, settle_eq]

/-- What is no part of a message passes the session by. -/
theorem take_unreported {delivery : Delivery} (ho : loop.session.phase = .opened) (hreport : delivery.report? = none) :
    loop.take (.delivery delivery) = loop := by
  have htold : loop.takeDelivery delivery = loop := by simp only [takeDelivery, hreport]
  rw [take, htold]
  exact settle_of_opened ho

theorem take_event (hu : loop.session.Unrefused) (ho : loop.session.phase = .opened) (event : Event) :
    loop.take (.event event) = { loop with session := loop.session.step (.terminal event) } := by
  have hnext : (loop.session.step (.terminal event)).phase = .opened := (hu.phase_step_terminal event).trans ho
  exact settle_of_opened (by exact hnext)

/-! ### One pass -/

theorem running_of_mayTake {delivered : Bool} {intake : Intake} (hmay : loop.mayTake delivered intake = true) :
    loop.ended = none := by
  cases intake <;> simp_all [mayTake]

theorem queue_eq_nil_of_mayTake {delivered : Bool} {intake : Intake} (hmay : loop.mayTake delivered intake = true)
    (hnot : ∀ failure, intake ≠ .queued failure) : loop.queue = [] := by
  cases intake with
  | queued failure => exact absurd rfl (hnot failure)
  | _ => simp_all [mayTake]

theorem exists_queue_eq_cons_of_mayTake {delivered : Bool} {failure : Option String}
    (hmay : loop.mayTake delivered (.queued failure) = true) : ∃ frame rest, loop.queue = frame :: rest := by
  simp only [mayTake, Bool.and_eq_true, Bool.not_eq_true', List.isEmpty_eq_false_iff] at hmay
  exact List.exists_cons_of_ne_nil hmay.2

/-- The session moves on, and has sent nothing less than before. -/
theorem Steady.advance {next : Session} {ended : Option Outcome} (hs : loop.Steady) (hr : loop.ended = none)
    (hu : next.Unrefused) (hsent : loop.session.link.sent <+: next.link.sent)
    (hended : ended = none → next.phase = .opened) : ({ loop with session := next, ended } : Loop).Steady where
  unrefused := hu
  written_prefix := hs.written_prefix.trans hsent
  opened_of_running := hended
  taken_of_running := fun _ => hs.taken_of_running hr

structure Passed (loop : Loop) (intake : Intake) (next : Loop) : Prop where
  steady : next.Steady
  written_prefix : loop.written <+: next.written
  /-- If this pass was the last, everything was written, unless the socket failed. -/
  complete : (∀ reason, intake ≠ .queued (some reason)) → next.ended ≠ none → next.written = next.session.link.sent

theorem passed_queued {failure : Option String} {frame : String} {rest : List String} (hs : loop.Steady)
    (hr : loop.ended = none) (hq : loop.queue = frame :: rest) :
    loop.Passed (.queued failure) (loop.take (.queued failure)) := by
  have ho := hs.opened_of_running hr
  cases failure with
  | none =>
    have hsent := hs.written_append_queue hr
    rw [take_queued ho hq]
    refine ⟨⟨hs.unrefused, ⟨rest, ?_⟩, fun _ => ho, fun _ => ?_⟩, List.prefix_append _ _, fun _ hended => ?_⟩
    · rw [← hsent, hq, List.append_assoc]
      rfl
    · change loop.taken + 1 = (loop.written ++ [frame]).length
      rw [hs.taken_of_running hr, List.length_append]
      rfl
    · exact absurd hr hended
  | some reason =>
    rw [take_queued_failed reason ho hq]
    refine ⟨⟨hs.unrefused.step (.link (.failed reason)), ?_, nofun, nofun⟩, List.prefix_rfl, fun hfail => ?_⟩
    · change loop.written <+: (loop.session.step (.link (.failed reason))).link.sent
      rw [hs.unrefused.sent_step_link ho]
      exact hs.written_prefix
    · exact absurd rfl (hfail reason)

theorem passed_delivery (hs : loop.Steady) (hr : loop.ended = none) (hq : loop.queue = []) (delivery : Delivery) :
    loop.Passed (.delivery delivery) (loop.take (.delivery delivery)) := by
  have ho := hs.opened_of_running hr
  cases hreport : delivery.report? with
  | none =>
    rw [take_unreported ho hreport]
    exact ⟨hs, List.prefix_rfl, fun _ hended => absurd hr hended⟩
  | some event =>
    have hsent := hs.unrefused.sent_step_link ho event
    rw [take_report hreport]
    -- a report is never answered, so what was written is still all there is
    refine ⟨hs.advance hr (hs.unrefused.step _) ?_ ?_, List.prefix_rfl, fun _ _ => ?_⟩
    · exact hsent ▸ List.prefix_rfl
    · intro hended
      rcases hs.unrefused.phase_step_of_opened ho (.link event) with hopen | hclosed
      · exact hopen
      · rw [if_pos hclosed] at hended
        contradiction
    · change loop.written = (loop.session.step (.link event)).link.sent
      rw [hsent, hs.written_eq hr hq]

theorem passed_event (hs : loop.Steady) (hr : loop.ended = none) (event : Event) :
    loop.Passed (.event event) (loop.take (.event event)) := by
  have ho := hs.opened_of_running hr
  rw [take_event hs.unrefused ho]
  refine ⟨hs.advance hr (hs.unrefused.step _) ?_ fun _ => ?_, List.prefix_rfl, fun _ hended => absurd hr hended⟩
  · rw [hs.unrefused.sent_step]
    exact List.prefix_append _ _
  · exact (hs.unrefused.phase_step_terminal event).trans ho

theorem passed_detach (hs : loop.Steady) (hr : loop.ended = none) (hq : loop.queue = []) :
    loop.Passed .detach (loop.take .detach) :=
  ⟨⟨hs.unrefused, hs.written_prefix, nofun, nofun⟩, List.prefix_rfl, fun _ _ => hs.written_eq hr hq⟩

theorem Steady.take {delivered : Bool} {intake : Intake} (hs : loop.Steady)
    (hmay : loop.mayTake delivered intake = true) : loop.Passed intake (loop.take intake) := by
  have hr := running_of_mayTake hmay
  cases intake with
  | queued failure =>
    obtain ⟨frame, rest, hq⟩ := exists_queue_eq_cons_of_mayTake hmay
    exact passed_queued hs hr hq
  | delivery delivery => exact passed_delivery hs hr (queue_eq_nil_of_mayTake hmay nofun) delivery
  | event event => exact passed_event hs hr event
  | detach => exact passed_detach hs hr (queue_eq_nil_of_mayTake hmay nofun)

end Loop

end Bridge

end PodAttach

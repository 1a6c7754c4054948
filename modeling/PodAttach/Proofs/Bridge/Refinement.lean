import PodAttach.Proofs.Bridge.Passes
import PodAttach.Proofs.Bridge.Waiting

/-!
# A bridge does what its session does

A script that is played act by act leaves the loop at rest after each of them: nothing is queued, so that the loop is
told by its session alone. What an act does to the loop is therefore what one step does to the session, or nothing; and
what the two sides see of a bridge is what a session over a link without limit shows for the steps of the script.
-/

namespace PodAttach

open Terminal

/-- The steps up to the one that closes the session. -/
def Session.untilClosed (session : Session) : List Session.Step → List Session.Step
  | [] => []
  | step :: steps => if session.phase = .closed then [] else step :: (session.step step).untilClosed steps

theorem Session.run_untilClosed (session : Session) (steps : List Session.Step) :
    session.run (session.untilClosed steps) = session.run steps := by
  induction steps generalizing session with
  | nil => rfl
  | cons step steps ih =>
    unfold untilClosed
    split
    · next hc => rw [run_of_closed hc, run_of_closed hc]
    · exact ih (session.step step)

namespace Bridge

open Session

/-! ### What the two sides see -/

def Arrival.frame? : Arrival → Option String
  | .text frame => some frame
  | .pong _ => none

def Exchange.frames (exchange : Exchange) : List String := exchange.arrivals.filterMap Arrival.frame?

/-- The frames that reach the server. -/
def Report.frames (report : Report) : List String :=
  (report.conversation.map fun conversation => conversation.exchanges.flatMap Exchange.frames).getD []

def Report.calls (report : Report) : List Call :=
  (report.conversation.map fun conversation => conversation.exchanges.flatMap Exchange.calls).getD [] ++ report.rest

/-- A report tells of a bridge what can be seen of a session. -/
structure Report.Shows (report : Report) (session : Session) : Prop where
  outcome_eq : report.outcome = session.outcome
  calls_eq : report.calls = session.screen.calls
  frames_eq : report.frames = session.link.sent

/-! ### Steps of a script -/

/-- What a session is to make of an act. -/
def Act.step? : Act → Option Step
  | .delivery (.text data) => some (.link (.frame (.text data)))
  | .delivery (.binary bytes) => some (.link (.frame (.binary bytes)))
  | .delivery (.ping _) => none
  | .delivery (.pong _) => none
  | .delivery (.raw _) => none
  | .delivery (.close reason) => some (.link (.closed true reason))
  | .delivery .reset => some (.link (.closed false "connection reset without closing handshake"))
  | .delivery .exhausted => some (.link (.closed false "connection dropped"))
  | .delivery (.failed reason) => some (.link (.failed reason))
  | .event happened => some (.terminal happened)
  | .detach => none

/-- The loop makes of a delivery what a session is to make of it. -/
theorem Act.step?_delivery (delivery : Delivery) : (Act.delivery delivery).step? = delivery.report?.map .link := by
  cases delivery <;> rfl

/-- The steps of some acts, up to the end of the terminal's events. -/
def heard (acts : List Act) : List Step := (acts.takeWhile (· ≠ .detach)).filterMap Act.step?

theorem heard_of_none {act : Act} (acts : List Act) (hne : act ≠ .detach) (h : act.step? = none) :
    heard (act :: acts) = heard acts := by
  rw [heard, List.takeWhile_cons_of_pos (by simpa using hne), List.filterMap_cons_none h]
  rfl

theorem heard_of_some {act : Act} {step : Step} (acts : List Act) (h : act.step? = some step) :
    heard (act :: acts) = step :: heard acts := by
  have hne : act ≠ .detach := by
    rintro rfl
    contradiction
  rw [heard, List.takeWhile_cons_of_pos (by simpa using hne), List.filterMap_cons_some h]
  rfl

namespace Loop

/-! ### Loops at rest -/

/-- A loop that has written all that its session sent. -/
def resting (session : Session) (ended : Option Outcome) : Loop :=
  ⟨session, session.link.sent.length, session.link.sent, ended⟩

theorem queue_resting (session : Session) (ended : Option Outcome) : (resting session ended).queue = [] :=
  List.drop_length

theorem steady_resting {session : Session} (hu : session.Unrefused) (ho : session.phase = .opened) :
    (resting session none).Steady where
  unrefused := hu
  written_prefix := List.prefix_rfl
  opened_of_running := fun _ => ho
  taken_of_running := fun _ => rfl

theorem drain_resting (session : Session) (ended : Option Outcome) :
    (resting session ended).drain = resting session ended := by
  rw [drain, queue_resting]
  rfl

theorem Steady.drain_eq {loop : Loop} (hs : loop.Steady) (hr : loop.ended = none) :
    loop.drain = resting loop.session none := by
  have hsent := hs.written_append_queue hr
  have hlength : loop.taken + loop.queue.length = loop.session.link.sent.length := by
    rw [hs.taken_of_running hr, ← List.length_append, hsent]
  rw [drain, foldl_take_queued (hs.opened_of_running hr) loop.queue rfl, hlength, hsent, hr]
  rfl

def over? (session : Session) : Option Outcome := if session.phase = .closed then some session.outcome else none

/-! ### One act -/

theorem carryOut_of_ended (session : Session) (outcome : Outcome) (act : Act) :
    (resting session (some outcome)).carryOut act = resting session (some outcome) := by
  cases act <;> rfl

section

variable {session : Session}

theorem carryOut_of_opened (ho : session.phase = .opened) (act : Act) :
    (resting session none).carryOut act = ((resting session none).take act.intake).drain := by
  have hmay : (resting session none).mayTake false act.intake = true := by
    have hq := queue_resting session none
    have hr : (resting session none).ended = none := rfl
    have hphase : (resting session none).session.phase = .opened := ho
    cases act <;> simp [mayTake, Act.intake, Phase.acceptsInput, hq, hr, hphase]
  rw [carryOut, if_pos hmay]

theorem carryOut_detach (ho : session.phase = .opened) :
    (resting session none).carryOut .detach = resting session (some .detached) := by
  rw [carryOut_of_opened ho]
  exact drain_resting session (some .detached)

theorem carryOut_of_none {act : Act} (ho : session.phase = .opened) (hne : act ≠ .detach) (h : act.step? = none) :
    (resting session none).carryOut act = resting session none := by
  cases act with
  | delivery delivery =>
    rw [Act.step?_delivery] at h
    have hreport : delivery.report? = none := Option.map_eq_none_iff.1 h
    rw [carryOut_of_opened ho, Act.intake, take_unreported ho hreport, drain_resting]
  | event event => contradiction
  | detach => exact absurd rfl hne

theorem carryOut_of_some {act : Act} {step : Step} (hu : session.Unrefused) (ho : session.phase = .opened)
    (h : act.step? = some step) :
    (resting session none).carryOut act = resting (session.step step) (over? (session.step step)) := by
  rw [carryOut_of_opened ho]
  cases act with
  | delivery delivery =>
    rw [Act.step?_delivery] at h
    obtain ⟨event, hreport, rfl⟩ := Option.map_eq_some_iff.1 h
    have hsent := hu.sent_step_link ho event
    have htake : (resting session none).take (.delivery delivery) =
        resting (session.step (.link event)) (over? (session.step (.link event))) := by
      rw [take_report hreport, resting, resting, hsent]
      rfl
    rw [Act.intake, htake, drain_resting]
  | event event =>
    cases h
    have hphase : (session.step (.terminal event)).phase = .opened := (hu.phase_step_terminal event).trans ho
    have hpass := passed_event (steady_resting hu ho) rfl event
    rw [take_event hu ho] at hpass
    rw [Act.intake, take_event hu ho, hpass.steady.drain_eq rfl, over?, if_neg (by simp [hphase])]
    rfl
  | detach => contradiction

end

/-! ### A whole script -/

theorem calls_append_exchange (before after : Loop) (reply : List Arrival)
    (h : before.session.screen.calls <+: after.session.screen.calls) :
    before.session.screen.calls ++ (before.exchange after reply).calls = after.session.screen.calls := by
  obtain ⟨added, hadded⟩ := h
  rw [exchange, ← hadded, List.drop_left]

theorem filterMap_map_text (frames : List String) : (frames.map Arrival.text).filterMap Arrival.frame? = frames := by
  rw [List.filterMap_map]
  exact List.filterMap_some

/-- The socket's own answers are no frames. -/
theorem written_append_exchange (before after : Loop) (act : Act) (h : before.written <+: after.written) :
    before.written ++ (before.exchange after act.reply).frames = after.written := by
  have hreply : act.reply.filterMap Arrival.frame? = [] := by
    unfold Act.reply
    split <;> rfl
  obtain ⟨added, hadded⟩ := h
  rw [Exchange.frames, exchange, ← hadded, List.drop_left, List.filterMap_append, hreply, filterMap_map_text,
    List.nil_append]

/-- What is left behind by acts that were played from a loop at rest. -/
structure Played (before after : Session) (played : Loop × List Exchange) : Prop where
  session_eq : played.1.session = after
  outcome_eq : played.1.ended.getD after.outcome = after.outcome
  calls_eq : before.screen.calls ++ played.2.flatMap Exchange.calls = after.screen.calls
  frames_eq : before.link.sent ++ played.2.flatMap Exchange.frames = after.link.sent

theorem Played.cons {session next after : Session} {ended ended' : Option Outcome} {act : Act} {acts : List Act}
    (hact : (resting session ended).carryOut act = resting next ended')
    (hcalls : session.screen.calls <+: next.screen.calls) (hsent : session.link.sent <+: next.link.sent)
    (hrest : Played next after ((resting next ended').play acts)) :
    Played session after ((resting session ended).play (act :: acts)) := by
  have hnow := calls_append_exchange (resting session ended) (resting next ended') act.reply hcalls
  have hwritten := written_append_exchange (resting session ended) (resting next ended') act hsent
  have hplay : (resting session ended).play (act :: acts) =
      (((resting next ended').play acts).1,
        (resting session ended).exchange (resting next ended') act.reply :: ((resting next ended').play acts).2) := by
    rw [play, hact]
  rw [hplay]
  refine ⟨hrest.session_eq, hrest.outcome_eq, ?_, ?_⟩
  · rw [List.flatMap_cons, ← List.append_assoc, ← hrest.calls_eq]
    exact congrArg (· ++ _) hnow
  · rw [List.flatMap_cons, ← List.append_assoc, ← hrest.frames_eq]
    exact congrArg (· ++ _) hwritten

theorem played_of_ended {session : Session} {outcome : Outcome} (ho : outcome = session.outcome) (acts : List Act) :
    Played session session ((resting session (some outcome)).play acts) := by
  induction acts with
  | nil => exact ⟨rfl, ho, List.append_nil _, List.append_nil _⟩
  | cons act acts ih =>
    exact Played.cons (carryOut_of_ended session outcome act) List.prefix_rfl List.prefix_rfl ih

/-- A loop at rest follows its session through the steps of any acts. -/
theorem played_of_opened {session : Session} (hu : session.Unrefused) (ho : session.phase = .opened)
    (acts : List Act) : Played session (session.run (heard acts)) ((resting session none).play acts) := by
  induction acts generalizing session with
  | nil => exact ⟨rfl, rfl, List.append_nil _, List.append_nil _⟩
  | cons act acts ih =>
    cases hstep : act.step? with
    | none =>
      by_cases hdetach : act = .detach
      · subst hdetach
        have hdetached : Outcome.detached = session.outcome := by simp [outcome, ho]
        exact Played.cons (carryOut_detach ho) List.prefix_rfl List.prefix_rfl (played_of_ended hdetached acts)
      · rw [heard_of_none acts hdetach hstep]
        exact Played.cons (carryOut_of_none ho hdetach hstep) List.prefix_rfl List.prefix_rfl (ih hu ho)
    | some step =>
      have hcalls : session.screen.calls <+: (session.step step).screen.calls :=
        ⟨_, (effect_step step hu.sound).calls_eq.symm⟩
      have hsent : session.link.sent <+: (session.step step).link.sent := ⟨_, (hu.sent_step step).symm⟩
      rw [heard_of_some acts hstep]
      refine Played.cons (carryOut_of_some hu ho hstep) hcalls hsent ?_
      -- a step that closes the session ends the loop, and both pass over the remaining acts
      change Played _ ((session.step step).run (heard acts)) _
      rcases hu.phase_step_of_opened ho step with hopen | hclosed
      · rw [over?, if_neg (by simp [hopen])]
        exact ih (hu.step step) hopen
      · rw [over?, if_pos hclosed, run_of_closed hclosed]
        exact played_of_ended rfl acts

end Loop

/-! ### The whole bridge -/

theorem shows_unopened {session : Session} {outcome : Outcome} (houtcome : outcome = session.outcome)
    (hsent : session.link.sent = []) : (unopened session outcome).Shows session where
  outcome_eq := houtcome
  calls_eq := rfl
  frames_eq := hsent.symm

theorem shows_converse {session : Session} (hu : session.Unrefused) (ho : session.phase = .opened) (acts : List Act) :
    (converse session acts).Shows (session.run (heard acts)) := by
  have hdrain : (Loop.start session).drain = Loop.resting session none := (Loop.steady_start hu ho).drain_eq rfl
  have hplayed := Loop.played_of_opened hu ho acts
  rw [converse, hdrain]
  refine ⟨?_, ?_, ?_⟩
  · refine Eq.trans ?_ hplayed.outcome_eq
    rw [← hplayed.session_eq]
  · refine Eq.trans ?_ hplayed.calls_eq
    rw [Report.calls, List.append_nil]
    rfl
  · refine Eq.trans ?_ hplayed.frames_eq
    change (session.link.sent.map Arrival.text).filterMap Arrival.frame? ++ _ = _
    rw [Loop.filterMap_map_text]
    rfl

/-- What is reported of a bridge whose handshake ends in some way. -/
def Exit.report (acts : List Act) : Exit → Report
  | .opened session => converse session acts
  | .over session outcome => unopened session outcome

theorem attach_of_preflight {endpoint : Endpoint} {target : Target} {url : AttachUrl} (screen : Screen)
    (script : Script) (hurl : endpoint.preflight target = .ok url) :
    attach endpoint target screen script = .ok
      (((Handshake.start (Session.new target url .unbounded screen).connect).run (script.handshake.result url)
        script.waiting).report script.acts) := by
  rw [attach, hurl]
  dsimp only [bind, Except.bind]
  split <;> next hrun => rw [hrun]; rfl

/-- If dialling fails, so does the session, in the same words. -/
theorem shows_failed {session : Session} (hu : session.Unrefused) (hsent : session.link.sent = [])
    (last : Option Event) (fault : DialFault) (acts : List Act) :
    ((Handshake.conclude ⟨session, last⟩ (.error fault)).report acts).Shows
      (session.run [.link (.failed fault.message)]) := by
  have hfailed : (session.step (.link (.failed fault.message))).link.sent = [] := by
    rw [hu.sent_step, hsent]
    rfl
  exact shows_unopened rfl hfailed

theorem shows_opened (target : Target) (url : AttachUrl) (screen : Screen) (last : Option Event) (acts : List Act) :
    let opened := (Session.new target url .unbounded screen).run
      ([.connect, .link .opened] ++ (last.map Step.terminal).toList)
    ((Handshake.conclude ⟨(Session.new target url .unbounded screen).connect, last⟩ (.ok ())).report acts).Shows
      (opened.run (opened.untilClosed (heard acts))) := by
  intro opened
  have hopened : opening (Session.new target url .unbounded screen).connect last = opened :=
    opening_eq_run (Session.new target url .unbounded screen).connect last
  rw [run_untilClosed, ← hopened]
  exact shows_converse (unrefused_opening target url screen last) (phase_opening target url screen last) acts

/-- A bridge refines its session. Nothing happens if there is no URL. If the terminal is gone before dialling ends, the
session is left connecting; if dialling fails, the session fails. Otherwise the screen and the server see a session that
takes the opening, the last size that came up before it, and then the steps of the script up to its end. -/
theorem attach_refines (endpoint : Endpoint) (target : Target) (screen : Screen) (script : Script) :
    match endpoint.preflight target with
    | .error error => attach endpoint target screen script = .error error
    | .ok url =>
      let start := Session.new target url .unbounded screen
      ∃ report, attach endpoint target screen script = .ok report ∧
        (none ∈ script.waiting →
          report.Shows (start.run [.connect]) ∧ report.outcome = .detached ∧ report.frames = []) ∧
        ∀ events, script.waiting = events.map some →
          match script.handshake.result url with
          | .error fault => report.Shows (start.run [.connect, .link (.failed fault.message)])
          | .ok () =>
            ∃ last, IsLastSize events last ∧
              let opened := start.run ([.connect, .link .opened] ++ (last.map Step.terminal).toList)
              report.Shows (opened.run (opened.untilClosed (heard script.acts))) := by
  split
  · next error hurl =>
    rw [attach, hurl]
    rfl
  · next url hurl =>
    intro start
    have hu : start.connect.Unrefused := unrefused_connect target url screen
    have hsent : start.connect.link.sent = [] := sent_connect target url screen
    refine ⟨_, attach_of_preflight screen script hurl, fun hgone => ?_, fun events hevents => ?_⟩
    · have houtcome : Outcome.detached = start.connect.outcome := by rw [outcome, phase_connect]
      rw [Handshake.run_of_none_mem hgone]
      exact ⟨shows_unopened houtcome hsent, rfl, rfl⟩
    · obtain ⟨last, hlast, hrun⟩ :=
        Handshake.exists_run_start start.connect events (script.handshake.result url)
      rw [hevents, hrun]
      cases script.handshake.result url with
      | error fault => exact shows_failed hu hsent last fault script.acts
      | ok _ => exact ⟨last, hlast, shows_opened target url screen last script.acts⟩

/-- What was typed before the socket was there is lost, and so is what comes after a failed read. -/
example :
    (attach ⟨"h", false⟩ ⟨"ns", "pod", "c", .shell, none, none⟩ (.new (.new fun _ => false))
      ⟨[some (.resize 80 24), some (.input "x"), some (.resize 90 30)], .ofAnswer (.ok ()),
        [.event (.input "ls"), .delivery (.failed "IO error: reset"), .event (.input "late")]⟩).map
      (fun report => (report.outcome, report.frames)) =
    .ok (.failed "IO error: reset",
      [Wire.Message.priming.encode, (Wire.Message.resize 90 30).encode, (Wire.Message.stdin "ls").encode]) := by
  rfl

/-- A session that no server takes fails in the words of the network. -/
example :
    (attach ⟨"h", false⟩ ⟨"ns", "pod", "c", .shell, none, none⟩ (.new (.new fun _ => false))
      ⟨[some (.resize 80 24)], .error (.network "Connection refused (os error 111)"), []⟩).map Report.outcome =
    .ok (.failed "IO error: Connection refused (os error 111)") := by
  rfl

end Bridge

end PodAttach

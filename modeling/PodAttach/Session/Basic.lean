import PodAttach.Endpoint
import PodAttach.Session.Link
import PodAttach.Session.Phase
import PodAttach.Terminal.Relay

/-!
# Sessions

One session joins one terminal to one container. It has a link to send on and a relay to show things with, follows the
reports of both, and ends either closed by the peer or failed; it is never opened again.
-/

namespace PodAttach

open Terminal Wire

inductive Outcome where
  | closed
  | failed (reason : String)
  /-- The session was discarded before the connection ended. -/
  | detached
deriving DecidableEq, Repr

structure Session where
  target : Target
  url : AttachUrl
  phase : Phase
  link : Link
  relay : Relay
  failure : Option String

namespace Session

def new (target : Target) (url : AttachUrl) (link : Link) (screen : Screen) : Session :=
  ⟨target, url, .idle, link, Relay.new screen target.mode, none⟩

def screen (session : Session) : Screen := session.relay.screen

def isShell (session : Session) : Bool := session.target.mode = .shell

def outcome (session : Session) : Outcome :=
  match session.phase, session.failure with
  | .closed, some reason => .failed reason
  | .closed, none => .closed
  | _, _ => .detached

/-! ### Notices -/

def connectingNotice (target : Target) : String := "connecting to pod " ++ target.pod ++ "..."

def peerClosedNotice : String := "Connection closed by peer. Start a new session to reconnect."

def restartNotice : String := "Session terminated. Start a new session to reconnect."

def failureNotice (reason : String) : String := "error: " ++ reason

/-! ### Steps -/

/-- Moves on to the phase behind a signal, and then does `act`. A signal that is refused does nothing. -/
def onSignal (session : Session) (signal : Signal) (act : Session → Session) : Session :=
  match session.phase.next? signal with
  | some phase => act { session with phase }
  | none => session

def mapRelay (session : Session) (f : Relay → Relay) : Session := { session with relay := f session.relay }

def tearDown (reason : String) (relay : Relay) : Relay :=
  ((((relay.writeLine "").writeLine (failureNotice reason)).writeLine restartNotice).destroy).unsubscribe

def fail (session : Session) (reason : String) : Session :=
  session.onSignal .transportFailed fun session =>
    let session := { session with failure := some reason }.mapRelay (tearDown reason)
    { session with phase := session.phase.after .tornDown }

/-- Sends a frame. A link that refuses it ends the session. -/
def send (session : Session) (frame : String) : Session :=
  let sent := { session with link := session.link.send frame }
  match session.link.refusal with
  | none => sent
  | some message => sent.fail message

/-- Leaves the idle phase. Whoever calls this opens the connection next. -/
def connect (session : Session) : Session :=
  session.onSignal .connect fun session =>
    if session.isShell then session.mapRelay (·.write (connectingNotice session.target)) else session

def onOpened (session : Session) : Session :=
  session.onSignal .transportOpened fun session =>
    if session.isShell then (session.mapRelay (·.write "\r")).send Message.priming.encode else session

/-- Shows a frame while the session is open. One that violates the protocol is dropped. -/
def onFrame (session : Session) (frame : Frame) : Session :=
  if session.phase.acceptsInput then
    match session.relay.incoming frame with
    | .ok relay => { session with relay }
    | .error _ => session
  else session

def onCleanClose (session : Session) : Session :=
  match session.phase with
  | .connecting => session.fail "connection closed before it opened"
  | _ =>
    session.onSignal .cleanClose fun session =>
      session.mapRelay fun relay =>
        let relay := relay.writeLine ""
        (if session.isShell then relay.writeLine peerClosedNotice else relay).unsubscribe

def onLink (session : Session) : LinkEvent → Session
  | .opened => session.onOpened
  | .frame frame => session.onFrame frame
  | .closed true _ => session.onCleanClose
  | .closed false reason => session.fail (if reason = "" then "connection lost" else reason)
  | .failed reason => session.fail reason

/-- Sends what a terminal event calls for, while the session is open. -/
def onTerminal (session : Session) (event : Event) : Session :=
  if session.phase.acceptsInput && session.relay.isSubscribed then
    match session.relay.outgoing event with
    | .ok (some frame) => session.send frame
    | .ok none => session
    | .error _ => session
  else session

/-- Ends a session from this side: nothing more is relayed, and the link is given back. -/
def discard (session : Session) : Session :=
  { session.mapRelay Relay.unsubscribe with link := session.link.release }

/-! ### Runs -/

inductive Step where
  | connect
  | link (event : LinkEvent)
  | terminal (event : Event)
deriving DecidableEq, Repr

def step (session : Session) : Step → Session
  | .connect => session.connect
  | .link event => session.onLink event
  | .terminal event => session.onTerminal event

def run (session : Session) (steps : List Step) : Session := steps.foldl step session

end Session

end PodAttach

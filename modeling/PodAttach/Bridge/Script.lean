import PodAttach.Bridge.Handshake
import PodAttach.Bridge.Loop

/-!
# Bridges

A bridge dials the server of a target and runs one session to its end. What happens to it is a script: the events that
are found while the handshake is pending, how dialling ends, and then what the server and the terminal do, one after the
other, each handled to the end before the next.
-/

namespace PodAttach.Bridge

open Terminal

inductive Act where
  | delivery (delivery : Delivery)
  | event (event : Event)
  | detach
deriving DecidableEq, Repr

structure Script where
  /-- The terminal's events that are found before dialling ends; `none` is their end. -/
  waiting : List (Option Event)
  handshake : Dial
  acts : List Act

inductive Arrival where
  | text (frame : String)
  | pong (bytes : List UInt8)
deriving DecidableEq, Repr

/-- What one act led to on either side. -/
structure Exchange where
  arrivals : List Arrival
  calls : List Call
deriving DecidableEq, Repr

structure Conversation where
  /-- The path and query that were asked for. -/
  request : String
  /-- The first exchange is the opening itself. -/
  exchanges : List Exchange
  /-- This side went on to close the socket. -/
  isClosing : Bool
deriving DecidableEq, Repr

structure Report where
  outcome : Outcome
  conversation : Option Conversation
  /-- The calls on the screen that belong to no exchange. -/
  rest : List Call
deriving DecidableEq, Repr

/-- A ping is answered by the socket itself. -/
def Act.reply : Act → List Arrival
  | .delivery (.ping bytes) => [.pong bytes]
  | _ => []

def Act.intake : Act → Intake
  | .delivery read => .delivery read
  | .event happened => .event happened
  | .detach => .detach

/-- Between two states of the loop: the frames that were written and the calls that were made. -/
def Loop.exchange (before after : Loop) (reply : List Arrival) : Exchange where
  arrivals := reply ++ (after.written.drop before.written.length).map .text
  calls := after.session.screen.calls.drop before.session.screen.calls.length

/-- Carries out an act and everything that follows from it. An act that is not possible any more is passed over. -/
def Loop.carryOut (loop : Loop) (act : Act) : Loop :=
  if loop.mayTake false act.intake then (loop.take act.intake).drain else loop

def Loop.play (loop : Loop) : List Act → Loop × List Exchange
  | [] => (loop, [])
  | act :: acts =>
    let next := loop.carryOut act
    let (final, exchanges) := next.play acts
    (final, loop.exchange next act.reply :: exchanges)

def unopened (session : Session) (outcome : Outcome) : Report := ⟨outcome, none, session.screen.calls⟩

/-- What comes of a session that has been opened. -/
def converse (session : Session) (acts : List Act) : Report :=
  let opened := (Loop.start session).drain
  let first : Exchange := ⟨opened.written.map .text, opened.session.screen.calls⟩
  let (final, exchanges) := opened.play acts
  { outcome := final.ended.getD final.session.outcome
    conversation := some
      { request := String.ofList (requestTarget session.url)
        exchanges := first :: exchanges
        isClosing := final.ended.isSome }
    rest := [] }

/-- Runs one session from the first call to the last. -/
def attach (endpoint : Endpoint) (target : Target) (screen : Screen) (script : Script) : Except AttachError Report := do
  let url ← endpoint.preflight target
  let handshake := Handshake.start (Session.new target url .unbounded screen).connect
  match handshake.run (script.handshake.result url) script.waiting with
  | .opened session => return converse session script.acts
  | .over session outcome => return unopened session outcome

end PodAttach.Bridge

import PodAttach.Bridge.Socket
import PodAttach.Session.Basic

/-!
# The loop of a bridge

Once a socket is open, a loop passes things between it, the session and the terminal, one at a time. Frames that the
session has sent wait in a queue until the socket takes them. They go first; then what the socket delivers; terminal
events come last, and only while the session accepts input.
-/

namespace PodAttach.Bridge

open Terminal

structure Loop where
  session : Session
  /-- How many of the frames that the session sent have left the queue. -/
  taken : Nat
  written : List String
  ended : Option Outcome

/-- What one pass of the loop takes. -/
inductive Intake where
  /-- The first frame of the queue, for which the socket may have a reason to fail. -/
  | queued (failure : Option String)
  | delivery (delivery : Delivery)
  | event (event : Event)
  | detach
deriving DecidableEq, Repr

namespace Loop

def start (session : Session) : Loop := ⟨session, 0, [], none⟩

def queue (loop : Loop) : List String := loop.session.link.sent.drop loop.taken

def settle (loop : Loop) : Loop :=
  if loop.session.phase.isFinal then { loop with ended := some loop.session.outcome } else loop

def takeFrame (loop : Loop) (failure : Option String) : Loop :=
  match loop.queue, failure with
  | [], _ => loop
  | frame :: _, none => { loop with taken := loop.taken + 1, written := loop.written ++ [frame] }
  | _ :: _, some reason =>
    { loop with taken := loop.taken + 1, session := loop.session.onLink (.failed reason) }

def takeDelivery (loop : Loop) (delivery : Delivery) : Loop :=
  match delivery.report? with
  | some event => { loop with session := loop.session.onLink event }
  | none => loop

def takeEvent (loop : Loop) (event : Event) : Loop := { loop with session := loop.session.onTerminal event }

def take (loop : Loop) : Intake → Loop
  | .queued failure => (loop.takeFrame failure).settle
  | .delivery delivery => (loop.takeDelivery delivery).settle
  | .event event => (loop.takeEvent event).settle
  | .detach => { loop with ended := some .detached }

/-- What a pass may take, if `delivered` says whether the socket has something to deliver. -/
def mayTake (loop : Loop) (delivered : Bool) : Intake → Bool
  | .queued _ => loop.ended.isNone && !loop.queue.isEmpty
  | .delivery _ => loop.ended.isNone && loop.queue.isEmpty
  | .event _ => loop.ended.isNone && loop.queue.isEmpty && !delivered && loop.session.phase.acceptsInput
  | .detach => loop.ended.isNone && loop.queue.isEmpty && !delivered && loop.session.phase.acceptsInput

/-- Passes until the queue is empty, while the socket takes everything. -/
def drain (loop : Loop) : Loop := loop.queue.foldl (fun loop _ => loop.take (.queued none)) loop

end Loop

end PodAttach.Bridge

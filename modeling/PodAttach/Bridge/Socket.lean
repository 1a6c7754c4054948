import PodAttach.Session.Link
import PodAttach.Endpoint

/-!
# Sockets

What can come of dialling a server, what its socket delivers afterwards, and what a session makes of each delivery.
-/

namespace PodAttach.Bridge

/-- What one read from the socket delivers. -/
inductive Delivery where
  | text (data : String)
  | binary (bytes : List UInt8)
  | ping (bytes : List UInt8)
  | pong (bytes : List UInt8)
  /-- A frame that belongs to no message. -/
  | raw (bytes : List UInt8)
  | close (reason : String)
  | reset
  | exhausted
  /-- The read failed in any other way, which is told in words. -/
  | failed (reason : String)
deriving DecidableEq, Repr

/-- What a session is told of a delivery. What is no part of a message is no business of it. -/
def Delivery.report? : Delivery → Option LinkEvent
  | text data => some (.frame (.text data))
  | binary bytes => some (.frame (.binary bytes))
  | ping _ => none
  | pong _ => none
  | raw _ => none
  | close reason => some (.closed true reason)
  | reset => some (.closed false "connection reset without closing handshake")
  | exhausted => some (.closed false "connection dropped")
  | failed reason => some (.failed reason)

/-! ### The request -/

/-- The path and the query that a URL asks its server for. -/
def requestTarget (url : AttachUrl) : List Char :=
  let afterScheme := (url.text.toList.dropWhile (· != '/')).drop 2
  (afterScheme.dropWhile fun c => c != '/' && c != '?' && c != '#').takeWhile (· != '#')

/-- May stand in the path of a request. -/
def isPathChar (c : Char) : Bool := ' ' < c && c != '<' && c != '>' && c.toNat != 0x60

/-- May stand in the query of a request. -/
def isQueryChar (c : Char) : Bool := ' ' < c && c != '<' && c != '>' && c != '"'

def isWritable (url : AttachUrl) : Bool :=
  let target := requestTarget url
  (target.takeWhile (· != '?')).all isPathChar && ((target.dropWhile (· != '?')).drop 1).all isQueryChar

/-! ### Dialling -/

/-- Why there is no socket, in the words of whoever found out. -/
structure DialFault where
  message : String
deriving DecidableEq, Repr

def DialFault.unwritable : DialFault := ⟨"HTTP format error: invalid uri character"⟩

def DialFault.network (reason : String) : DialFault := ⟨"IO error: " ++ reason⟩

/-- What comes of dialling a URL. -/
structure Dial where
  result : AttachUrl → Except DialFault Unit

/-- A server that treats every request alike. A URL that cannot be written into a request never gets there. -/
def Dial.ofAnswer (answer : Except DialFault Unit) : Dial where
  result url := if isWritable url then answer else .error .unwritable

def Dial.error (fault : DialFault) : Dial := ofAnswer (.error fault)

end PodAttach.Bridge

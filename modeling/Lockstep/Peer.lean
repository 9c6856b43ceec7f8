import Lockstep.Fault.Socket
import Lockstep.Message
import Lockstep.Transform

/-!
# Peers

The other end of an open connection. What a peer does depends on the data frames that it has
received so far and on nothing else; what it does is put events on the wire, which the client meets
in order when it reads.
-/

namespace Lockstep

/-- What a client can meet when it reads. -/
inductive Event where
  | message (m : Message)
  | fault (cause : SocketFault)
deriving DecidableEq, Repr

/-- An event, and the nanoseconds by which it comes after the one before. -/
structure Arrival where
  delay : Nat
  event : Event
deriving DecidableEq, Repr

namespace Arrival

/-- An event that comes at once. -/
def immediate (event : Event) : Arrival := ⟨0, event⟩

/-- A data frame that comes at once. -/
def data (p : Payload) : Arrival := immediate (.message (.data p))

end Arrival

structure Peer where
  /-- What comes before the first data frame is received. -/
  greeting : List Arrival
  /-- What comes once the last of these data frames is received. -/
  reaction : List Payload → List Arrival
  /-- The fault with which the next write fails after these data frames. -/
  writeFault : List Payload → Option SocketFault

namespace Peer

/-- Answers each data frame with what `t` makes of it. -/
def replying (t : Transform) : Peer where
  greeting := []
  reaction received := (received.getLast?.map fun p ↦ Arrival.data (t.apply p)).toList
  writeFault _ := none

/-- Takes everything and says nothing. -/
def silent : Peer := ⟨[], fun _ ↦ [], fun _ ↦ none⟩

end Peer

end Lockstep

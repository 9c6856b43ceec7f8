import Lockstep.Fault
import Lockstep.Peer
import Lockstep.Time.Deadline

/-!
# Connections

An open connection as the client has it: what lies in its inbox, and what passed in both directions,
the faults that the client met among it. Control frames are passed over when a response is read.
-/

namespace Lockstep

/-- What a client meets when it writes a data frame and waits for the response. -/
inductive Traffic where
  | sent (payload : Payload)
  | received (payload : Payload)
  /-- The data frame could not be written. -/
  | unsent (cause : SocketFault)
  /-- There is no response: a close frame, a failed read, or the end of the time for it. -/
  | unheard (cause : Fault)
deriving DecidableEq, Repr

namespace Traffic

@[simp] def sent? : Traffic → Option Payload
  | sent p => some p
  | _ => none

@[simp] def received? : Traffic → Option Payload
  | received p => some p
  | _ => none

/-- What came of waiting for a response. -/
@[simp] def ofResult : Except Fault Payload → Traffic
  | .ok p => received p
  | .error cause => unheard cause

end Traffic

namespace Fault

/-- The fault of a read. A connection that is over reads as closed. -/
def ofRead : SocketFault → Fault
  | .closed | .alreadyClosed => .closed
  | cause => .socket cause

end Fault

/-- The next data frame of an inbox, or the fault that is met before one; the nanoseconds until it,
beyond those already waited; and what lies behind it. `none` if nothing of that kind comes. -/
def nextPayload? (waited : Nat) :
    List Arrival → Option (Nat × Except Fault Payload × List Arrival)
  | [] => none
  | a :: rest =>
    match a.event with
    | .fault cause => some (waited + a.delay, .error (.ofRead cause), rest)
    | .message (.data p) => some (waited + a.delay, .ok p, rest)
    | .message (.close _) => some (waited + a.delay, .error .closed, rest)
    | .message (.ping _) | .message (.pong _) => nextPayload? (waited + a.delay) rest

structure Connection where
  peer : Peer
  /-- What the peer has put on the wire and the client has not read. -/
  inbox : List Arrival
  /-- What passed, in order. -/
  traffic : List Traffic
  /-- The nanoseconds on the clock. -/
  now : Nat

namespace Connection

def start (peer : Peer) (now : Nat) : Connection := ⟨peer, peer.greeting, [], now⟩

/-- The data frames that the peer has received. -/
def sent (c : Connection) : List Payload := c.traffic.filterMap Traffic.sent?

/-- The data frames that the client has read. -/
def received (c : Connection) : List Payload := c.traffic.filterMap Traffic.received?

/-- The connection after something more has passed. -/
def note (c : Connection) (t : Traffic) : Connection := { c with traffic := c.traffic ++ [t] }

/-- What came of writing a data frame. -/
structure Delivery where
  fault : Option SocketFault
  connection : Connection

/-- Writes a data frame, and the peer reacts. -/
def send (c : Connection) (p : Payload) : Delivery :=
  match c.peer.writeFault c.sent with
  | some cause => ⟨some cause, c.note (.unsent cause)⟩
  | none => ⟨none, { c.note (.sent p) with inbox := c.inbox ++ c.peer.reaction (c.sent ++ [p]) }⟩

/-- What came of waiting for a response. -/
structure Response where
  result : Except Fault Payload
  took : Nat
  connection : Connection

/-- Waits at most `limit` for a response. -/
def receive (c : Connection) (limit : Option Span) : Except Halt Response :=
  match Wait.within limit (nextPayload? 0 c.inbox) with
  | .ready took (result, rest) =>
    .ok ⟨result, took, { c.note (.ofResult result) with inbox := rest, now := c.now + took }⟩
  | .expired l =>
    .ok ⟨.error (.responseTimeout l), l.nanoseconds,
      { c.note (.unheard (.responseTimeout l)) with now := c.now + l.nanoseconds }⟩
  | .endless => .error .endless

end Connection

end Lockstep

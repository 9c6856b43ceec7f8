import Lockstep.Wire.Reading

/-!
# Scripted peers

A peer that follows a script: it acts when the connection opens, then once for each data frame that
it receives. It can send anything, octets that are no frames included. When it has closed the
connection, one way or another, it still receives but does nothing more.
-/

namespace Lockstep

inductive Action where
  /-- Sends back what the transform makes of the frame that was received. -/
  | reply (transform : Transform)
  | message (m : Message)
  | raw (octets : List UInt8)
  /-- Closes the connection without a close frame. -/
  | drop
  /-- Aborts the connection. -/
  | reset
deriving DecidableEq, Repr

structure Script where
  /-- What the peer does when the connection opens. -/
  greeting : List Action
  /-- What it does for each data frame. -/
  reactions : List (List Action)
  /-- What it does for each data frame after those. -/
  rest : List Action
deriving DecidableEq, Repr

/-- How a peer has ended its part of a connection. -/
inductive Hangup where
  | closed
  | dropped
  | reset
deriving DecidableEq, Repr

namespace Action

/-- The octets that an action puts on the wire. -/
def octets (received : Option Payload) : Action → List UInt8
  | reply t => (received.map fun p ↦ (Message.data (t.apply p)).octets).getD []
  | message m => m.octets
  | raw b => b
  | drop | reset => []

/-- The end to which an action brings the connection. -/
def hangup? : Action → Option Hangup
  | message (.close _) => some .closed
  | drop => some .dropped
  | reset => some .reset
  | _ => none

/-- The octets that actions put on the wire, up to the end of the connection. -/
def perform (received : Option Payload) : List Action → List UInt8 × Option Hangup
  | [] => ([], none)
  | a :: rest =>
    match a.hangup? with
    | some h => (a.octets received, some h)
    | none =>
      let (more, hangup) := perform received rest
      (a.octets received ++ more, hangup)

end Action

namespace Script

/-- A connection to a scripted peer. -/
structure Line where
  reading : Reading
  hangup : Option Hangup
  /-- The data frames that the peer has received. -/
  count : Nat
  /-- What came of its last actions. -/
  arrivals : List Arrival

/-- What the client meets when the peer hangs up. -/
def farewell : Hangup → List Arrival
  | .closed => []
  | .dropped => [.immediate (.fault (.protocol .resetWithoutClosing))]
  | .reset => [.immediate (.fault (.io .reset))]

/-- The peer acts, unless it has hung up. -/
def Line.act (l : Line) (received : Option Payload) (actions : List Action) : Line :=
  match l.hangup with
  | some _ => { l with arrivals := [] }
  | none =>
    let (octets, hangup) := Action.perform received actions
    let (events, reading) := l.reading.feed octets
    let ending := match hangup with
      | some h => farewell h
      | none => []
    { l with reading, hangup, arrivals := events.map Arrival.immediate ++ ending }

def opened (s : Script) : Line := Line.act ⟨.start, none, 0, []⟩ none s.greeting

/-- The peer receives a data frame. -/
def react (s : Script) (l : Line) (p : Payload) : Line :=
  { l.act (some p) (s.reactions.getD l.count s.rest) with count := l.count + 1 }

/-- The connection after the peer has received these data frames. -/
def after (s : Script) (received : List Payload) : Line := received.foldl s.react s.opened

/-- After an abort, a write fails too. -/
def peer (s : Script) : Peer where
  greeting := s.opened.arrivals
  reaction received := (s.after received).arrivals
  writeFault received :=
    if (s.after received).hangup = some .reset then some (.io .reset) else none

end Script

end Lockstep

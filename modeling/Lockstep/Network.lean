import Lockstep.Connection
import Lockstep.Wire.Request

/-!
# Networks

What becomes of the requests that a client sends, in order, and of its wish to listen.
-/

namespace Lockstep

/-- What becomes of a request. -/
inductive Answer where
  /-- Nothing ever comes back. -/
  | silence
  /-- After `delay` nanoseconds the connection is open, or cannot be opened. -/
  | after (delay : Nat) (result : Except SocketFault Peer)

namespace Answer

def opened (peer : Peer) : Answer := after 0 (.ok peer)

def failed (cause : SocketFault) : Answer := after 0 (.error cause)

def arrival? : Answer → Option (Nat × Except SocketFault Peer)
  | silence => none
  | after delay result => some (delay, result)

end Answer

structure Network where
  /-- The answer to a request that has `index` requests before it. -/
  answer : (index : Nat) → Request → Answer
  /-- Something listens on the port already. -/
  occupied : (port : UInt16) → Bool

namespace Network

/-- No request finds a way. -/
def unreachable : Network := ⟨fun _ _ ↦ .failed (.io .unreachable), fun _ ↦ false⟩

/-- Nothing listens anywhere. -/
def deserted : Network := ⟨fun _ _ ↦ .failed (.io .refused), fun _ ↦ false⟩

/-- The first peer answers the first request, and so on; the last one also all further ones. -/
def ofAnswers (answers : List Answer) : Network where
  answer index _ := (answers[index]? <|> answers.getLast?).getD (.failed (.io .refused))
  occupied _ := false

/-- The fault of a request for `uri`. Where nothing listens, the connection is refused. -/
def openFault (uri : String) (cause : SocketFault) : Fault :=
  if (Fault.socket cause).isRefused then .refused uri else .socket cause

/-- What came of opening a connection. -/
structure Opening where
  result : Except Fault Connection
  /-- The nanoseconds on the clock afterwards. -/
  now : Nat
  /-- A request was sent. -/
  requested : Bool

/-- Opens a connection, and waits at most `limit` for it. -/
def connect (n : Network) (index : Nat) (uri : String) (limit : Option Span) (now : Nat) :
    Except Halt Opening :=
  match Request.ofUri uri with
  | .error e => .ok ⟨.error (.socket (.uri e)), now, false⟩
  | .ok request =>
    match Wait.within limit (n.answer index request).arrival? with
    | .ready took (.ok peer) => .ok ⟨.ok (.start peer (now + took)), now + took, true⟩
    | .ready took (.error cause) => .ok ⟨.error (openFault uri cause), now + took, true⟩
    | .expired l => .ok ⟨.error (.connectTimeout l), now + l.nanoseconds, true⟩
    | .endless => .error .endless

end Network

end Lockstep

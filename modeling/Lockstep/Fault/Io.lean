/-!
# Operating-system faults
-/

namespace Lockstep

inductive IoKind where
  | connectionRefused
  | connectionReset
  | connectionAborted
  | networkUnreachable
  | brokenPipe
  | timedOut
  | unexpectedEof
  | invalidData
  | addrInUse
  | other
deriving DecidableEq, Repr

namespace IoKind

def message : IoKind → String
  | connectionRefused => "connection refused"
  | connectionReset => "connection reset"
  | connectionAborted => "connection aborted"
  | networkUnreachable => "network unreachable"
  | brokenPipe => "broken pipe"
  | timedOut => "timed out"
  | unexpectedEof => "unexpected end of file"
  | invalidData => "invalid data"
  | addrInUse => "address in use"
  | other => "other error"

end IoKind

/-- A fault of some kind, with a text of its own where there is more to say. -/
structure IoFault where
  kind : IoKind
  detail : Option String
deriving DecidableEq, Repr

namespace IoFault

def message (e : IoFault) : String := e.detail.getD e.kind.message

/-- Nothing listens where a connection was to go. -/
def refused : IoFault := ⟨.connectionRefused, some "Connection refused (os error 111)"⟩

/-- The peer has aborted the connection. -/
def reset : IoFault := ⟨.connectionReset, some "Connection reset by peer (os error 104)"⟩

/-- No route leads to the peer. -/
def unreachable : IoFault := ⟨.networkUnreachable, some "Network is unreachable (os error 101)"⟩

/-- The address to listen on is taken. -/
def occupied : IoFault := ⟨.addrInUse, some "Address already in use (os error 98)"⟩

end IoFault

end Lockstep

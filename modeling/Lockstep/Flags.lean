import Lockstep.Endpoint.Read
import Lockstep.Server
import Lockstep.Time.Timeouts

/-!
# Flags

The settings of a run, and the endpoints and limits that follow from them.
-/

namespace Lockstep

structure Flags where
  /-- The URL of the echo route, in place of host, port and path. -/
  url : Option String
  host : String
  port : UInt16
  path : String
  echoBefore : Option String
  echoTemplate : Option String
  chatPath : String
  chatBefore : String
  chatTemplate : Option String
  /-- Make a load run. -/
  multi : Bool
  connections : Nat
  messages : Nat
  messageSize : Nat
  /-- The limit on connecting and on each response; 0 waits for ever. -/
  timeoutMs : UInt64
  attemptTimeoutMs : Option UInt64
  /-- Talk to this route. -/
  interactive : Option String
  /-- Be the server. -/
  serve : Bool
deriving DecidableEq, Repr

namespace Flags

def standard : Flags where
  url := none
  host := "localhost"
  port := 8765
  path := "/"
  echoBefore := none
  echoTemplate := none
  chatPath := "/chat"
  chatBefore := Server.standardChatBefore
  chatTemplate := none
  multi := false
  connections := 10
  messages := 5
  messageSize := 32
  timeoutMs := 10000
  attemptTimeoutMs := none
  interactive := none
  serve := false

def timeouts (f : Flags) : Timeouts :=
  .both (if f.timeoutMs = 0 then none else some (.ofMilliseconds f.timeoutMs))

def attemptTimeout (f : Flags) : Option Span := f.attemptTimeoutMs.map .ofMilliseconds

/-- A template wins over what is put before. -/
def echoTransform (f : Flags) : Transform :=
  match f.echoTemplate, f.echoBefore with
  | some t, _ => .template t
  | none, some l => .before l
  | none, none => .identity

def chatTransform (f : Flags) : Transform :=
  match f.chatTemplate with
  | some t => .template t
  | none => .before f.chatBefore

def echoEndpoint (f : Flags) : Except Fault Endpoint :=
  match f.url with
  | some url => Endpoint.ofUrl url f.echoTransform
  | none => .ok (Endpoint.new f.host f.port f.path f.echoTransform)

/-- The chat route of the server that has the echo route `echo`. -/
def chatEndpoint (f : Flags) (echo : Endpoint) : Endpoint :=
  echo.withPath f.chatPath f.chatTransform

end Flags

end Lockstep

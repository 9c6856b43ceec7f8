import Lockstep.Fault.Io
import Lockstep.Fault.Status
import Lockstep.Payload

/-!
# Faults of a WebSocket connection

What can go wrong while a connection is opened or used, below the level of the exchange.
-/

namespace Lockstep

/-- Departures from the protocol. -/
inductive ProtocolFault where
  | resetWithoutClosing
  | sendAfterClosing
  | receivedAfterClosing
  | handshakeIncomplete
  | reservedBits
  | invalidOpcode (opcode : Nat)
  | unexpectedContinuation
  | maskedFrame
  | controlTooLong
  | fragmentedControl
  | invalidCloseSequence
  | expectedContinuation (got : FrameKind)
deriving DecidableEq, Repr

namespace ProtocolFault

def message : ProtocolFault → String
  | resetWithoutClosing => "Connection reset without closing handshake"
  | sendAfterClosing => "Sending after closing is not allowed"
  | receivedAfterClosing => "Remote sent after having closed"
  | handshakeIncomplete => "Handshake not finished"
  | reservedBits => "Reserved bits are non-zero"
  | invalidOpcode n => s!"Encountered invalid opcode: {n}"
  | unexpectedContinuation => "Continue frame but nothing to continue"
  | maskedFrame => "Received a masked frame from server"
  | controlTooLong => "Control frame too big (payload must be 125 bytes or less)"
  | fragmentedControl => "Fragmented control frame"
  | invalidCloseSequence => "Invalid close sequence"
  | expectedContinuation .text => "While waiting for more fragments received: TEXT"
  | expectedContinuation .binary => "While waiting for more fragments received: BINARY"

end ProtocolFault

/-- Why a text is not the URI of a request. -/
inductive UriFault where
  | empty
  | tooLong
  | character
  | schemeTooLong
  | authority
  | format
deriving DecidableEq, Repr

namespace UriFault

def message : UriFault → String
  | empty => "empty string"
  | tooLong => "uri too long"
  | character => "invalid uri character"
  | schemeTooLong => "scheme too long"
  | authority => "invalid authority"
  | format => "invalid format"

end UriFault

inductive SocketFault where
  | closed
  | alreadyClosed
  | io (cause : IoFault)
  | protocol (cause : ProtocolFault)
  | tooManyHeaders
  | tooLong (size limit : Nat)
  | writeBufferFull
  | utf8
  | attack
  | noHostName
  | unsupportedScheme
  | http (status : Nat)
  | uri (cause : UriFault)
deriving DecidableEq, Repr

namespace SocketFault

def message : SocketFault → String
  | closed => "Connection closed normally"
  | alreadyClosed => "Trying to work with closed connection"
  | io e => s!"IO error: {e.message}"
  | protocol e => s!"WebSocket protocol error: {e.message}"
  | tooManyHeaders => "Space limit exceeded: Too many headers"
  | tooLong size limit => s!"Space limit exceeded: Message too long: {size} > {limit}"
  | writeBufferFull => "Write buffer is full"
  | utf8 => "UTF-8 encoding error"
  | attack => "Attack attempt detected"
  | noHostName => "URL error: No host name in the URL"
  | unsupportedScheme => "URL error: URL scheme not supported"
  | http status => s!"HTTP error: {Status.line status}"
  | uri e => s!"HTTP format error: {e.message}"

end SocketFault

end Lockstep

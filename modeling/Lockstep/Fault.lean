import Lockstep.Fault.Socket
import Lockstep.Time.Span

/-!
# Faults

Everything that can end an attempt or keep it from starting, with the one text that reports show
for it.
-/

namespace Lockstep

/-- Why a text is not a URL. -/
inductive UrlFault where
  | emptyHost
  | internationalName
  | port
  | ipv4
  | ipv6
  | domainCharacter
  | relativeWithoutBase
  | relativeWithOpaqueBase
  | hostOnOpaque
  | overflow
deriving DecidableEq, Repr

namespace UrlFault

def message : UrlFault → String
  | emptyHost => "empty host"
  | internationalName => "invalid international domain name"
  | port => "invalid port number"
  | ipv4 => "invalid IPv4 address"
  | ipv6 => "invalid IPv6 address"
  | domainCharacter => "invalid domain character"
  | relativeWithoutBase => "relative URL without a base"
  | relativeWithOpaqueBase => "relative URL with a cannot-be-a-base base"
  | hostOnOpaque => "a cannot-be-a-base URL doesn’t have a host to set"
  | overflow => "URLs more than 4 GB are not supported"

end UrlFault

inductive Fault where
  /-- Nothing listens at `uri`. -/
  | refused (uri : String)
  /-- The peer ended the connection before the scenario did. -/
  | closed
  | responseTimeout (limit : Span)
  | connectTimeout (limit : Span)
  /-- The task that ran the attempt ended without a value. -/
  | aborted (reason : String)
  | io (cause : IoFault)
  | socket (cause : SocketFault)
  | url (cause : UrlFault)
  | invalidScheme
  | noHost
  | invalidConfig (reason : String)
deriving DecidableEq, Repr

namespace Fault

def message : Fault → String
  | refused uri => s!"Connection refused by {uri}"
  | closed => "Connection closed by peer before the scenario finished"
  | responseTimeout limit => s!"No response within {limit.text}"
  | connectTimeout limit => s!"Could not connect within {limit.text}"
  | aborted reason => s!"Connection task aborted: {reason}"
  | io e => s!"IO Error happened: {e.message}"
  | socket e => s!"WebSocket error: {e.message}"
  | url e => e.message
  | invalidScheme => "Invalid scheme in WebSocket URL"
  | noHost => "URL has no host"
  | invalidConfig reason => s!"Invalid configuration: {reason}"

/-- Nothing listened: said outright, or by a fault of that kind at the operating system. -/
def isRefused : Fault → Bool
  | refused _ => true
  | io e | socket (.io e) => e.kind = .connectionRefused
  | _ => false

/-- The connection was over, which ends the exchange on it. -/
def isClosed : Fault → Bool
  | closed | socket .closed | socket .alreadyClosed => true
  | _ => false

end Fault

end Lockstep

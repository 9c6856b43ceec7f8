import Lockstep.Peer
import Lockstep.Wire.Frame

/-!
# Reading frames

The events that a client meets in the octets on the wire, in whatever pieces the octets come. A
message may be spread over several frames, with control frames between them. After a close or a
fault nothing is read.
-/

namespace Lockstep

/-- A message of which the last frame has not come. -/
structure Fragments where
  kind : FrameKind
  content : List UInt8
deriving DecidableEq, Repr

namespace Fragments

/-- The longest content of a message. -/
def longest : Nat := 0x4000000

/-- Adds the content of another frame. Text that cannot become well formed any more is refused. -/
def add (f : Fragments) (more : List UInt8) : Except SocketFault Fragments :=
  let size := f.content.length + more.length
  let content := f.content ++ more
  if longest < size then .error (.tooLong size longest)
  else match f.kind, Utf8.decode content with
    | .text, .error ⟨_, some _⟩ => .error .utf8
    | _, _ => .ok { f with content }

/-- The payload of a message that is complete. -/
def payload (f : Fragments) : Except SocketFault Payload :=
  match f.kind with
  | .binary => .ok (.binary f.content)
  | .text => match Utf8.decode f.content with
    | .ok s => .ok (.text (String.ofList s))
    | .error _ => .error .utf8

end Fragments

namespace Frame

/-- The longest content of a control frame. -/
def longestControl : Nat := 125

/-- The reason in a close frame: a code and a text, or nothing. -/
def closeReason : List UInt8 → Except SocketFault (Option CloseReason)
  | [] => .ok none
  | [_] => .error (.protocol .invalidCloseSequence)
  | a :: b :: text => match Utf8.decode text with
    | .ok s => .ok (some ⟨UInt16.ofNat (number [a, b]), String.ofList s⟩)
    | .error _ => .error .utf8

/-- The message of a control frame. -/
def control (f : Frame) (message : List UInt8 → Except SocketFault Message) :
    Except SocketFault Message :=
  if !f.final then .error (.protocol .fragmentedControl)
  else if longestControl < f.content.length then .error (.protocol .controlTooLong)
  else message f.content

/-- Adds a data frame to the message that is begun, and gives the message if it is complete. -/
def extend (f : Frame) (begun : Fragments) :
    Except SocketFault (Option Message × Option Fragments) := do
  let all ← begun.add f.content
  if f.final then return (some (.data (← all.payload)), none) else return (none, some all)

/-- The message that a frame completes, if it completes one, and the message that is begun after
it. -/
def accept (f : Frame) (begun : Option Fragments) :
    Except SocketFault (Option Message × Option Fragments) :=
  if f.reserved then .error (.protocol .reservedBits)
  else if f.masked then .error (.protocol .maskedFrame)
  else match f.opcode, begun with
    | .ping, _ => do return (some (← f.control fun b ↦ .ok (.ping b)), begun)
    | .pong, _ => do return (some (← f.control fun b ↦ .ok (.pong b)), begun)
    | .close, _ => do return (some (← f.control fun b ↦ .close <$> closeReason b), begun)
    | .continuation, some fragments => f.extend fragments
    | .continuation, none => .error (.protocol .unexpectedContinuation)
    | .data kind, none => f.extend ⟨kind, []⟩
    | .data kind, some _ => .error (.protocol (.expectedContinuation kind))

end Frame

/-- What a client has read and not used up. -/
inductive Reading where
  | ongoing (pending : List UInt8) (begun : Option Fragments)
  | ended
deriving DecidableEq, Repr

namespace Reading

def start : Reading := ongoing [] none

/-- Reads on after passing over `skip` octets that were read before. -/
def scan (begun : Option Fragments) : (skip : Nat) → List UInt8 → List Event × Reading
  | _, [] => ([], ongoing [] begun)
  | skip + 1, _ :: rest => scan begun skip rest
  | 0, [a] => ([], ongoing [a] begun)
  | 0, a :: b :: rest =>
    match Frame.front a b rest with
    | .cut => ([], ongoing (a :: b :: rest) begun)
    | .fault cause => ([.fault cause], ended)
    | .frame f width =>
      match f.accept begun with
      | .error cause => ([.fault cause], ended)
      | .ok (some (.close r), _) => ([.message (.close r)], ended)
      | .ok (some m, begun) =>
        let (events, r) := scan begun (width - 1) (b :: rest)
        (.message m :: events, r)
      | .ok (none, begun) => scan begun (width - 1) (b :: rest)

/-- The events in the next octets. -/
def feed (r : Reading) (octets : List UInt8) : List Event × Reading :=
  match r with
  | ongoing pending begun => scan begun 0 (pending ++ octets)
  | ended => ([], ended)

end Reading

end Lockstep

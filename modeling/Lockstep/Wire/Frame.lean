import Lockstep.Fault.Socket
import Lockstep.Message
import Lockstep.Text.Utf8

/-!
# Frames

Messages as octets. A frame is a header and its content; the header tells what the frame is for,
whether it is the last one of its message, and how long the content is. A server sends each message
in one frame and masks nothing.
-/

namespace Lockstep

/-- What a frame is for. -/
inductive Opcode where
  | continuation
  | data (kind : FrameKind)
  | close
  | ping
  | pong
deriving DecidableEq, Repr

namespace Opcode

def code : Opcode → Nat
  | continuation => 0
  | data .text => 1
  | data .binary => 2
  | close => 8
  | ping => 9
  | pong => 10

def ofCode? : Nat → Option Opcode
  | 0 => some continuation
  | 1 => some (data .text)
  | 2 => some (data .binary)
  | 8 => some close
  | 9 => some ping
  | 10 => some pong
  | _ => none

@[simp] theorem ofCode?_code (o : Opcode) : ofCode? o.code = some o := by
  rcases o with _ | (_ | _) | _ | _ | _ <;> rfl

end Opcode

/-- A frame as it was read. -/
structure Frame where
  /-- The message ends here. -/
  final : Bool
  /-- One of the three reserved bits is set. -/
  reserved : Bool
  masked : Bool
  opcode : Opcode
  content : List UInt8
deriving DecidableEq, Repr

/-! ## Numbers -/

/-- The number with these octets, the greatest first. -/
def number (octets : List UInt8) : Nat := octets.foldl (fun n o ↦ n * 256 + o.toNat) 0

/-- The last `width` octets of a number, the greatest first. -/
def bigEndian : (width : Nat) → Nat → List UInt8
  | 0, _ => []
  | width + 1, n => bigEndian width (n / 256) ++ [UInt8.ofNat n]

@[simp] theorem length_bigEndian (width n : Nat) : (bigEndian width n).length = width := by
  induction width generalizing n with
  | zero => rfl
  | succ width ih => simp [bigEndian, ih]

/-! ## Writing -/

namespace Message

def opcode : Message → Opcode
  | data p => .data p.kind
  | ping _ => .ping
  | pong _ => .pong
  | close _ => .close

/-- The content of the frame of a message. The text of a close reason follows its code. -/
def content : Message → List UInt8
  | data (.text s) => Utf8.encode s.toList
  | data (.binary b) | ping b | pong b => b
  | close none => []
  | close (some r) => bigEndian 2 r.code.toNat ++ Utf8.encode r.text.toList

/-- The length of a content in one octet, in two after the mark 126, or in eight after 127. -/
def lengthOctets (n : Nat) : List UInt8 :=
  if n < 126 then [UInt8.ofNat n]
  else if n < 65536 then 126 :: bigEndian 2 n
  else 127 :: bigEndian 8 n

/-- The frame of a message. -/
def octets (m : Message) : List UInt8 :=
  UInt8.ofNat (128 + m.opcode.code) :: lengthOctets m.content.length ++ m.content

end Message

/-! ## Reading -/

namespace Frame

/-- The longest content of one frame. -/
def longest : Nat := 0x1000000

/-- What stands at the front of octets. -/
inductive Front where
  /-- A frame of `width` octets. -/
  | frame (f : Frame) (width : Nat)
  /-- The header of no frame. -/
  | fault (cause : SocketFault)
  /-- The octets end within a frame. -/
  | cut
deriving DecidableEq, Repr

/-- How many octets hold the length, after the mark `m`. -/
def lengthWidth (m : Nat) : Nat :=
  if m = 126 then 2 else if m = 127 then 8 else 0

/-- Reads the frame whose header begins with `a` and `b`. A header is judged when it is complete,
before its content is. -/
def front (a b : UInt8) (rest : List UInt8) : Front :=
  let mark := b.toNat % 128
  let masked := decide (128 ≤ b.toNat)
  let width := lengthWidth mark
  let behind := width + if masked then 4 else 0
  if rest.length < behind then .cut
  else
    let length := if width = 0 then mark else number (rest.take width)
    match Opcode.ofCode? (a.toNat % 16) with
    | none => .fault (.protocol (.invalidOpcode (a.toNat % 16)))
    | some opcode =>
      if longest < length then .fault (.tooLong length longest)
      else
        let content := rest.drop behind
        if content.length < length then .cut
        else .frame ⟨decide (128 ≤ a.toNat), a.toNat / 16 % 8 ≠ 0, masked, opcode,
          content.take length⟩ (2 + behind + length)

end Frame

end Lockstep

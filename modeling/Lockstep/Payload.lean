import Lockstep.Text.Quoted

/-!
# Payloads

The content of a data frame, and how reports show it.
-/

namespace Lockstep

/-- The two kinds of data frame. -/
inductive FrameKind where
  | text
  | binary
deriving DecidableEq, Repr

namespace FrameKind

def name : FrameKind → String
  | text => "text"
  | binary => "binary"

end FrameKind

/-- The content of a data frame. -/
inductive Payload where
  | text (content : String)
  | binary (octets : List UInt8)
deriving DecidableEq, Repr

namespace Payload

def kind : Payload → FrameKind
  | text _ => .text
  | binary _ => .binary

@[simp] theorem kind_text (s : String) : (text s).kind = .text := rfl
@[simp] theorem kind_binary (b : List UInt8) : (binary b).kind = .binary := rfl

/-- How many octets of a binary payload are shown. -/
def shownOctets : Nat := 32

/-- An octet as two hexadecimal digits. -/
def hexOctet (b : UInt8) : String :=
  String.ofList [Nat.digitChar (b.toNat / 16), Nat.digitChar (b.toNat % 16)]

/-- Text in quotes; octets by their number and the first of them. -/
def display : Payload → String
  | text s => String.ofList (Quoted.encode s.toList)
  | binary b =>
    let shown := ", ".intercalate ((b.take shownOctets).map hexOctet)
    s!"<{b.length} bytes> [{shown}]"

end Payload

end Lockstep

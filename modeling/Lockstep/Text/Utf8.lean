/-!
# UTF-8

Characters as octets, and two ways to read octets as characters. `decode` refuses octets that are
not well formed and says where the first fault lies; `lossy` puts U+FFFD in the place of each
longest piece that begins a character without completing it, and of each octet that begins none.
-/

namespace Lockstep.Utf8

/-- The octets of the characters, in order. -/
def encode (s : List Char) : List UInt8 := s.flatMap String.utf8EncodeChar

/-! ## One character -/

/-- What the first octet of a longer character demands of the octets after it. -/
structure Lead where
  /-- How many octets continue the character. -/
  tails : Nat
  /-- The least first continuation octet. -/
  low : UInt8
  /-- The greatest first continuation octet. -/
  high : UInt8
  /-- The bits that the first octet adds to the code point. -/
  bits : Nat
deriving DecidableEq, Repr

/-- The demands of `a`, if it begins a character of two, three or four octets. -/
def Lead.ofOctet? (a : UInt8) : Option Lead :=
  if a < 0xC2 then none
  else if a < 0xE0 then some ⟨1, 0x80, 0xBF, a.toNat - 0xC0⟩
  else if a = 0xE0 then some ⟨2, 0xA0, 0xBF, 0⟩
  else if a = 0xED then some ⟨2, 0x80, 0x9F, 0xD⟩
  else if a < 0xF0 then some ⟨2, 0x80, 0xBF, a.toNat - 0xE0⟩
  else if a = 0xF0 then some ⟨3, 0x90, 0xBF, 0⟩
  else if a < 0xF4 then some ⟨3, 0x80, 0xBF, a.toNat - 0xF0⟩
  else if a = 0xF4 then some ⟨3, 0x80, 0x8F, 4⟩
  else none

/-- What stands at the front of octets. -/
inductive Front where
  /-- A character of `width` octets. -/
  | char (c : Char) (width : Nat)
  /-- `width` octets that no octet after them completes. -/
  | malformed (width : Nat)
  /-- The octets end within a character. -/
  | cut
deriving DecidableEq, Repr

/-- Reads `owed` continuation octets after `width` octets that make up `bits`. -/
def Front.tails (width bits : Nat) : (owed : Nat) → List UInt8 → Front
  | 0, _ => .char (Char.ofNat bits) width
  | _ + 1, [] => .cut
  | owed + 1, b :: rest =>
    if 0x80 ≤ b ∧ b ≤ 0xBF then tails (width + 1) (bits * 64 + b.toNat % 64) owed rest
    else .malformed width

/-- What stands at the front of `a :: rest`. -/
def Front.of (a : UInt8) (rest : List UInt8) : Front :=
  if a < 0x80 then .char (Char.ofNat a.toNat) 1
  else match Lead.ofOctet? a, rest with
    | none, _ => .malformed 1
    | some _, [] => .cut
    | some lead, b :: rest =>
      if lead.low ≤ b ∧ b ≤ lead.high then
        tails 2 (lead.bits * 64 + b.toNat % 64) (lead.tails - 1) rest
      else .malformed 1

/-! ## Strict reading -/

/-- Where octets stop being UTF-8. -/
structure Malformed where
  /-- The octets before the fault. -/
  index : Nat
  /-- The length of the faulty piece, or `none` if the octets end within a character. -/
  width : Option Nat
deriving DecidableEq, Repr

def Malformed.message (e : Malformed) : String :=
  match e.width with
  | some w => s!"invalid utf-8 sequence of {w} bytes from index {e.index}"
  | none => s!"incomplete utf-8 byte sequence from index {e.index}"

/-- Reads on at `index` after passing over `skip` octets that were read before. -/
def decodeFrom (index : Nat) : (skip : Nat) → List UInt8 → Except Malformed (List Char)
  | _, [] => .ok []
  | skip + 1, _ :: rest => decodeFrom (index + 1) skip rest
  | 0, a :: rest =>
    match Front.of a rest with
    | .char c width => (c :: ·) <$> decodeFrom (index + 1) (width - 1) rest
    | .malformed width => .error ⟨index, some width⟩
    | .cut => .error ⟨index, none⟩

def decode (octets : List UInt8) : Except Malformed (List Char) := decodeFrom 0 0 octets

/-! ## Lenient reading -/

/-- The character that stands for octets which are not UTF-8. -/
def replacement : Char := '\uFFFD'

/-- Reads on after passing over `skip` octets that were read before. -/
def lossyFrom : (skip : Nat) → List UInt8 → List Char
  | _, [] => []
  | skip + 1, _ :: rest => lossyFrom skip rest
  | 0, a :: rest =>
    match Front.of a rest with
    | .char c width => c :: lossyFrom (width - 1) rest
    | .malformed width => replacement :: lossyFrom (width - 1) rest
    | .cut => [replacement]

def lossy (octets : List UInt8) : List Char := lossyFrom 0 octets

end Lockstep.Utf8

import Lockstep.Text.Utf8

/-!
# Percent-encoding
-/

namespace Lockstep.Percent

/-- A hexadecimal digit in upper case. -/
def upperDigit (n : Nat) : Char := (Nat.digitChar n).toUpper

def encodeOctet (b : UInt8) : List Char :=
  ['%', upperDigit (b.toNat / 16), upperDigit (b.toNat % 16)]

/-- Writes each character that is not ASCII, each control and each of the `special` characters as
the octets of its UTF-8. -/
def encodeChar (special : List Char) (c : Char) : List Char :=
  if c.toNat < 0x20 ∨ 0x7F ≤ c.toNat ∨ c ∈ special then
    (String.utf8EncodeChar c).flatMap encodeOctet
  else [c]

def encode (special : List Char) (s : List Char) : List Char := s.flatMap (encodeChar special)

/-- The value of a hexadecimal digit. -/
def digit? (b : UInt8) : Option Nat :=
  if 0x30 ≤ b ∧ b ≤ 0x39 then some (b.toNat - 0x30)
  else if 0x41 ≤ b ∧ b ≤ 0x46 then some (b.toNat - 0x41 + 10)
  else if 0x61 ≤ b ∧ b ≤ 0x66 then some (b.toNat - 0x61 + 10)
  else none

/-- Reads each percent sign with two digits after it as an octet. Other percent signs stand for
themselves. -/
def decode : List UInt8 → List UInt8
  | a :: b :: c :: rest =>
    match if a = 0x25 then digit? b else none, digit? c with
    | some high, some low => UInt8.ofNat (high * 16 + low) :: decode rest
    | _, _ => a :: decode (b :: c :: rest)
  | s => s
termination_by s => s.length

end Lockstep.Percent

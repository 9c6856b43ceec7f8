import Lockstep.Number.Digits
import Lockstep.Text.Pieces

/-!
# IPv4 addresses

An address is written as one to four numbers with full stops between them, the last of which fills
all octets that remain. A number is decimal, octal after a `0`, or hexadecimal after `0x`.
-/

namespace Lockstep.Ipv4

/-! ## Numbers -/

/-- A number. Nothing after `0x` is zero, but nothing at all is no number. -/
def number? : List Char → Option Nat
  | [] => none
  | '0' :: 'x' :: digits | '0' :: 'X' :: digits => Digits.readFrom? 16 0 digits
  | '0' :: c :: digits => Digits.read? 8 (c :: digits)
  | digits => Digits.read? 10 digits

/-! ## Addresses -/

/-- The pieces between the full stops; a full stop at the end ends the last of them. -/
def parts (s : List Char) : List (List Char) :=
  let ps := Text.pieces (· = '.') s
  if ps.getLast? = some [] then ps.dropLast else ps

/-- A name whose last part is a number, or all digits, is an address or nothing. -/
def isNumeric (s : List Char) : Bool :=
  match (parts s).getLast? with
  | some last => (last ≠ [] && last.all Char.isDigit) || (number? last).isSome
  | none => false

/-- The address with the given numbers, the last of which fills the octets that remain. -/
def ofNumbers? (numbers : List Nat) : Option Nat :=
  match numbers.reverse with
  | [] => none
  | last :: before =>
    let room := Nat.pow 256 (4 - before.length)
    if before.length < 4 ∧ last < room ∧ before.all (· < 256) then
      some (before.reverse.foldl (fun a n ↦ a * 256 + n) 0 * room + last)
    else none

/-- The address as a number below 2^32. -/
def parse? (s : List Char) : Option Nat := do
  let numbers ← (parts s).mapM number?
  ofNumbers? numbers

def text (address : Nat) : List Char :=
  let octets := [address / 0x1000000, address / 0x10000 % 256, address / 256 % 256, address % 256]
  Text.join '.' (octets.map (Nat.toDigits 10))

end Lockstep.Ipv4

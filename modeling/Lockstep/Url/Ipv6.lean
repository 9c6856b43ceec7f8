import Lockstep.Number.Digits
import Lockstep.Text.Pieces

/-!
# IPv6 addresses

Eight numbers of 16 bits in hexadecimal, with colons between them. Two colons stand once for one or
more zeros, and the last two numbers may be written as an IPv4 address. The text of an address
leaves out the longest row of two or more zeros, the first of equally long ones.
-/

namespace Lockstep.Ipv6

/-! ## Reading -/

/-- A number of one to four hexadecimal digits. -/
def group? (s : List Char) : Option Nat :=
  if s.length ≤ 4 then Digits.read? 16 s else none

/-- A number below 256 in decimal, without a zero before it. -/
def octet? (s : List Char) : Option Nat := do
  let n ← Digits.read? 10 s
  if n < 256 ∧ (s.head? = some '0' → s.length = 1) then return n else none

/-- The two numbers that are written as an IPv4 address. -/
def embedded? (s : List Char) : Option (List Nat) := do
  match ← (Text.pieces (· = '.') s).mapM octet? with
  | [a, b, c, d] => return [a * 256 + b, c * 256 + d]
  | _ => none

/-- The fields between colons without the empty one that two colons leave at the start. One colon at
the start is a fault. -/
def openStart? : List (List Char) → Option (List (List Char))
  | [] :: [] :: rest => some ([] :: rest)
  | [] :: _ => none
  | fields => some fields

/-- The fields without those that two colons leave at the start and at the end. -/
def openEnds? (fields : List (List Char)) : Option (List (List Char)) := do
  let fields ← openStart? fields
  let reversed ← openStart? fields.reverse
  return reversed.reverse

/-- The numbers that fields before or after the two colons stand for. Only the last field of all may
be an IPv4 address. -/
def numbers? (isEnd : Bool) : List (List Char) → Option (List Nat)
  | [] => some []
  | [s] =>
    if s.contains '.' then if isEnd then embedded? s else none
    else (fun n ↦ [n]) <$> group? s
  | s :: rest => do return (← group? s) :: (← numbers? isEnd rest)

/-- The eight numbers of an address. -/
def parse? (s : List Char) : Option (List Nat) := do
  let fields ← openEnds? (Text.pieces (· = ':') s)
  let before := fields.takeWhile (· ≠ [])
  match fields.dropWhile (· ≠ []) with
  | [] =>
    let ns ← numbers? true before
    if ns.length = 8 then return ns else none
  | _ :: after =>
    let front ← numbers? false before
    let back ← numbers? true after
    let given := front.length + back.length
    if given ≤ 7 then return front ++ List.replicate (8 - given) 0 ++ back else none

/-! ## Writing -/

/-- The length of the row of zeros at the front. -/
def zeros (ns : List Nat) : Nat := (ns.takeWhile (· = 0)).length

/-- The place and the length of the longest row of zeros, the first of equally long ones. -/
def longestZeros : List Nat → Nat × Nat
  | [] => (0, 0)
  | n :: rest =>
    let (place, length) := longestZeros rest
    if length ≤ zeros (n :: rest) then (0, zeros (n :: rest)) else (place + 1, length)

def groups (ns : List Nat) : List Char := Text.join ':' (ns.map (Nat.toDigits 16))

def text (ns : List Nat) : List Char :=
  let (place, length) := longestZeros ns
  if length < 2 then groups ns
  else groups (ns.take place) ++ [':', ':'] ++ groups (ns.drop (place + length))

end Lockstep.Ipv6

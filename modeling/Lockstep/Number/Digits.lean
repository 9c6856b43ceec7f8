/-!
# Reading digits
-/

namespace Lockstep.Digits

/-- The value of a digit or of a letter up to `f`. -/
def digit? (c : Char) : Option Nat :=
  if c.isDigit then some (c.toNat - '0'.toNat)
  else if 'a' ≤ c ∧ c ≤ 'f' then some (c.toNat - 'a'.toNat + 10)
  else if 'A' ≤ c ∧ c ≤ 'F' then some (c.toNat - 'A'.toNat + 10)
  else none

/-- The number with these digits after those that make up `value`. -/
def readFrom? (base value : Nat) : List Char → Option Nat
  | [] => some value
  | c :: rest => do
    let d ← digit? c
    if d < base then readFrom? base (value * base + d) rest else none

/-- The number with these digits, of which there is at least one. -/
def read? (base : Nat) (s : List Char) : Option Nat :=
  if s = [] then none else readFrom? base 0 s

end Lockstep.Digits

import Lockstep.Halt
import Lockstep.Number.Fixed
import Lockstep.Number.Total

/-!
# Time spans

Lengths of time in whole nanoseconds, below 2^64 seconds.
-/

namespace Lockstep

@[ext]
structure Span where
  nanoseconds : Nat
  representable : nanoseconds < 0x10000000000000000 * 1000000000
deriving DecidableEq, Repr

namespace Span

/-- The span of `n` nanoseconds, if it is below 2^64 seconds. -/
def ofNanoseconds? (n : Nat) : Option Span :=
  if h : n < 0x10000000000000000 * 1000000000 then some ⟨n, h⟩ else none

/-- The span of `n` nanoseconds, or the greatest span if that is less. -/
def clamp (n : Nat) : Span := ⟨min n (0x10000000000000000 * 1000000000 - 1), by omega⟩

/-- The span of `s` seconds and `n` nanoseconds, if it is below 2^64 seconds. -/
def ofParts? (s n : Nat) : Option Span := ofNanoseconds? (s * 1000000000 + n)

def ofMilliseconds (ms : UInt64) : Span :=
  ⟨ms.toNat * 1000000, by have := ms.toNat_lt; omega⟩

def zero : Span := ⟨0, by omega⟩

/-- The whole seconds of a span. -/
def seconds (d : Span) : Nat := d.nanoseconds / 1000000000

/-- The nanoseconds of a span beyond its whole seconds. -/
def subsecond (d : Span) : Nat := d.nanoseconds % 1000000000

/-- The shorter of two spans. -/
def min (a b : Span) : Span := if a.nanoseconds ≤ b.nanoseconds then a else b

/-- All spans one after the other. -/
def sum (ds : List Span) : Except Halt Span :=
  match ofNanoseconds? (total (ds.map nanoseconds)) with
  | some d => .ok d
  | none => .error .spanOverflow

/-- The `n`-th part of a span, in whole nanoseconds. -/
def divide (d : Span) (n : UInt32) : Except Halt Span :=
  if n = 0 then .error .zeroDivisor
  else .ok ⟨d.nanoseconds / n.toNat, Nat.lt_of_le_of_lt (Nat.div_le_self _ _) d.representable⟩

/-- The span in seconds as a floating-point number. -/
def toFloat (d : Span) : Float :=
  d.seconds.toUInt64.toFloat + d.subsecond.toUInt64.toFloat / 1000000000.0

/-! ## Text -/

/-- The fraction `n / 10 ^ places` after its point, without zeros at the end; nothing if it is
zero. -/
def fraction (places n : Nat) : String :=
  if n = 0 then ""
  else
    let digits := (Fixed.padded places n).toList.reverse.dropWhile (· = '0')
    "." ++ String.ofList digits.reverse

/-- A span in the largest unit of which it holds at least one. -/
def text (d : Span) : String :=
  let n := d.nanoseconds
  if 1000000000 ≤ n then s!"{n / 1000000000}" ++ fraction 9 (n % 1000000000) ++ "s"
  else if 1000000 ≤ n then s!"{n / 1000000}" ++ fraction 6 (n % 1000000) ++ "ms"
  else if 1000 ≤ n then s!"{n / 1000}" ++ fraction 3 (n % 1000) ++ "µs"
  else s!"{n}ns"

end Span

end Lockstep

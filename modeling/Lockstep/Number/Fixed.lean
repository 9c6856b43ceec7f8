/-!
# Numbers with a fixed count of places

The exact value of a floating-point number written with a given count of decimal places, rounded
to the nearest such decimal. A tie goes to the even last digit.
-/

namespace Lockstep.Fixed

/-- The quotient rounded to the nearest integer, a tie to the even one. -/
def roundDiv (numerator denominator : Nat) : Nat :=
  let q := numerator / denominator
  let twice := 2 * (numerator % denominator)
  if twice < denominator then q
  else if denominator < twice then q + 1
  else q + q % 2

/-- `n` with zeros before it, up to `width` digits. -/
def padded (width n : Nat) : String :=
  let digits := Nat.toDigits 10 n
  String.ofList (List.replicate (width - digits.length) '0' ++ digits)

/-- The decimal `n / 10 ^ places`, for a positive count of places. -/
def decimal (places n : Nat) : String :=
  let unit := Nat.pow 10 places
  s!"{n / unit}." ++ padded places (n % unit)

/-- A finite number that is not negative, as `mantissa * 2 ^ exponent / 2 ^ 1074`. -/
def parts (x : Float) : Nat × Nat :=
  let bits := x.toBits.toNat
  let biased := bits / 0x10000000000000 % 0x800
  let fraction := bits % 0x10000000000000
  if biased = 0 then (fraction, 0) else (0x10000000000000 + fraction, biased - 1)

/-- The text of a finite number that is not negative, for a positive count of places. -/
def text (places : Nat) (x : Float) : String :=
  let (mantissa, exponent) := parts x
  let numerator := mantissa * Nat.pow 2 exponent * Nat.pow 10 places
  decimal places (roundDiv numerator (Nat.pow 2 1074))

end Lockstep.Fixed

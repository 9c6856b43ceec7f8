/-!
# Tables of code point runs

A property of all code points is written as its runs in ascending order: the length of a run in
base 32 (digits `0` to `9` and `a` to `v`), then the value of the property on it in base 26 (letters
`A` to `Z`). Code points beyond the last run have value 0.
-/

namespace Lockstep

/-- The values of a property by runs: the run with value `values[i]` begins at `starts[i]` and ends
before `starts[i + 1]`. -/
structure Runs where
  starts : Array Nat
  values : Array Nat
deriving Repr

namespace Runs

/-- A table being read: the runs that are complete, and the run that is not. -/
structure Reader where
  done : Runs
  start : Nat
  length : Nat
  value : Nat
  /-- The length is complete and its value has begun. -/
  valued : Bool

def Reader.empty : Reader := ⟨⟨#[], #[]⟩, 0, 0, 0, false⟩

/-- Completes the run being read. -/
def Reader.close (r : Reader) : Reader :=
  if r.valued then
    ⟨⟨r.done.starts.push r.start, r.done.values.push r.value⟩, r.start + r.length, 0, 0, false⟩
  else r

/-- The digit of a run's length, if `c` is one. -/
def lengthDigit? (c : Char) : Option Nat :=
  if c.isDigit then some (c.toNat - '0'.toNat)
  else if c.isLower then some (c.toNat - 'a'.toNat + 10)
  else none

def Reader.step (r : Reader) (c : Char) : Reader :=
  match lengthDigit? c with
  | some d => let r := r.close; { r with length := r.length * 32 + d }
  | none => { r with value := r.value * 26 + (c.toNat - 'A'.toNat), valued := true }

/-- Reads the written form of a table, broken into lines anywhere. -/
def ofLines (lines : List String) : Runs :=
  let r := (lines.foldl (fun r line ↦ line.foldl Reader.step r) Reader.empty).close
  ⟨r.done.starts.push r.start, r.done.values.push 0⟩

/-- The last index from `low` on, before `high`, whose run begins at `c` or earlier, if the run
at `low` does. -/
def search (starts : Array Nat) (c low high : Nat) : Nat :=
  if low + 1 < high then
    let mid := (low + high) / 2
    if starts[mid]?.getD 0 ≤ c then search starts c mid high else search starts c low mid
  else low
termination_by high - low

/-- The value of the property on code point `c`. -/
def get (r : Runs) (c : Nat) : Nat := r.values[search r.starts c 0 r.starts.size]?.getD 0

end Runs

end Lockstep

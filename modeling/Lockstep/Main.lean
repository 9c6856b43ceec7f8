import Lockstep.Flags.Read
import Lockstep.Program

/-!
# The command line

Reads the flags and the input, runs the program, and shows what it has to show. There are no sockets
here, so every request fails for want of a network.
-/

namespace Lockstep.Main

/-- The exit code of a command line that is not run. -/
def usageExit : UInt32 := 2

def usageText : UsageFault → String
  | .help | .version => "WebSocket client test suite, load runs and stand-in server"
  | .unknown => "error: unexpected argument"
  | .missingValue => "error: a value is required"
  | .malformedValue => "error: invalid value"
  | .repeated => "error: an argument cannot be used multiple times"
  | .unexpectedValue => "error: unexpected value"

/-- Letters and digits that differ from message to message, from the seed on. -/
def draw (seed task message position : Nat) : Fin 62 :=
  Fin.ofNat 62 ((seed + task * 7919 + message * 104729 + position * 1299709) / 7 % 9973)

/-- Waits and never returns. -/
partial def wait : IO UInt32 := do
  IO.sleep 60000
  wait

/-- All octets of the input, if the program reads it. -/
def input (f : Flags) : IO (List UInt8) := do
  if f.interactive.isSome then return (← (← IO.getStdin).readBinToEnd).toList
  else return []

/-- What a run has to show. A fault that no one handles is told as such. -/
def render : Except Halt Program.Ending → IO Unit
  | .ok (.ended c) => do
    IO.print c.stdout
    IO.eprint c.stderr
  | .ok (.serving _) | .error .endless => return
  | .error h => IO.eprintln s!"panicked: {h.message}"

def perform (f : Flags) : IO UInt32 := do
  let now ← IO.monoNanosNow
  let ending := Program.run f ⟨← input f, .unreachable, draw now, now⟩
  render ending
  match Program.exit? ending with
  | some code => return code
  | none => wait

def run (words : List String) : IO UInt32 := do
  match Flags.read words with
  | .ok f => perform f
  | .error e =>
    if e = .help ∨ e = .version then
      IO.println (usageText e)
      return 0
    else
      IO.eprintln (usageText e)
      return usageExit

end Lockstep.Main

def main (words : List String) : IO UInt32 := Lockstep.Main.run words

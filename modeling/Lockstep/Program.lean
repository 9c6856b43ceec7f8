import Lockstep.Flags
import Lockstep.Interactive
import Lockstep.Load.Run
import Lockstep.Suite.Run

/-!
# The program

What the program does with its settings: it serves, holds an interactive session, makes a load run
or runs the suite, and the first of these that is asked for wins. Its exit code is 0 exactly when
what it did succeeded as a whole.
-/

namespace Lockstep.Program

/-- What a run that ends leaves behind. -/
structure Course where
  /-- Whether the run succeeded as a whole, or the fault that cut it short. -/
  result : Except Fault Bool
  stdout : String
  /-- How many requests were sent. -/
  requests : Nat

namespace Course

def exit (c : Course) : UInt32 :=
  match c.result with
  | .ok true => 0
  | _ => 1

/-- What a fault makes the program tell. -/
def complaint (e : Fault) : String :=
  if e.isRefused then "✗ Connection refused. Is the server running?\n"
  else s!"✗ Error: {e.message}\n"

def stderr (c : Course) : String :=
  match c.result with
  | .error e => complaint e
  | .ok _ => ""

/-- The fault came before anything was done. -/
def barred (cause : Fault) : Course := ⟨.error cause, "", 0⟩

end Course

/-- How a run ends. -/
inductive Ending where
  | ended (c : Course)
  /-- It does not end: the program is this server. -/
  | serving (server : Server)

/-- What a run does not take from its settings. -/
structure World where
  stdin : List UInt8
  network : Network
  /-- The letters and digits for the messages of each task of a load run. -/
  draw : Nat → Scenario.Draw
  /-- The nanoseconds on the clock. -/
  now : Nat

/-! ## Modes -/

/-- The server that the settings describe. -/
def server (f : Flags) (echo : Endpoint) : Server :=
  (Server.standard.withRoute echo.path echo.transform).withRoute f.chatPath f.chatTransform

def serve (f : Flags) (echo : Endpoint) (w : World) : Ending :=
  if w.network.occupied echo.port then .ended (.barred (.io .occupied))
  else .serving (server f echo)

def interactiveTitle (e : Endpoint) : String := s!"=== Interactive Mode: {e.uri} ===\n"

/-- The interactive session succeeds if no fault ends it. -/
def interact (f : Flags) (echo : Endpoint) (route : String) (w : World) : Except Halt Course := do
  let endpoint := echo.withPath route .identity
  let t ← Interactive.run ⟨endpoint, f.timeouts⟩ w.stdin w.network w.now
  return ⟨(fun _ ↦ true) <$> t.result, interactiveTitle endpoint ++ t.output,
    if t.requested then 1 else 0⟩

def plan (f : Flags) : LoadPlan :=
  ⟨f.connections, f.messages, f.messageSize, f.attemptTimeout, f.timeouts⟩

/-- The load run succeeds if each of its attempts does. -/
def load (f : Flags) (echo : Endpoint) (w : World) : Except Halt Course := do
  match ← (plan f).start echo w.network w.draw w.now with
  | .error cause => return .barred cause
  | .ok c => return ⟨.ok c.report.allSucceeded, c.report.text ++ "\n", c.requests⟩

def suiteTitle : String := Report.unlines [Report.rule, "WebSocket Client Test Suite", Report.rule]

/-- The suite succeeds if it passes. -/
def suite (f : Flags) (echo : Endpoint) (w : World) : Except Halt Course := do
  let c ← Suite.run ⟨echo, f.chatEndpoint echo, f.timeouts⟩ w.network w.now
  match c.report with
  | .error cause => return ⟨.error cause, suiteTitle, c.requests⟩
  | .ok r => return ⟨.ok r.passed, suiteTitle ++ r.text ++ "\n", c.requests⟩

/-! ## The program -/

def run (f : Flags) (w : World) : Except Halt Ending :=
  match f.echoEndpoint with
  | .error cause => .ok (.ended (.barred cause))
  | .ok echo =>
    if f.serve then .ok (serve f echo w)
    else match f.interactive with
      | some route => .ended <$> interact f echo route w
      | none => .ended <$> if f.multi then load f echo w else suite f echo w

/-- The exit code of a program that panics. -/
def panicExit : UInt32 := 101

/-- The exit code of a run. One that serves, or waits without end, has none. -/
def exit? : Except Halt Ending → Option UInt32
  | .ok (.ended c) => some c.exit
  | .ok (.serving _) | .error .endless => none
  | .error _ => some panicExit

end Lockstep.Program

import Lockstep.Attempt
import Lockstep.Endpoint
import Lockstep.Network
import Lockstep.Scenario
import Lockstep.Time.Timeouts

/-!
# Sessions

One connection taken through a scenario in lock-step: a message is written only after the message
before it has its response. Once the connection breaks, no further message is written, and all that
are left fail for the same reason. A response that was not looked for breaks nothing.
-/

namespace Lockstep

structure Session where
  id : Nat
  endpoint : Endpoint
  timeouts : Timeouts
  /-- The limit on the whole attempt. -/
  attemptTimeout : Option Span
deriving DecidableEq, Repr

namespace Session

/-! ## The exchange -/

/-- What an exchange of messages leaves behind. -/
structure Exchange where
  outcomes : List Outcome
  /-- The states it went through. -/
  trail : List State
  /-- Why it broke, if it did. -/
  fault : Option Fault
  connection : Connection

namespace Exchange

/-- Nothing is left to send. -/
def done (c : Connection) : Exchange := ⟨[], [], none, c⟩

/-- The messages from `index` on, as many as there are `steps`, which are not sent. -/
def abandoned (cause : Fault) : (index : Nat) → (steps : List Step) → List Outcome
  | _, [] => []
  | index, _ :: rest => .unanswered index false cause :: abandoned cause (index + 1) rest

/-- A message could not be written, and `rest` are left. -/
def unwritten (index : Nat) (cause : Fault) (rest : List Step) (c : Connection) : Exchange :=
  ⟨.unanswered index false cause :: abandoned cause (index + 1) rest, [.sending index],
    some cause, c⟩

/-- A message was written and has no response, and `rest` are left. -/
def unheard (index : Nat) (cause : Fault) (rest : List Step) (c : Connection) : Exchange :=
  ⟨.unanswered index true cause :: abandoned cause (index + 1) rest,
    [.sending index, .awaiting index], some cause, c⟩

/-- A message has its response, and `later` follows. -/
def answered (index : Nat) (verdict : Verdict) (took : Nat) (later : Exchange) : Exchange :=
  { later with
    outcomes := .answered index verdict (.clamp took) :: later.outcomes
    trail := .sending index :: .awaiting index :: later.trail }

/-- How the attempt ends whose exchange of `count` messages this is. -/
def ending (x : Exchange) (count : Nat) : Ending :=
  if x.fault.isNone && x.outcomes.countP Outcome.isMatch = count then .success else .failure

end Exchange

/-- Sends the messages from `index` on, each after the response to the one before. -/
def exchange (limit : Option Span) (deadline : Option Deadline) :
    (index : Nat) → List Step → Connection → Except Halt Exchange
  | _, [], c => .ok (.done c)
  | index, step :: rest, c =>
    let w := c.send step.payload
    match w.fault with
    | some cause => .ok (.unwritten index (.socket cause) rest w.connection)
    | none => do
      let r ← w.connection.receive (budget limit deadline w.connection.now)
      match r.result with
      | .error cause => return .unheard index cause rest r.connection
      | .ok p =>
        let later ← exchange limit deadline (index + 1) rest r.connection
        return .answered index (step.predicate.evaluate step.payload p) r.took later

/-! ## The attempt -/

/-- An attempt, and what passed on its connection. -/
structure Record where
  attempt : Attempt
  traffic : List Traffic
  /-- The nanoseconds on the clock when it was over. -/
  finished : Nat
  /-- A request was sent. -/
  requested : Bool

/-- The attempt whose connection could not be opened. -/
def unopened (s : Session) (scenario : Scenario) (cause : Fault) : Attempt :=
  let a := (Attempt.new s.id s.endpoint.uri scenario.name).transition .connecting
  { a.setFault (some cause) with
    outcomes := Exchange.abandoned cause 0 scenario.steps }.transition .connectFailed

/-- The attempt whose messages were exchanged so. -/
def closed (s : Session) (scenario : Scenario) (x : Exchange) : Attempt :=
  let a := (Attempt.new s.id s.endpoint.uri scenario.name).transition .connecting
  let a := x.trail.foldl Attempt.transition (a.transition .connected)
  let a := { a.setFault x.fault with outcomes := x.outcomes }
  a.transition (.closed (x.ending scenario.length))

@[simp] theorem outcomes_unopened (s : Session) (scenario : Scenario) (cause : Fault) :
    (s.unopened scenario cause).outcomes = Exchange.abandoned cause 0 scenario.steps := rfl

@[simp] theorem fault_unopened (s : Session) (scenario : Scenario) (cause : Fault) :
    (s.unopened scenario cause).fault = some cause := rfl

@[simp] theorem trail_unopened (s : Session) (scenario : Scenario) (cause : Fault) :
    (s.unopened scenario cause).trail = [.idle, .connecting, .connectFailed] := rfl

@[simp] theorem outcomes_closed (s : Session) (scenario : Scenario) (x : Exchange) :
    (s.closed scenario x).outcomes = x.outcomes := rfl

@[simp] theorem fault_closed (s : Session) (scenario : Scenario) (x : Exchange) :
    (s.closed scenario x).fault = x.fault := rfl

@[simp] theorem trail_closed (s : Session) (scenario : Scenario) (x : Exchange) :
    (s.closed scenario x).trail =
      [.idle, .connecting, .connected] ++ x.trail ++ [.closed (x.ending scenario.length)] := by
  rw [closed, Attempt.trail_transition]
  exact congrArg (· ++ _) (Attempt.trail_foldl_transition ..)

/-- When the attempt that begins at `now` must be over, if there is a limit on it. -/
def deadline (s : Session) (now : Nat) : Except Halt (Option Deadline) :=
  match s.attemptTimeout with
  | some limit => some <$> Deadline.after now limit
  | none => .ok none

/-- Opens the connection of the attempt. -/
def opening (s : Session) (network : Network) (index now : Nat) (deadline : Option Deadline) :
    Except Halt Network.Opening :=
  network.connect index s.endpoint.uri (budget s.timeouts.connect deadline now) now

/-- Makes the attempt at `now`, as request `index` to the network. -/
def conduct (s : Session) (scenario : Scenario) (network : Network) (index now : Nat) :
    Except Halt Record := do
  let deadline ← s.deadline now
  let opening ← s.opening network index now deadline
  match opening.result with
  | .error cause =>
    return ⟨s.unopened scenario cause, [], opening.now, opening.requested⟩
  | .ok c =>
    let x ← exchange s.timeouts.response deadline 0 scenario.steps c
    return ⟨s.closed scenario x, x.connection.traffic, x.connection.now, opening.requested⟩

/-- The attempt alone. -/
def run (s : Session) (scenario : Scenario) (network : Network) (index now : Nat) :
    Except Halt Attempt :=
  Record.attempt <$> s.conduct scenario network index now

end Session

end Lockstep

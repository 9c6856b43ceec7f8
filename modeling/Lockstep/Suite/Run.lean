import Lockstep.Session
import Lockstep.Suite

/-!
# Suites

The echo scenario on the echo route, then the chat scenario on the chat route, each on a connection
of its own. A connection that is refused ends the suite, since nothing listens there; any other
fault belongs to its session, and the suite goes on.
-/

namespace Lockstep

structure Suite where
  echo : Endpoint
  chat : Endpoint
  timeouts : Timeouts
deriving DecidableEq, Repr

namespace Suite

/-- Each session with its scenario. -/
def sessions (s : Suite) : List (Session × Scenario) :=
  [ (⟨1, s.echo, s.timeouts, none⟩, .echo s.echo.transform),
    (⟨2, s.chat, s.timeouts, none⟩, .chat s.chat.transform) ]

/-- What sessions in a row leave behind. -/
structure Course where
  /-- The records of the sessions that took place. -/
  records : List Session.Record
  /-- Why the sessions after them did not take place, if there are any. -/
  refusal : Option Fault

namespace Course

def attempts (c : Course) : List Attempt := c.records.map Session.Record.attempt

/-- How many requests were sent. -/
def requests (c : Course) : Nat := c.records.countP Session.Record.requested

/-- The report, or the fault that kept it from being made. -/
def report (c : Course) : Except Fault SuiteReport :=
  match c.refusal with
  | some cause => .error cause
  | none => .ok ⟨c.attempts⟩

end Course

/-- The fault of an attempt whose connection was refused. -/
def refusal? (a : Attempt) : Option Fault := if a.status = .refused then a.fault else none

/-- Sessions one after the other, until a connection is refused. The first of them sends request
`index`, if it sends one. -/
def inOrder (network : Network) : (index now : Nat) → List (Session × Scenario) → Except Halt Course
  | _, _, [] => .ok ⟨[], none⟩
  | index, now, (session, scenario) :: rest => do
    let r ← session.conduct scenario network index now
    match refusal? r.attempt with
    | some cause => return ⟨[r], some cause⟩
    | none =>
      let later ← inOrder network (index + if r.requested then 1 else 0) r.finished rest
      return { later with records := r :: later.records }

def run (s : Suite) (network : Network) (now : Nat) : Except Halt Course :=
  inOrder network 0 now s.sessions

end Suite

end Lockstep

import Lockstep.Load.Plan
import Lockstep.Report
import Lockstep.Session

/-!
# Load runs

Many sessions at once with the same endpoint, each a task of its own with its own burst. The run
waits for all of them, whichever is first, and reports on them in the order of their ids. A task
that ends without a value costs its own attempt and no other.
-/

namespace Lockstep

namespace LoadPlan

/-- The ids of the tasks. -/
def ids (p : LoadPlan) : List Nat := List.range' 1 p.connections

def session (p : LoadPlan) (endpoint : Endpoint) (id : Nat) : Session :=
  ⟨id, endpoint, p.timeouts, p.attemptTimeout⟩

def scenario (p : LoadPlan) (endpoint : Endpoint) (draw : Scenario.Draw) : Scenario :=
  .burst draw p.messages p.size endpoint.transform

/-- What becomes of task `id`, which sends the request with `id - 1` before it. -/
def task (p : LoadPlan) (endpoint : Endpoint) (network : Network) (draw : Nat → Scenario.Draw)
    (now id : Nat) : Except Halt Session.Record :=
  (p.session endpoint id).conduct (p.scenario endpoint (draw id)) network (id - 1) now

end LoadPlan

/-- What a task ended with. -/
abbrev TaskEnd := Except Halt Session.Record

namespace TaskEnd

/-- The attempt of a task that ended without a value. -/
def aborted (id : Nat) (uri : String) (h : Halt) : Attempt :=
  let reason := s!"task {id} panicked with message \"{h.message}\""
  ((Attempt.new id uri "burst").setFault (some (.aborted reason))).transition .connectFailed

def attempt (id : Nat) (uri : String) : TaskEnd → Attempt
  | .ok r => r.attempt
  | .error h => aborted id uri h

/-- The task never ends. -/
def isEndless : TaskEnd → Bool
  | .error .endless => true
  | _ => false

/-- The nanoseconds on the clock when a task ended that began at `now`. -/
def finished (now : Nat) : TaskEnd → Nat
  | .ok r => r.finished
  | .error _ => now

def requested : TaskEnd → Bool
  | .ok r => r.requested
  | .error _ => false

end TaskEnd

namespace LoadPlan

/-- The attempts of tasks, given what each task ended with in the order in which they did. -/
def gather (p : LoadPlan) (endpoint : Endpoint) (ends : List (Nat × TaskEnd)) : List Attempt :=
  p.ids.filterMap fun id ↦ (ends.lookup id).map (TaskEnd.attempt id endpoint.uri)

/-- The time from `now` to the end of the last task. -/
def elapsed (now : Nat) (ends : List (Nat × TaskEnd)) : Span :=
  .clamp ((ends.map fun e ↦ e.2.finished now).foldl max now - now)

/-- The report on tasks that began at `now`. -/
def reportOn (p : LoadPlan) (endpoint : Endpoint) (now : Nat) (ends : List (Nat × TaskEnd)) :
    Except Halt Report :=
  Report.ofAttempts (p.gather endpoint ends) (elapsed now ends)

/-- What a load run leaves behind. -/
structure Course where
  report : Report
  /-- How many requests were sent. -/
  requests : Nat

/-- Runs all tasks. A task that never ends keeps the run from ending. -/
def run (p : LoadPlan) (endpoint : Endpoint) (network : Network) (draw : Nat → Scenario.Draw)
    (now : Nat) : Except Halt Course := do
  let ends := p.ids.map fun id ↦ (id, p.task endpoint network draw now id)
  if ends.any fun e ↦ TaskEnd.isEndless e.2 then throw .endless
  return ⟨← p.reportOn endpoint now ends, ends.countP fun e ↦ TaskEnd.requested e.2⟩

/-- Runs a plan, unless it is not valid. -/
def start (p : LoadPlan) (endpoint : Endpoint) (network : Network) (draw : Nat → Scenario.Draw)
    (now : Nat) : Except Halt (Except Fault Course) :=
  match p.validate with
  | .error e => .ok (.error e)
  | .ok () => .ok <$> p.run endpoint network draw now

end LoadPlan

end Lockstep

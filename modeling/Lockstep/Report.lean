import Lockstep.Attempt
import Lockstep.Number.Total

/-!
# Run reports

Attempts in the order of their ids, with the sums over them. Each figure is a sum over the
attempts, so no message is counted twice.
-/

namespace Lockstep

structure Report where
  attempts : List Attempt
  elapsed : Span
  averageRoundTrip : Option Span
deriving DecidableEq, Repr

namespace Report

/-- The report on `attempts`. Attempts with the same id keep their order. -/
def ofAttempts (attempts : List Attempt) (elapsed : Span) : Except Halt Report := do
  let sorted := attempts.mergeSort fun a b ↦ a.id ≤ b.id
  let answered := total (sorted.map Attempt.answeredCount)
  let trips ← Span.sum (← sorted.mapM Attempt.totalRoundTrip)
  let average ← if answered = 0 then pure none else some <$> trips.divide answered.toUInt32
  return ⟨sorted, elapsed, average⟩

/-! ## Figures -/

def totalConnections (r : Report) : Nat := r.attempts.length

/-- The number of attempts with the given status. -/
def count (r : Report) (s : Status) : Nat := r.attempts.countP fun a ↦ a.status = s

/-- Messages written to a connection. -/
def totalSent (r : Report) : Nat := total (r.attempts.map Attempt.sentCount)

/-- Responses of the attempts that succeeded. -/
def totalReceived (r : Report) : Nat :=
  total ((r.attempts.filter Attempt.succeeded).map Attempt.matchedCount)

/-- Responses that were looked for, of all attempts. -/
def totalMatched (r : Report) : Nat := total (r.attempts.map Attempt.matchedCount)

/-- Received messages in each second of the elapsed time. -/
def throughput (r : Report) : Float :=
  let seconds := r.elapsed.toFloat
  if seconds == 0.0 then 0.0 else r.totalReceived.toUInt64.toFloat / seconds

def allSucceeded (r : Report) : Bool :=
  0 < r.totalConnections && r.count .succeeded = r.totalConnections

/-! ## Text -/

/-- The line on an attempt that did not succeed. -/
def attemptLine (a : Attempt) : String :=
  let cause := match a.fault with
    | some e => s!": {e.message}"
    | none => ""
  s!"  ✗ attempt {a.id} ({a.uri}) {a.status.name}" ++ cause

/-- The line on a message without the response that was looked for. -/
def messageLine (o : Outcome) : String := s!"      message #{o.index}: {o.verdict.display}"

/-- A line on the attempt, then one on each failed message. An attempt without a connection has
only the first. -/
def failureLines (a : Attempt) : List String :=
  attemptLine a :: if a.state = .connectFailed then [] else a.failures.map messageLine

def rule : String := String.ofList (List.replicate 60 '=')

def headerLines (r : Report) : List String :=
  let average := match r.averageRoundTrip with
    | some d => Fixed.text 3 (d.toFloat * 1000.0) ++ " ms"
    | none => "n/a"
  [ rule,
    "Run Report",
    rule,
    s!"Connections: {r.totalConnections} total, {r.count .succeeded} succeeded, " ++
      s!"{r.count .failed} failed, {r.count .refused} refused",
    s!"Messages sent: {r.totalSent}",
    s!"Messages received: {r.totalReceived}",
    s!"Responses matched: {r.totalMatched}",
    s!"Elapsed: {Fixed.text 3 r.elapsed.toFloat}s",
    s!"Throughput: {Fixed.text 1 r.throughput} messages/second",
    s!"Average round trip: {average}" ]

/-- The header, then the failures of each attempt that did not succeed. -/
def lines (r : Report) : List String :=
  r.headerLines ++ (r.attempts.filter (! ·.succeeded)).flatMap failureLines

/-- Each line with its end. -/
def unlines (lines : List String) : String := String.join (lines.map (· ++ "\n"))

def text (r : Report) : String := unlines r.lines

end Report

end Lockstep

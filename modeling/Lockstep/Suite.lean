import Lockstep.Report

/-!
# Suite reports

The report on attempts that were made one after the other, each with a scenario of its own.
-/

namespace Lockstep

structure SuiteReport where
  attempts : List Attempt
deriving DecidableEq, Repr

namespace SuiteReport

def passed (r : SuiteReport) : Bool := r.attempts.all Attempt.succeeded

/-- A blank line, a title, and what became of the attempt. -/
def attemptLines (a : Attempt) : List String :=
  ["", s!"=== {a.scenario} scenario: {a.uri} ==="] ++
    if a.succeeded then [s!"  ✓ {a.matchedCount}/{a.outcomes.length} messages matched"]
    else Report.failureLines a

/-- All lines but the last, which has no end. -/
def lines (r : SuiteReport) : List String := r.attempts.flatMap attemptLines ++ [""]

def text (r : SuiteReport) : String :=
  Report.unlines r.lines ++ if r.passed then "Suite passed" else "Suite FAILED"

end SuiteReport

end Lockstep

import Lockstep.Time.Span

/-!
# Timeouts
-/

namespace Lockstep

/-- The limits on opening a connection and on each response; `none` waits for ever. -/
structure Timeouts where
  connect : Option Span
  response : Option Span
deriving DecidableEq, Repr

namespace Timeouts

/-- The same limit on both. -/
def both (limit : Option Span) : Timeouts := ⟨limit, limit⟩

/-- Ten seconds on both. -/
def standard : Timeouts := both (some (Span.ofMilliseconds 10000))

end Timeouts

end Lockstep

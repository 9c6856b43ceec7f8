import Lockstep.Fault
import Lockstep.Time.Timeouts

/-!
# Plans of load runs

How many connections a load run opens, what each of them sends, and its limits.
-/

namespace Lockstep

structure LoadPlan where
  connections : Nat
  /-- Messages on each connection. -/
  messages : Nat
  /-- Letters and digits that fill up each message. -/
  size : Nat
  /-- The limit on a whole attempt. -/
  attemptTimeout : Option Span
  timeouts : Timeouts
deriving DecidableEq, Repr

namespace LoadPlan

def standard : LoadPlan := ⟨10, 5, 32, none, .standard⟩

/-- A plan needs a connection, and a message on it. -/
def validate (p : LoadPlan) : Except Fault Unit :=
  if p.connections = 0 then
    .error (.invalidConfig "connections must be greater than zero")
  else if p.messages = 0 then
    .error (.invalidConfig "messages per connection must be greater than zero")
  else .ok ()

end LoadPlan

end Lockstep

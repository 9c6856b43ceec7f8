import Lockstep.Time.Span

/-!
# Deadlines and waits

A clock counts nanoseconds and can show points in time below 2^63 seconds. An attempt may have a
deadline on it; each wait within the attempt may have a limit of its own. The budget of a wait is
the tighter of its limit and what is left until the deadline.
-/

namespace Lockstep

/-- A point in time that the clock can show. -/
@[ext]
structure Deadline where
  nanoseconds : Nat
  representable : nanoseconds < 0x8000000000000000 * 1000000000
deriving DecidableEq, Repr

namespace Deadline

/-- The end of `span` from `now` on. -/
def after (now : Nat) (span : Span) : Except Halt Deadline :=
  if h : now + span.nanoseconds < 0x8000000000000000 * 1000000000 then
    .ok ⟨now + span.nanoseconds, h⟩
  else
    .error .instantOverflow

/-- What is left at `now`; nothing once the deadline has passed. -/
def remaining (d : Deadline) (now : Nat) : Span :=
  ⟨d.nanoseconds - now, by have := d.representable; omega⟩

end Deadline

/-- How long a wait that begins at `now` may last: `none` is for ever. -/
def budget (limit : Option Span) (deadline : Option Deadline) (now : Nat) : Option Span :=
  match limit, deadline with
  | some l, some d => some (l.min (d.remaining now))
  | some l, none => some l
  | none, some d => some (d.remaining now)
  | none, none => none

/-- How a wait ends. -/
inductive Wait (α : Type) where
  /-- What was waited for came after `took` nanoseconds. -/
  | ready (took : Nat) (value : α)
  /-- It did not come within `limit`. -/
  | expired (limit : Span)
  /-- It never comes, and the wait has no limit. -/
  | endless
deriving DecidableEq, Repr

namespace Wait

/-- Waits at most `limit` for what comes after some nanoseconds, or never. -/
def within {α : Type} (limit : Option Span) (arrival : Option (Nat × α)) : Wait α :=
  match limit, arrival with
  | none, some (t, a) => ready t a
  | none, none => endless
  | some l, some (t, a) => if t ≤ l.nanoseconds then ready t a else expired l
  | some l, none => expired l

end Wait

end Lockstep

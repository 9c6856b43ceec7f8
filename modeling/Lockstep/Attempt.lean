import Lockstep.Fault
import Lockstep.Verdict

/-!
# Attempts

The record of one session: the states it went through, what became of each message, and the fault
that ended it, if one did.
-/

namespace Lockstep

/-- How an exchange that had begun came to its end. -/
inductive Ending where
  | success
  | failure
deriving DecidableEq, Repr

/-- The states of an attempt. `connectFailed` and `closed` are final. -/
inductive State where
  | idle
  | connecting
  | connectFailed
  | connected
  | sending (index : Nat)
  | awaiting (index : Nat)
  | closed (ending : Ending)
deriving DecidableEq, Repr

inductive Status where
  | succeeded
  | failed
  | refused
deriving DecidableEq, Repr

namespace Status

def name : Status → String
  | succeeded => "succeeded"
  | failed => "failed"
  | refused => "refused"

end Status

/-- What became of one message. -/
structure Outcome where
  index : Nat
  /-- The message was written to the connection. -/
  sent : Bool
  verdict : Verdict
  /-- The time until the response, if one came. -/
  roundTrip : Option Span
deriving DecidableEq, Repr

namespace Outcome

/-- A message with a response. -/
def answered (index : Nat) (verdict : Verdict) (roundTrip : Span) : Outcome :=
  ⟨index, true, verdict, some roundTrip⟩

/-- A message without a response. -/
def unanswered (index : Nat) (sent : Bool) (cause : Fault) : Outcome :=
  ⟨index, sent, .failed cause.message, none⟩

def isAnswered (o : Outcome) : Bool := o.roundTrip.isSome

def isMatch (o : Outcome) : Bool := o.verdict.isMatch

@[simp] theorem sent_answered (index : Nat) (v : Verdict) (t : Span) :
    (answered index v t).sent = true := rfl

@[simp] theorem isAnswered_answered (index : Nat) (v : Verdict) (t : Span) :
    (answered index v t).isAnswered = true := rfl

@[simp] theorem sent_unanswered (index : Nat) (sent : Bool) (cause : Fault) :
    (unanswered index sent cause).sent = sent := rfl

@[simp] theorem isAnswered_unanswered (index : Nat) (sent : Bool) (cause : Fault) :
    (unanswered index sent cause).isAnswered = false := rfl

end Outcome

structure Attempt where
  id : Nat
  uri : String
  scenario : String
  outcomes : List Outcome
  /-- The states before the present one, the first first. -/
  past : List State
  state : State
  fault : Option Fault
deriving DecidableEq, Repr

namespace Attempt

def new (id : Nat) (uri scenario : String) : Attempt :=
  ⟨id, uri, scenario, [], [], .idle, none⟩

/-! ## Recording -/

def transition (a : Attempt) (state : State) : Attempt :=
  { a with past := a.past ++ [a.state], state }

def record (a : Attempt) (outcome : Outcome) : Attempt :=
  { a with outcomes := a.outcomes ++ [outcome] }

def setFault (a : Attempt) (fault : Option Fault) : Attempt := { a with fault }

/-! ## Reading -/

/-- All states of the attempt so far, the present one last. -/
def trail (a : Attempt) : List State := a.past ++ [a.state]

@[simp] theorem trail_new (id : Nat) (uri scenario : String) :
    (new id uri scenario).trail = [.idle] := rfl

@[simp] theorem trail_transition (a : Attempt) (s : State) :
    (a.transition s).trail = a.trail ++ [s] := rfl

theorem trail_foldl_transition (a : Attempt) (states : List State) :
    (states.foldl transition a).trail = a.trail ++ states := by
  induction states generalizing a with
  | nil => simp
  | cons s rest ih => simp [ih]

@[simp] theorem trail_record (a : Attempt) (o : Outcome) : (a.record o).trail = a.trail := rfl

@[simp] theorem outcomes_record (a : Attempt) (o : Outcome) :
    (a.record o).outcomes = a.outcomes ++ [o] := rfl

@[simp] theorem outcomes_transition (a : Attempt) (s : State) :
    (a.transition s).outcomes = a.outcomes := rfl

def status (a : Attempt) : Status :=
  match a.fault with
  | some e => if e.isRefused then .refused else .failed
  | none => if a.state = .closed .success then .succeeded else .failed

def succeeded (a : Attempt) : Bool := a.status = .succeeded

/-- The number of messages written to the connection. -/
def sentCount (a : Attempt) : Nat := a.outcomes.countP Outcome.sent

/-- The number of messages with the response that was looked for. -/
def matchedCount (a : Attempt) : Nat := a.outcomes.countP Outcome.isMatch

/-- The number of messages with a response. -/
def answeredCount (a : Attempt) : Nat := a.outcomes.countP Outcome.isAnswered

/-- The messages without the response that was looked for. -/
def failures (a : Attempt) : List Outcome := a.outcomes.filter (! ·.isMatch)

/-- The round trips of the messages with a response. -/
def roundTrips (a : Attempt) : List Span := a.outcomes.filterMap Outcome.roundTrip

def totalRoundTrip (a : Attempt) : Except Halt Span := Span.sum a.roundTrips

/-- The mean of the round trips, if there is one. The count that divides their total has 32 bits. -/
def averageRoundTrip (a : Attempt) : Except Halt (Option Span) :=
  if a.answeredCount = 0 then .ok none
  else do return some (← (← a.totalRoundTrip).divide a.answeredCount.toUInt32)

end Attempt

end Lockstep

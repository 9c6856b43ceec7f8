import Lockstep.Proofs.Session.Settled
import Mathlib.Logic.Relation

/-!
# Attempts step by step

An attempt opens its connection, writes a message, reads the response to it, writes the next one,
and so on until it is over. `Stage` says how far it is and `Stage.Step` what it can do next.
`Stage.finish` is what becomes of an attempt that goes on from a stage without being disturbed.

No step changes what becomes of an attempt (`Step.finish_eq`), and an attempt that does not wait for
ever gets to its end (`begun_leads`). So an attempt comes to the same record whatever happens
elsewhere between its steps.
-/

namespace Lockstep.Session

/-! ## Stages -/

/-- What the messages so far have left behind. -/
structure Past where
  outcomes : List Outcome
  trail : List State

namespace Past

def empty : Past := ⟨[], []⟩

/-- One more message has its response. -/
def answered (past : Past) (index : Nat) (verdict : Verdict) (took : Nat) : Past :=
  ⟨past.outcomes ++ [.answered index verdict (.clamp took)],
    past.trail ++ [.sending index, .awaiting index]⟩

/-- The exchange as a whole, if the rest of it is `x`. -/
def followedBy (past : Past) (x : Exchange) : Exchange :=
  { x with outcomes := past.outcomes ++ x.outcomes, trail := past.trail ++ x.trail }

@[simp] theorem empty_followedBy (x : Exchange) : empty.followedBy x = x := rfl

/-- A message with its response may be counted to what is past or to what follows. -/
theorem answered_followedBy (past : Past) (index : Nat) (verdict : Verdict) (took : Nat)
    (x : Exchange) :
    (past.answered index verdict took).followedBy x =
      past.followedBy (.answered index verdict took x) := by
  simp [followedBy, answered, Exchange.answered]

end Past

/-- An attempt whose messages from `index` on are left. -/
structure Underway where
  deadline : Option Deadline
  /-- A request was sent. -/
  requested : Bool
  past : Past
  index : Nat
  rest : List Step
  connection : Connection

/-- How far an attempt is. -/
inductive Stage where
  /-- It has done nothing yet. -/
  | begun
  /-- It has its connection, and waits for nothing. -/
  | ready (u : Underway)
  /-- It has written `step`, and waits for the response. -/
  | waiting (u : Underway) (step : Step)
  | over (e : Except Halt Record)

namespace Underway

variable (u : Underway)

/-- The next message has been written, and `rest` is left. -/
def written (step : Step) (rest : List Step) : Underway :=
  { u with rest, connection := (u.connection.send step.payload).connection }

/-- The response to `step` has been read. -/
def answered (step : Step) (p : Payload) (took : Nat) (connection : Connection) : Underway :=
  { u with
    past := u.past.answered u.index (step.predicate.evaluate step.payload p) took
    index := u.index + 1
    connection }

/-- What came of waiting for the response to the last message. -/
def response (s : Session) : Except Halt Connection.Response :=
  u.connection.receive (budget s.timeouts.response u.deadline u.connection.now)

/-- The record of an attempt that `x` brings to its end. -/
def recordOf (s : Session) (scenario : Scenario) (x : Exchange) : Record :=
  s.recordOf scenario u.requested (u.past.followedBy x)

/-- What becomes of an attempt that writes and reads all that is left. -/
def finish (s : Session) (scenario : Scenario) : Except Halt Record :=
  u.recordOf s scenario <$> exchange s.timeouts.response u.deadline u.index u.rest u.connection

end Underway

namespace Stage

section

variable (s : Session) (scenario : Scenario) (network : Network) (index now : Nat)

/-- One step of an attempt that begins at `now`, as request `index` to the network. -/
inductive Step : Stage → Stage → Prop
  /-- The clock cannot show the deadline. -/
  | overflow {halt : Halt} (h : s.deadline now = .error halt) : Step .begun (.over (.error halt))
  /-- The connection cannot be opened. -/
  | unopened {deadline : Option Deadline} {o : Network.Opening} {cause : Fault}
      (hd : s.deadline now = .ok deadline) (ho : s.opening network index now deadline = .ok o)
      (hc : o.result = .error cause) :
      Step .begun (.over (.ok ⟨s.unopened scenario cause, [], o.now, o.requested⟩))
  | opened {deadline : Option Deadline} {o : Network.Opening} {c : Connection}
      (hd : s.deadline now = .ok deadline) (ho : s.opening network index now deadline = .ok o)
      (hc : o.result = .ok c) :
      Step .begun (.ready ⟨deadline, o.requested, .empty, 0, scenario.steps, c⟩)
  | write {u : Underway} {step : Lockstep.Step} {rest : List Lockstep.Step}
      (hr : u.rest = step :: rest) (hf : (u.connection.send step.payload).fault = none) :
      Step (.ready u) (.waiting (u.written step rest) step)
  /-- The next message cannot be written. -/
  | unwritten {u : Underway} {step : Lockstep.Step} {rest : List Lockstep.Step}
      {cause : SocketFault} (hr : u.rest = step :: rest)
      (hf : (u.connection.send step.payload).fault = some cause) :
      Step (.ready u) (.over (.ok (u.recordOf s scenario
        (.unwritten u.index (.socket cause) rest (u.connection.send step.payload).connection))))
  | read {u : Underway} {step : Lockstep.Step} {r : Connection.Response} {p : Payload}
      (hr : u.response s = .ok r) (hp : r.result = .ok p) :
      Step (.waiting u step) (.ready (u.answered step p r.took r.connection))
  /-- There is no response. -/
  | unheard {u : Underway} {step : Lockstep.Step} {r : Connection.Response} {cause : Fault}
      (hr : u.response s = .ok r) (hc : r.result = .error cause) :
      Step (.waiting u step) (.over (.ok (u.recordOf s scenario
        (.unheard u.index cause u.rest r.connection))))
  /-- No message is left. -/
  | close {u : Underway} (hr : u.rest = []) :
      Step (.ready u) (.over (.ok (u.recordOf s scenario (.done u.connection))))

/-- Any number of steps. -/
abbrev Leads : Stage → Stage → Prop := Relation.ReflTransGen (Step s scenario network index now)

/-- What becomes of an attempt that goes on from a stage. -/
def finish : Stage → Except Halt Record
  | .begun => s.conduct scenario network index now
  | .ready u => u.finish s scenario
  | .waiting u step => do
    let r ← u.response s
    match r.result with
    | .error cause => return u.recordOf s scenario (.unheard u.index cause u.rest r.connection)
    | .ok p => (u.answered step p r.took r.connection).finish s scenario
  | .over e => e

end

variable {s : Session} {scenario : Scenario} {network : Network} {index now : Nat} {σ σ' : Stage}

/-! ## What becomes of an attempt -/

/-- An attempt that is over takes no step. -/
theorem Step.ne_over (h : Step s scenario network index now σ σ') (e : Except Halt Record) :
    σ ≠ .over e := by
  cases h <;> exact nofun

/-- No step ends a wait that has no end. -/
theorem Step.ne_endless (h : Step s scenario network index now σ σ') :
    σ' ≠ .over (.error .endless) := by
  cases h with
  | overflow h =>
    obtain ⟨rfl, -⟩ := deadline_eq_error h
    exact nofun
  | _ => exact nofun

/-- An exchange that has been answered is as good as the exchange from the next message on. -/
theorem finish_answered (u : Underway) (step : Lockstep.Step) (p : Payload) (took : Nat)
    (c : Connection) :
    (u.answered step p took c).finish s scenario =
      (do let later ← exchange s.timeouts.response u.deadline (u.index + 1) u.rest c
          return u.recordOf s scenario
            (.answered u.index (step.predicate.evaluate step.payload p) took later)) := by
  rw [bind_pure_comp]
  refine congrArg (· <$> _) (funext fun x ↦ ?_)
  exact congrArg (s.recordOf scenario u.requested) (Past.answered_followedBy ..)

/-- A message that is written may be counted to what is past or to what is left. -/
theorem finish_ready_of_written {u : Underway} {step : Lockstep.Step} {rest : List Lockstep.Step}
    (hr : u.rest = step :: rest) (hf : (u.connection.send step.payload).fault = none) :
    (ready u).finish s scenario network index now =
      (waiting (u.written step rest) step).finish s scenario network index now := by
  change u.recordOf s scenario <$> _ = (u.written step rest).response s >>= _
  rw [hr, exchange]
  simp only [hf]
  rw [map_bind]
  refine bind_congr fun r ↦ ?_
  cases r.result with
  | error cause => rfl
  | ok p =>
    dsimp only
    rw [finish_answered, map_bind]
    rfl

theorem finish_ready_of_unwritten {u : Underway} {step : Lockstep.Step}
    {rest : List Lockstep.Step} {cause : SocketFault} (hr : u.rest = step :: rest)
    (hf : (u.connection.send step.payload).fault = some cause) :
    (ready u).finish s scenario network index now = .ok (u.recordOf s scenario
      (.unwritten u.index (.socket cause) rest (u.connection.send step.payload).connection)) := by
  change u.recordOf s scenario <$> _ = _
  rw [hr, exchange]
  simp only [hf]
  rfl

/-- No step changes what becomes of an attempt. -/
theorem Step.finish_eq (h : Step s scenario network index now σ σ') :
    σ'.finish s scenario network index now = σ.finish s scenario network index now := by
  cases h with
  | overflow h => rw [finish, finish, conduct, h, Halt.error_bind]
  | unopened hd ho hc => exact (conduct_of_unopened hd ho hc).symm
  | opened hd ho hc => exact (conduct_of_opened hd ho hc).symm
  | write hr hf => exact (finish_ready_of_written hr hf).symm
  | unwritten hr hf => exact (finish_ready_of_unwritten hr hf).symm
  | read hr hp =>
    rw [finish, finish, hr, Halt.ok_bind]
    simp only [hp]
  | unheard hr hc =>
    rw [finish, finish, hr, Halt.ok_bind]
    simp only [hc]
    rfl
  | close hr =>
    rw [finish, finish, Underway.finish, hr]
    rfl

/-! ## Getting to the end -/

/-- An attempt that has its connection and does not wait for ever gets to its end. -/
theorem ready_leads {u : Underway}
    (h : (ready u).finish s scenario network index now ≠ .error .endless) :
    Leads s scenario network index now (.ready u)
      (.over ((ready u).finish s scenario network index now)) := by
  obtain ⟨deadline, requested, past, i, rest, c⟩ := u
  induction rest generalizing past i c with
  | nil => exact .single (.close rfl)
  | cons step rest ih =>
    cases hf : (c.send step.payload).fault with
    | some cause =>
      rw [finish_ready_of_unwritten rfl hf]
      exact .single (.unwritten rfl hf)
    | none =>
      rw [finish_ready_of_written rfl hf] at h ⊢
      refine .head (.write rfl hf) ?_
      generalize hu : Underway.written _ step rest = u at h ⊢
      cases hr : u.response s with
      | error halt =>
        -- A wait that does not come to a response has no end, and that is excluded.
        obtain ⟨rfl, -⟩ := Connection.receive_error hr
        refine absurd ?_ h
        change u.response s >>= _ = _
        rw [hr]
        rfl
      | ok r =>
        cases hp : r.result with
        | error cause =>
          have hstep : Step s scenario network index now (.waiting u step) _ := .unheard hr hp
          rw [← hstep.finish_eq]
          exact .single hstep
        | ok p =>
          have hstep : Step s scenario network index now (.waiting u step) _ := .read hr hp
          rw [← hstep.finish_eq] at h ⊢
          subst hu
          exact .head hstep (ih _ _ _ h)

/-- An attempt that does not wait for ever gets to its end. -/
theorem begun_leads (h : s.conduct scenario network index now ≠ .error .endless) :
    Leads s scenario network index now .begun (.over (s.conduct scenario network index now)) := by
  cases hd : s.deadline now with
  | error halt =>
    have hstep : Step s scenario network index now .begun _ := .overflow hd
    change Leads _ _ _ _ _ _ (.over (finish s scenario network index now .begun))
    rw [← hstep.finish_eq]
    exact .single hstep
  | ok deadline =>
    cases ho : s.opening network index now deadline with
    | error halt =>
      obtain ⟨rfl, -⟩ := opening_eq_error ho
      refine absurd ?_ h
      change s.deadline now >>= _ = _
      rw [hd]
      change s.opening network index now _ >>= _ = _
      rw [ho]
      rfl
    | ok o =>
      change Leads _ _ _ _ _ _ (.over (finish s scenario network index now .begun))
      cases hc : o.result with
      | error cause =>
        have hstep : Step s scenario network index now .begun _ := .unopened hd ho hc
        rw [← hstep.finish_eq]
        exact .single hstep
      | ok c =>
        have hstep : Step s scenario network index now .begun _ := .opened hd ho hc
        change finish s scenario network index now .begun ≠ _ at h
        rw [← hstep.finish_eq] at h ⊢
        exact .head hstep (ready_leads h)

end Stage

end Lockstep.Session

import Lockstep.Proofs.Peer.Output

/-!
# What writing and reading do to a connection

One statement for each operation. A write is noted, and if it does not fail the reaction of the peer
goes to the end of the inbox. A read is noted, and takes from the front of the inbox unless its time
is up first.
-/

namespace Lockstep

/-! ## What passed -/

namespace Traffic

/-- The data frames that were written. -/
def written (log : List Traffic) : List Payload := log.filterMap sent?

/-- The data frames that were read as responses. -/
def responses (log : List Traffic) : List Payload := log.filterMap received?

/-- Each message has its response, but for the last at most. -/
def InStep (log : List Traffic) : Prop :=
  (responses log).length ≤ (written log).length ∧ (written log).length ≤ (responses log).length + 1

/-- A write failed, or there was no response. -/
def IsBreak : Traffic → Prop
  | unsent _ | unheard _ => True
  | sent _ | received _ => False

@[simp] theorem written_nil : written [] = [] := rfl

@[simp] theorem written_cons (t : Traffic) (log : List Traffic) :
    written (t :: log) = t.sent?.toList ++ written log := by
  cases t <;> rfl

@[simp] theorem written_append (log more : List Traffic) :
    written (log ++ more) = written log ++ written more := List.filterMap_append

@[simp] theorem responses_nil : responses [] = [] := rfl

@[simp] theorem responses_cons (t : Traffic) (log : List Traffic) :
    responses (t :: log) = t.received?.toList ++ responses log := by
  cases t <;> rfl

@[simp] theorem responses_append (log more : List Traffic) :
    responses (log ++ more) = responses log ++ responses more := List.filterMap_append

end Traffic

/-! ## Waiting -/

/-- A wait has no limit exactly if it has none of its own and there is no deadline. -/
theorem budget_eq_none {limit : Option Span} {deadline : Option Deadline} {now : Nat} :
    budget limit deadline now = none ↔ limit = none ∧ deadline = none := by
  cases limit <;> cases deadline <;> simp [budget]

/-- Without a deadline, a wait has the limit of its own. -/
theorem budget_none (limit : Option Span) (now : Nat) : budget limit none now = limit := by
  cases limit <;> rfl

namespace Wait

variable {α : Type}

/-- A wait ends with what was to come if that comes in time, and with nothing else. -/
theorem within_eq_ready {limit : Option Span} {arrival : Option (Nat × α)} {t : Nat} {a : α} :
    within limit arrival = ready t a ↔
      arrival = some (t, a) ∧ ∀ l, limit = some l → t ≤ l.nanoseconds := by
  unfold within
  grind

theorem limit_of_within_eq_expired {limit : Option Span} {arrival : Option (Nat × α)} {l : Span}
    (h : within limit arrival = expired l) : limit = some l := by
  unfold within at h
  grind

/-- A wait without end has no limit, and nothing comes. -/
theorem within_eq_endless {limit : Option Span} {arrival : Option (Nat × α)}
    (h : within limit arrival = endless) : limit = none ∧ arrival = none := by
  unfold within at h
  grind

end Wait

/-! ## Writing and reading -/

namespace Connection

variable {c : Connection}

theorem sent_of_traffic_eq {w : Connection} {t : Traffic} (h : w.traffic = c.traffic ++ [t]) :
    w.sent = c.sent ++ t.sent?.toList := by
  change Traffic.written w.traffic = Traffic.written c.traffic ++ t.sent?.toList
  simp [h]

/-- All that writing a data frame can do. -/
theorem send_cases (c : Connection) (p : Payload) :
    (c.send p).connection.peer = c.peer ∧
      ((∃ cause, c.peer.writeFault c.sent = some cause ∧ (c.send p).fault = some cause ∧
          (c.send p).connection.traffic = c.traffic ++ [.unsent cause] ∧
          (c.send p).connection.inbox = c.inbox) ∨
        c.peer.writeFault c.sent = none ∧ (c.send p).fault = none ∧
          (c.send p).connection.traffic = c.traffic ++ [.sent p] ∧
          (c.send p).connection.inbox = c.inbox ++ c.peer.reaction (c.sent ++ [p])) := by
  unfold send
  split
  · rename_i cause hf
    exact ⟨rfl, .inl ⟨cause, hf, rfl, rfl, rfl⟩⟩
  · rename_i hf
    exact ⟨rfl, .inr ⟨hf, rfl, rfl, rfl⟩⟩

/-- All that waiting for a response can do. -/
theorem receive_cases {limit : Option Span} {r : Response} (h : c.receive limit = .ok r) :
    r.connection.peer = c.peer ∧
      r.connection.traffic = c.traffic ++ [.ofResult r.result] ∧
      ((∃ passed a, c.inbox = passed ++ a :: r.connection.inbox ∧
          (∀ b ∈ passed, b.result? = none) ∧ a.result? = some r.result) ∨
        ∃ l, limit = some l ∧ r.result = .error (.responseTimeout l) ∧
          r.connection.inbox = c.inbox) := by
  unfold receive at h
  split at h
  · rename_i t result rest hw
    cases h
    exact ⟨rfl, rfl, .inl (eq_append_of_nextPayload?_eq_some (Wait.within_eq_ready.mp hw).1)⟩
  · rename_i l hw
    cases h
    exact ⟨rfl, rfl, .inr ⟨l, Wait.limit_of_within_eq_expired hw, rfl, rfl⟩⟩
  · cases h

/-- Waiting for a response writes nothing. -/
theorem sent_of_receive {limit : Option Span} {r : Response} (h : c.receive limit = .ok r) :
    r.connection.sent = c.sent := by
  obtain ⟨-, ht, -⟩ := receive_cases h
  rw [sent_of_traffic_eq ht]
  cases r.result <;> simp

/-- Waiting has no end only if it has no limit and nothing in the inbox ends it. -/
theorem receive_error {limit : Option Span} {halt : Halt} (h : c.receive limit = .error halt) :
    halt = .endless ∧ limit = none ∧ ∀ a ∈ c.inbox, a.result? = none := by
  unfold receive at h
  split at h
  · cases h
  · cases h
  · rename_i hw
    cases h
    obtain ⟨hl, hn⟩ := Wait.within_eq_endless hw
    exact ⟨rfl, hl, result?_of_nextPayload?_eq_none hn⟩

end Connection

end Lockstep

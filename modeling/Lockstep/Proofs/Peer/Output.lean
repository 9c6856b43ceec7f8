import Lockstep.Connection

/-!
# What a peer puts on the wire

A client that waits for a response passes over pings and pongs and stops at the first data frame,
close frame or fault. So it takes what a peer has put on the wire from the front and leaves the
rest. This file says what one read takes, and collects all that a peer puts on the wire in the
course of a connection, whether or not it is ever read.
-/

namespace Lockstep

namespace Arrival

/-- The payload of a data frame. -/
def payload? (a : Arrival) : Option Payload :=
  match a.event with
  | .message m => m.payload?
  | .fault _ => none

/-- What a read ends with that meets this arrival; it goes on after a ping or a pong. -/
def result? (a : Arrival) : Option (Except Fault Payload) :=
  match a.event with
  | .message (.data p) => some (.ok p)
  | .message (.close _) => some (.error .closed)
  | .message (.ping _) | .message (.pong _) => none
  | .fault cause => some (.error (.ofRead cause))

/-- The payloads are what reads end well with. -/
theorem payload?_eq_bind (a : Arrival) : a.payload? = a.result?.bind Except.toOption := by
  obtain ⟨delay, (p | b | b | r) | cause⟩ := a <;> rfl

end Arrival

/-- Arrivals that no read ends at have no data frame among them. -/
theorem payloads_of_result?_eq_none {as : List Arrival} (h : ∀ a ∈ as, a.result? = none) :
    as.filterMap Arrival.payload? = [] := by
  rw [List.filterMap_eq_nil_iff]
  intro a ha
  rw [a.payload?_eq_bind, h a ha]
  rfl

/-! ## Reading the next payload -/

/-- A read that does not end has an inbox in which there is nothing to end it. -/
theorem result?_of_nextPayload?_eq_none {waited : Nat} {inbox : List Arrival}
    (h : nextPayload? waited inbox = none) : ∀ a ∈ inbox, a.result? = none := by
  induction inbox generalizing waited with
  | nil => simp
  | cons a rest ih =>
    obtain ⟨delay, (p | b | b | r) | cause⟩ := a <;> simp only [nextPayload?, reduceCtorEq] at h
    · exact List.forall_mem_cons.mpr ⟨rfl, ih h⟩
    · exact List.forall_mem_cons.mpr ⟨rfl, ih h⟩

/-- A read takes what it passes over and the arrival at which it ends, and leaves the rest. -/
theorem eq_append_of_nextPayload?_eq_some {waited t : Nat} {inbox rest : List Arrival}
    {r : Except Fault Payload} (h : nextPayload? waited inbox = some (t, r, rest)) :
    ∃ passed a, inbox = passed ++ a :: rest ∧ (∀ b ∈ passed, b.result? = none) ∧
      a.result? = some r := by
  induction inbox generalizing waited with
  | nil => simp [nextPayload?] at h
  | cons a tail ih =>
    obtain ⟨delay, (p | b | b | c) | cause⟩ := a <;>
      simp only [nextPayload?, Option.some.injEq, Prod.mk.injEq] at h
    · obtain ⟨-, rfl, rfl⟩ := h
      exact ⟨[], _, rfl, by simp, rfl⟩
    · obtain ⟨passed, a, rfl, hp, ha⟩ := ih h
      exact ⟨_ :: passed, a, rfl, List.forall_mem_cons.mpr ⟨rfl, hp⟩, ha⟩
    · obtain ⟨passed, a, rfl, hp, ha⟩ := ih h
      exact ⟨_ :: passed, a, rfl, List.forall_mem_cons.mpr ⟨rfl, hp⟩, ha⟩
    · obtain ⟨-, rfl, rfl⟩ := h
      exact ⟨[], _, rfl, by simp, rfl⟩
    · obtain ⟨-, rfl, rfl⟩ := h
      exact ⟨[], _, rfl, by simp, rfl⟩

namespace Peer

/-! ## All that a peer puts on the wire -/

/-- What a peer that has received the data frames `before` puts on the wire as it receives more. -/
def reactions (p : Peer) (before : List Payload) : (received : List Payload) → List Arrival
  | [] => []
  | q :: rest => p.reaction (before ++ [q]) ++ p.reactions (before ++ [q]) rest

/-- All that a peer has put on the wire once it has received these data frames. -/
def output (p : Peer) (received : List Payload) : List Arrival :=
  p.greeting ++ p.reactions [] received

/-- The data frames that a peer has sent once it has received these. -/
def frames (p : Peer) (received : List Payload) : List Payload :=
  (p.output received).filterMap Arrival.payload?

theorem reactions_append (p : Peer) (before received more : List Payload) :
    p.reactions before (received ++ more) =
      p.reactions before received ++ p.reactions (before ++ received) more := by
  induction received generalizing before with
  | nil => simp [reactions]
  | cons q rest ih => simp [reactions, ih]

/-- One more data frame makes the peer react once more. -/
theorem output_concat (p : Peer) (received : List Payload) (q : Payload) :
    p.output (received ++ [q]) = p.output received ++ p.reaction (received ++ [q]) := by
  simp [output, reactions_append, reactions]

/-! ## Silence -/

/-- A client that has sent the data frames `before`, has `inbox` to read and goes on to send
`messages`, each after a response, comes to wait for a response that never comes: no write fails up
to there, the data frames before it are one fewer than the messages, and nothing ends the wait. -/
def FallsSilent (p : Peer) (inbox : List Arrival) (before messages : List Payload) : Prop :=
  ∃ k < messages.length,
    (∀ j ≤ k, p.writeFault (before ++ messages.take j) = none) ∧
    ((inbox ++ p.reactions before (messages.take (k + 1))).filterMap Arrival.payload?).length = k ∧
    ∀ a ∈ inbox ++ p.reactions before (messages.take (k + 1)), ∀ cause,
      a.result? ≠ some (.error cause)

variable {p : Peer} {inbox rest passed : List Arrival} {a : Arrival}
  {before messages : List Payload} {q r : Payload}

/-- The peer is silent from the start if nothing ends the wait for the first response. -/
theorem FallsSilent.head (hw : p.writeFault before = none)
    (h : ∀ a ∈ inbox ++ p.reaction (before ++ [q]), a.result? = none) :
    p.FallsSilent inbox before (q :: messages) := by
  have hr : inbox ++ p.reactions before ((q :: messages).take 1) =
      inbox ++ p.reaction (before ++ [q]) := by simp [reactions]
  refine ⟨0, by simp, ?_, ?_, ?_⟩
  · intro j hj
    obtain rfl : j = 0 := by omega
    simpa using hw
  · rw [hr, payloads_of_result?_eq_none h, List.length_nil]
  · intro a ha cause
    rw [hr] at ha
    simp [h a ha]

/-- A peer that falls silent after a response falls silent. -/
theorem FallsSilent.cons (hw : p.writeFault before = none)
    (hin : inbox ++ p.reaction (before ++ [q]) = passed ++ a :: rest)
    (hp : ∀ b ∈ passed, b.result? = none) (ha : a.result? = some (.ok r))
    (h : p.FallsSilent rest (before ++ [q]) messages) :
    p.FallsSilent inbox before (q :: messages) := by
  obtain ⟨k, hk, hwrites, hcount, hquiet⟩ := h
  have hall : inbox ++ p.reactions before ((q :: messages).take (k + 1 + 1)) =
      passed ++ a :: (rest ++ p.reactions (before ++ [q]) (messages.take (k + 1))) := by
    rw [List.take_succ_cons, reactions, ← List.append_assoc, hin]
    simp
  refine ⟨k + 1, by simpa using hk, ?_, ?_, ?_⟩
  · rintro (_ | j) hj
    · simpa using hw
    · simpa using hwrites j (by omega)
  · rw [hall, List.filterMap_append, payloads_of_result?_eq_none hp,
      List.filterMap_cons_some (b := r) (by rw [a.payload?_eq_bind, ha]; rfl), List.nil_append,
      List.length_cons, hcount]
  · intro b hb cause
    rw [hall, List.mem_append, List.mem_cons] at hb
    rcases hb with hb | rfl | hb
    · simp [hp b hb]
    · simp [ha]
    · exact hquiet b hb cause

end Peer

end Lockstep

import Lockstep.Proofs.Session.Recorded

/-!
# Why an exchange breaks

The fault of an exchange has its cause in what the peer did: it let the next write fail, it put a
close frame or a fault on the wire, or it took longer for a response than the wait for it may last.
-/

namespace Lockstep

namespace Connection

variable {c : Connection} {limit : Option Span} {deadline : Option Deadline} {r : Response}

/-! ## What is owed -/

/-- All messages have their responses, and the rest of what the peer has put on the wire is in the
inbox. -/
structure Level (c : Connection) : Prop where
  balance : c.sent.length = c.received.length
  inbox : c.inbox <:+ c.peer.output c.sent

/-- The last message has no response yet. -/
structure Owed (c : Connection) : Prop where
  balance : c.sent.length = c.received.length + 1
  inbox : c.inbox <:+ c.peer.output c.sent

/-- Why an exchange broke that left this connection behind. -/
inductive Broke (limit : Option Span) (deadline : Option Deadline) (c : Connection) : Fault → Prop
  /-- The message after those answered could not be written. -/
  | unsent {cause : SocketFault} (hs : c.sent.length = c.received.length)
      (hw : c.peer.writeFault c.sent = some cause) : Broke limit deadline c (.socket cause)
  /-- A close frame or a fault came instead of the response to the last message. -/
  | unheard {a : Arrival} {cause : Fault} (hs : c.sent.length = c.received.length + 1)
      (ha : a ∈ c.peer.output c.sent) (hr : a.result? = some (.error cause)) :
      Broke limit deadline c cause
  /-- The response to the last message did not come in time. -/
  | expired {now : Nat} {l : Span} (hs : c.sent.length = c.received.length + 1)
      (hl : budget limit deadline now = some l) : Broke limit deadline c (.responseTimeout l)

theorem level_start (peer : Peer) (now : Nat) : (start peer now).Level where
  balance := rfl
  inbox := ⟨[], (List.append_nil _).symm⟩

theorem received_of_traffic_eq {w : Connection} {t : Traffic} (h : w.traffic = c.traffic ++ [t]) :
    w.received = c.received ++ t.received?.toList := by
  change Traffic.responses w.traffic = Traffic.responses c.traffic ++ t.received?.toList
  simp [h]

/-- A message that is written is owed its response. -/
theorem Level.send (h : c.Level) {p : Payload} (hf : (c.send p).fault = none) :
    (c.send p).connection.Owed := by
  obtain ⟨hpeer, ⟨cause, -, hc, -⟩ | ⟨-, -, ht, hinbox⟩⟩ := c.send_cases p
  · rw [hf] at hc
    cases hc
  have hs : (c.send p).connection.sent = c.sent ++ [p] := sent_of_traffic_eq ht
  have hr : (c.send p).connection.received = c.received ++ [] := received_of_traffic_eq ht
  refine ⟨?_, ?_⟩
  · rw [hs, hr, List.append_nil, List.length_append, h.balance, List.length_singleton]
  · obtain ⟨read, hread⟩ := h.inbox
    refine ⟨read, ?_⟩
    rw [hpeer, hs, hinbox, Peer.output_concat, ← hread, List.append_assoc]

/-- A message that is not written breaks the exchange. -/
theorem Level.broke_of_send (h : c.Level) {p : Payload} {cause : SocketFault}
    (hf : (c.send p).fault = some cause) :
    (c.send p).connection.Broke limit deadline (.socket cause) := by
  obtain ⟨hpeer, ⟨cause', hw, hc, ht, -⟩ | ⟨-, hn, -⟩⟩ := c.send_cases p
  · cases hc.symm.trans hf
    have hs : (c.send p).connection.sent = c.sent ++ [] := sent_of_traffic_eq ht
    have hr : (c.send p).connection.received = c.received ++ [] := received_of_traffic_eq ht
    rw [List.append_nil] at hs hr
    refine .unsent ?_ ?_
    · rw [hs, hr, h.balance]
    · rw [hpeer, hs, hw]
  · rw [hf] at hn
    cases hn

/-- Once a response is read, nothing is owed. -/
theorem Owed.receive (h : c.Owed) (hr : c.receive limit = .ok r) {p : Payload}
    (hp : r.result = .ok p) : r.connection.Level := by
  obtain ⟨hpeer, ht, hread⟩ := receive_cases hr
  have hs := sent_of_receive hr
  have hreceived := received_of_traffic_eq ht
  rw [hp] at hread hreceived
  refine ⟨?_, ?_⟩
  · rw [hs, h.balance, hreceived]
    simp
  · rw [hpeer, hs]
    obtain ⟨passed, a, hall, -⟩ | ⟨l, -, hbad, -⟩ := hread
    · refine List.IsSuffix.trans ⟨passed ++ [a], ?_⟩ h.inbox
      rw [hall, List.append_assoc, List.singleton_append]
    · cases hbad

/-- A message without a response breaks the exchange. -/
theorem Owed.broke_of_receive (h : c.Owed) {now : Nat}
    (hr : c.receive (budget limit deadline now) = .ok r) {cause : Fault}
    (hc : r.result = .error cause) : r.connection.Broke limit deadline cause := by
  obtain ⟨hpeer, ht, hread⟩ := receive_cases hr
  have hs := sent_of_receive hr
  have hreceived := received_of_traffic_eq ht
  rw [hc] at hread hreceived
  have hbalance : r.connection.sent.length = r.connection.received.length + 1 := by
    rw [hs, h.balance, hreceived]
    simp
  obtain ⟨passed, a, hall, -, ha⟩ | ⟨l, hlimit, hl, -⟩ := hread
  · refine .unheard hbalance (a := a) ?_ ha
    rw [hpeer, hs]
    refine h.inbox.subset ?_
    rw [hall]
    exact List.mem_append_right _ List.mem_cons_self
  · cases hl
    exact .expired hbalance hlimit

end Connection

namespace Session

variable {limit : Option Span} {deadline : Option Deadline} {index : Nat} {steps : List Step}
  {c : Connection} {x : Exchange}

theorem Recorded.length_responses_le {traffic : List Traffic}
    (h : Recorded index steps traffic x) : (Traffic.responses traffic).length ≤ steps.length := by
  induction h with
  | done | unwritten cause | unheard cause => exact Nat.zero_le _
  | answered _ ih => exact Nat.succ_le_succ ih

/-- An exchange is unbroken exactly if all its messages have a response. -/
theorem Recorded.fault_eq_none_iff {traffic : List Traffic} (h : Recorded index steps traffic x) :
    x.fault = none ↔ (Traffic.responses traffic).length = steps.length := by
  induction h with
  | done => exact iff_of_true rfl rfl
  | unwritten cause => exact iff_of_false nofun nofun
  | unheard cause => exact iff_of_false nofun nofun
  | answered _ ih => exact ih.trans Nat.succ_inj.symm

/-- An exchange that broke did so for one of these causes. -/
theorem exchange_broke (h : exchange limit deadline index steps c = .ok x) (hc : c.Level)
    {cause : Fault} (hf : x.fault = some cause) : x.connection.Broke limit deadline cause := by
  induction steps generalizing index c x with
  | nil =>
    cases h
    cases hf
  | cons step rest ih =>
    rcases exchange_cons_cases h with ⟨e, he, rfl⟩ | ⟨r, hn, hr, hx⟩
    · cases hf
      exact hc.broke_of_send he
    · have howed := hc.send hn
      rcases hx with ⟨e, he, rfl⟩ | ⟨p, later, hp, hl, rfl⟩
      · cases hf
        exact howed.broke_of_receive hr he
      · change later.connection.Broke limit deadline cause
        exact ih hl (howed.receive hr hp) hf

end Session

end Lockstep

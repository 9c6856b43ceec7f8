import Lockstep.Proofs.Session.Moments

/-!
# Messages and responses take turns

Whatever the peer does and whenever, what passes on a connection is a message, the response to it,
the next message, and so on, up to the first break and nothing after it. So a response that comes
late is never taken for the response to a later message.
-/

namespace Lockstep

/-- What passed is an exchange in turns of the first of these messages with a peer that has sent
these data frames. -/
structure Traffic.Alternating (messages frames : List Payload) (log : List Traffic) : Prop where
  /-- The messages are written in order, none twice and none left out. -/
  written : Traffic.written log <+: messages
  /-- At no time is more than one message without its response. -/
  inStep : ∀ past, past <+: log → Traffic.InStep past
  /-- A message is written only when as many data frames have been read as messages were written
  before it, and these are the first that the peer sends. -/
  turn : ∀ past p rest, log = past ++ .sent p :: rest →
    (Traffic.responses past).length = (Traffic.written past).length ∧
      Traffic.responses past = frames.take (Traffic.written past).length
  /-- Nothing is written or read after a break. -/
  silence : ∀ past t rest, log = past ++ t :: rest → t.IsBreak → rest = []

namespace Moment

variable {messages : List Payload} {m : Moment}

/-- At every moment at most one message is without its response. -/
theorem Orderly.inStep (hm : m.Orderly messages) : Traffic.InStep m.log := by
  have hb := hm.balance
  unfold Traffic.InStep at hb ⊢
  split at hb <;> omega

/-- And so it was at each time before. -/
theorem Reachable.inStep (h : Reachable messages m) {past : List Traffic} (hp : past <+: m.log) :
    Traffic.InStep past := by
  obtain ⟨m', hm', rfl, -⟩ := h.exists_log_eq hp
  exact hm'.orderly.inStep

/-- What was read up to some time are the first data frames of the peer. -/
theorem Reachable.responses_prefix (h : Reachable messages m) {past : List Traffic}
    (hp : past <+: m.log) : Traffic.responses past <+: m.frames := by
  obtain ⟨m', hm', rfl, hput⟩ := h.exists_log_eq hp
  exact hm'.orderly.responses_prefix.trans (hput.filterMap _)

/-- What has passed at any moment is an exchange in turns. -/
theorem Reachable.alternating (h : Reachable messages m) :
    Traffic.Alternating messages m.frames m.log where
  written := ⟨m.left, h.orderly.written_left⟩
  inStep _ hp := h.inStep hp
  turn past p rest hlog := by
    have hpast : past <+: m.log := ⟨_, hlog.symm⟩
    have hsent : past ++ [.sent p] <+: m.log := ⟨rest, by rw [hlog]; simp⟩
    -- one message more is written and still at most one is without its response
    have hlt := (h.inStep hsent).2
    simp only [Traffic.written_append, Traffic.written_cons, Traffic.responses_append,
      Traffic.responses_cons, Traffic.sent?, Traffic.received?, Traffic.written_nil,
      Traffic.responses_nil, Option.toList_some, Option.toList_none, List.append_nil,
      List.length_append, List.length_singleton, Nat.add_le_add_iff_right] at hlt
    have hlength := Nat.le_antisymm (h.inStep hpast).1 hlt
    refine ⟨hlength, ?_⟩
    rw [← hlength]
    exact List.prefix_iff_eq_take.mp (h.responses_prefix hpast)
  silence past t rest hlog ht := by
    cases rest with
    | nil => rfl
    | cons u rest =>
      refine absurd ht (h.not_isBreak t ?_)
      rw [hlog, List.dropLast_append_of_ne_nil (List.cons_ne_nil _ _)]
      simp

end Moment

namespace Session

/-- Messages and responses take turns at every moment, whatever the order in which client and peer
take their steps. So they do in each attempt, where the messages that were written are those that
count as sent. An attempt that opens its connection and has no end stays at such a moment: it waits
for a response although it has read all the data frames that the peer sends. -/
theorem messages_alternate (s : Session) (scenario : Scenario) (network : Network)
    (index now : Nat) :
    (∀ m, Moment.Reachable scenario.payloads m →
        Traffic.Alternating scenario.payloads m.frames m.log) ∧
      (s.Settles scenario network index now fun r ↦
        Traffic.written r.traffic = scenario.payloads.take r.attempt.sentCount ∧
          Traffic.Alternating scenario.payloads (s.inbound network index now r) r.traffic) ∧
      ∀ peer halt, s.peer? network index now = some peer →
        s.conduct scenario network index now = .error halt →
        ∃ m, Moment.Reachable scenario.payloads m ∧ m.phase = .waiting ∧
          (∀ a ∈ m.unread, a.result? = none) ∧
          Traffic.responses m.log = peer.frames (Traffic.written m.log) := by
  refine ⟨fun m hm ↦ hm.alternating, settles_of ?_ ?_, ?_⟩
  · intro hp cause t q
    rw [inbound, hp, sentCount_unopened]
    have hstart : Moment.Reachable scenario.payloads (.start scenario.payloads) := .refl
    exact ⟨rfl, hstart.alternating⟩
  · intro peer hp deadline start x q hx
    have hrec := recorded_of_start hx
    obtain ⟨m, hm, -, hlog, hframes⟩ := exchange_reachable hx
    have halt := hm.alternating
    rw [hlog, hframes] at halt
    have hsent : (s.closed scenario x).sentCount =
        (Traffic.written x.connection.traffic).length := hrec.countP_sent
    rw [inbound, hp, hsent]
    exact ⟨List.prefix_iff_eq_take.mp halt.written, halt⟩
  · intro peer halt hp h
    obtain ⟨deadline, o, start, hd, ho, hc⟩ := exists_start_of_peer? hp
    rw [conduct_of_opened hd ho hc] at h
    exact exchange_stalled (Halt.map_eq_error.mp h)

end Session

end Lockstep

import Lockstep.Proofs.Session.Recorded

/-!
# When an attempt settles

An attempt comes to a record, whatever the network does, with two exceptions: the clock cannot show
its deadline, or it waits without a limit for something that never comes. `Settles` states what
holds of the record and, when there is none, which of the two exceptions is met; `settles_of`
reduces it to the two kinds of record, that of a connection that was not opened and that of an
exchange.
-/

namespace Lockstep

/-- What the messages of a scenario carry. -/
def Scenario.payloads (s : Scenario) : List Payload := s.steps.map Step.payload

namespace Session

/-! ## Exchanges without end -/

/-- An exchange has no end only if nothing limits a wait in it and the peer falls silent. -/
theorem exchange_error {limit : Option Span} {deadline : Option Deadline} {index : Nat}
    {steps : List Step} {c : Connection} {halt : Halt}
    (h : exchange limit deadline index steps c = .error halt) :
    halt = .endless ∧ limit = none ∧ deadline = none ∧
      c.peer.FallsSilent c.inbox c.sent (steps.map Step.payload) := by
  induction steps generalizing index c with
  | nil => cases h
  | cons step rest ih =>
    obtain ⟨hf, h⟩ := exchange_cons_error h
    obtain ⟨hpeer, ⟨e, -, he, -⟩ | ⟨hw, -, ht, hin⟩⟩ := c.send_cases step.payload
    · rw [hf] at he; cases he
    rcases h with hr | ⟨r, p, hr, hp, hl⟩
    · obtain ⟨rfl, hb, hquiet⟩ := Connection.receive_error hr
      obtain ⟨rfl, rfl⟩ := budget_eq_none.mp hb
      rw [hin] at hquiet
      exact ⟨rfl, rfl, rfl, .head hw hquiet⟩
    · obtain ⟨rfl, rfl, rfl, hsilent⟩ := ih hl
      obtain ⟨hrpeer, -, ⟨passed, a, hrin, hpassed, ha⟩ | ⟨l, -, hr', -⟩⟩ :=
        Connection.receive_cases hr
      · have hrsent : r.connection.sent = c.sent ++ [step.payload] := by
          rw [Connection.sent_of_receive hr]
          exact Connection.sent_of_traffic_eq ht
        rw [hrpeer, hpeer, hrsent] at hsilent
        rw [hin] at hrin
        exact ⟨rfl, rfl, rfl, hsilent.cons hw hrin hpassed (hp ▸ ha)⟩
      · rw [hp] at hr'; cases hr'

/-! ## The course of an attempt -/

section Course

variable {s : Session} {scenario : Scenario} {network : Network} {index now : Nat}
  {deadline : Option Deadline} {o : Network.Opening}

/-- The record of an attempt whose messages were exchanged so. -/
def recordOf (s : Session) (scenario : Scenario) (requested : Bool) (x : Exchange) : Record :=
  ⟨s.closed scenario x, x.connection.traffic, x.connection.now, requested⟩

theorem conduct_of_unopened {cause : Fault} (hd : s.deadline now = .ok deadline)
    (ho : s.opening network index now deadline = .ok o) (hc : o.result = .error cause) :
    s.conduct scenario network index now =
      .ok ⟨s.unopened scenario cause, [], o.now, o.requested⟩ := by
  rw [conduct, hd, Halt.ok_bind, ho, Halt.ok_bind]
  simp only [hc]
  rfl

theorem conduct_of_opened {c : Connection} (hd : s.deadline now = .ok deadline)
    (ho : s.opening network index now deadline = .ok o) (hc : o.result = .ok c) :
    s.conduct scenario network index now = s.recordOf scenario o.requested <$>
      exchange s.timeouts.response deadline 0 scenario.steps c := by
  rw [conduct, hd, Halt.ok_bind, ho, Halt.ok_bind]
  simp only [hc]
  exact bind_pure_comp ..

end Course

/-! ## The connection of an attempt -/

/-- The peer with which an attempt opens its connection, if it does. -/
def peer? (s : Session) (network : Network) (index now : Nat) : Option Peer := do
  let deadline ← (s.deadline now).toOption
  let opening ← (s.opening network index now deadline).toOption
  let c ← opening.result.toOption
  return c.peer

/-- An attempt waits, without a limit, for something that never comes: for its connection, or for
the response to one of its messages. -/
def Stalls (s : Session) (scenario : Scenario) (network : Network) (index now : Nat) : Prop :=
  s.attemptTimeout = none ∧
    ((s.timeouts.connect = none ∧ ∃ request, Request.ofUri s.endpoint.uri = .ok request ∧
        network.answer index request = .silence) ∨
      (s.timeouts.response = none ∧ ∃ peer, s.peer? network index now = some peer ∧
        peer.FallsSilent peer.greeting [] scenario.payloads))

/-- `p` holds of the record of an attempt. There is a record unless the clock cannot show the
deadline of the attempt, or the attempt stalls. -/
def Settles (s : Session) (scenario : Scenario) (network : Network) (index now : Nat)
    (p : Record → Prop) : Prop :=
  match s.conduct scenario network index now with
  | .ok r => p r
  | .error .instantOverflow => ∃ limit, s.attemptTimeout = some limit ∧
      0x8000000000000000 * 1000000000 ≤ now + limit.nanoseconds
  | .error .endless => s.Stalls scenario network index now
  | .error _ => False

variable {s : Session} {scenario : Scenario} {network : Network} {index now : Nat}

theorem Settles.of_conduct {p : Record → Prop} (h : s.Settles scenario network index now p)
    {r : Record} (hr : s.conduct scenario network index now = .ok r) : p r := by
  rwa [Settles, hr] at h

theorem deadline_eq_error {halt : Halt} (h : s.deadline now = .error halt) :
    halt = .instantOverflow ∧ ∃ limit, s.attemptTimeout = some limit ∧
      0x8000000000000000 * 1000000000 ≤ now + limit.nanoseconds := by
  unfold deadline at h
  split at h
  · rename_i limit hl
    unfold Deadline.after at h
    split at h
    · cases h
    · rename_i hlt
      cases h
      exact ⟨rfl, limit, hl, Nat.le_of_not_lt hlt⟩
  · cases h

/-- An attempt without a deadline has no limit on it as a whole. -/
theorem attemptTimeout_of_deadline_eq_none (h : s.deadline now = .ok none) :
    s.attemptTimeout = none := by
  unfold deadline at h
  split at h
  · rename_i limit hl
    unfold Deadline.after at h
    split at h <;> cases h
  · assumption

theorem peer?_of_opening {deadline : Option Deadline} {o : Network.Opening}
    (hd : s.deadline now = .ok deadline) (ho : s.opening network index now deadline = .ok o) :
    s.peer? network index now = o.result.toOption.map Connection.peer := by
  rw [peer?, hd, Except.toOption, Option.bind_eq_bind, Option.bind_some, ho, Except.toOption,
    Option.bind_eq_bind, Option.bind_some]
  cases o.result <;> rfl

/-- A connection that is opened has only just been. -/
theorem eq_start_of_opening {deadline : Option Deadline} {o : Network.Opening} {c : Connection}
    (ho : s.opening network index now deadline = .ok o) (hc : o.result = .ok c) :
    c = .start c.peer c.now := by
  unfold opening Network.connect at ho
  split at ho
  · cases ho; cases hc
  · split at ho <;> cases ho <;> cases hc
    rfl

/-- An attempt that opens its connection with a peer starts on that connection. -/
theorem exists_start_of_peer? {peer : Peer} (h : s.peer? network index now = some peer) :
    ∃ deadline o start, s.deadline now = .ok deadline ∧
      s.opening network index now deadline = .ok o ∧ o.result = .ok (.start peer start) := by
  cases hd : s.deadline now with
  | error halt => rw [peer?, hd] at h; cases h
  | ok deadline =>
    cases ho : s.opening network index now deadline with
    | error halt =>
      rw [peer?, hd, Except.toOption, Option.bind_eq_bind, Option.bind_some, ho] at h
      cases h
    | ok o =>
      rw [peer?_of_opening hd ho] at h
      cases hc : o.result with
      | error cause => rw [hc] at h; cases h
      | ok c =>
        rw [hc] at h
        cases h
        refine ⟨deadline, o, c.now, rfl, ho, ?_⟩
        rw [hc, ← eq_start_of_opening ho hc]

/-- Opening a connection has no end only if nothing limits it and the network is silent. -/
theorem opening_eq_error {deadline : Option Deadline} {halt : Halt}
    (ho : s.opening network index now deadline = .error halt) :
    halt = .endless ∧ deadline = none ∧ s.timeouts.connect = none ∧
      ∃ request, Request.ofUri s.endpoint.uri = .ok request ∧
        network.answer index request = .silence := by
  unfold opening Network.connect at ho
  split at ho
  · cases ho
  · rename_i request hr
    split at ho <;> cases ho
    rename_i hw
    obtain ⟨hb, ha⟩ := Wait.within_eq_endless hw
    obtain ⟨hl, hd⟩ := budget_eq_none.mp hb
    refine ⟨rfl, hd, hl, request, hr, ?_⟩
    cases h : network.answer index request with
    | silence => rfl
    | after delay result => rw [h] at ha; cases ha

/-- There is no record only if the clock cannot show the deadline or the attempt stalls. -/
theorem conduct_eq_error {halt : Halt} (h : s.conduct scenario network index now = .error halt) :
    (halt = .instantOverflow ∧ ∃ limit, s.attemptTimeout = some limit ∧
      0x8000000000000000 * 1000000000 ≤ now + limit.nanoseconds) ∨
    halt = .endless ∧ s.Stalls scenario network index now := by
  rcases Halt.bind_eq_error.mp h with hd | ⟨deadline, hd, h⟩
  · exact .inl (deadline_eq_error hd)
  right
  rcases Halt.bind_eq_error.mp h with ho | ⟨o, ho, h⟩
  · obtain ⟨rfl, rfl, hl, hr⟩ := opening_eq_error ho
    exact ⟨rfl, attemptTimeout_of_deadline_eq_none hd, .inl ⟨hl, hr⟩⟩
  split at h
  · cases h
  · rename_i c hc
    rcases Halt.bind_eq_error.mp h with hx | ⟨x, -, h⟩
    · obtain ⟨rfl, hl, rfl, hsilent⟩ := exchange_error hx
      have hp := peer?_of_opening hd ho
      rw [hc] at hp
      rw [eq_start_of_opening ho hc] at hsilent
      exact ⟨rfl, attemptTimeout_of_deadline_eq_none hd, .inr ⟨hl, c.peer, hp, hsilent⟩⟩
    · cases h

/-- A session sees no more of a network than the answer to its own request. -/
theorem conduct_congr {network' : Network} {index' : Nat}
    (h : network.answer index = network'.answer index') :
    s.conduct scenario network index now = s.conduct scenario network' index' now := by
  have hconnect : ∀ uri limit start,
      network.connect index uri limit start = network'.connect index' uri limit start := by
    intro uri limit start
    rw [Network.connect, Network.connect, h]
  have hopening : ∀ deadline,
      s.opening network index now deadline = s.opening network' index' now deadline :=
    fun deadline ↦ hconnect ..
  unfold conduct
  simp only [hopening]

/-- What holds of each record to which an attempt can come holds of its record. -/
theorem settles_of_conduct {p : Record → Prop}
    (h : ∀ r, s.conduct scenario network index now = .ok r → p r) :
    s.Settles scenario network index now p := by
  unfold Settles
  cases hr : s.conduct scenario network index now with
  | error halt =>
    rcases conduct_eq_error hr with ⟨rfl, hlimit⟩ | ⟨rfl, hs⟩
    · exact hlimit
    · exact hs
  | ok r => exact h r hr

/-- What holds of the record of each connection that cannot be opened, and of that of each exchange
on one that can, holds of the record of the attempt. -/
theorem settles_of_opening {p : Record → Prop}
    (hu : ∀ deadline o cause, s.deadline now = .ok deadline →
      s.opening network index now deadline = .ok o → o.result = .error cause →
      p ⟨s.unopened scenario cause, [], o.now, o.requested⟩)
    (hx : ∀ deadline o peer start x, s.deadline now = .ok deadline →
      s.opening network index now deadline = .ok o → o.result = .ok (.start peer start) →
      exchange s.timeouts.response deadline 0 scenario.steps (.start peer start) = .ok x →
      p (s.recordOf scenario o.requested x)) :
    s.Settles scenario network index now p := by
  refine settles_of_conduct fun r h ↦ ?_
  obtain ⟨deadline, hd, h⟩ := Halt.bind_eq_ok.mp h
  obtain ⟨o, ho, h⟩ := Halt.bind_eq_ok.mp h
  split at h
  · rename_i cause hc
    cases h
    exact hu deadline o cause hd ho hc
  · rename_i c hc
    obtain ⟨x, hex, h⟩ := Halt.bind_eq_ok.mp h
    cases h
    have hstart := eq_start_of_opening ho hc
    refine hx deadline o c.peer c.now x hd ho ?_ ?_
    · rw [← hstart]
      exact hc
    · rw [← hstart]
      exact hex

/-- What holds of the record of a connection that is not opened, and of that of each exchange with
the peer of the connection, holds of the record of the attempt. -/
theorem settles_of {p : Record → Prop}
    (hu : s.peer? network index now = none → ∀ cause t q,
      p ⟨s.unopened scenario cause, [], t, q⟩)
    (hx : ∀ peer, s.peer? network index now = some peer → ∀ deadline start x q,
      exchange s.timeouts.response deadline 0 scenario.steps (.start peer start) = .ok x →
      p ⟨s.closed scenario x, x.connection.traffic, x.connection.now, q⟩) :
    s.Settles scenario network index now p := by
  refine settles_of_opening ?_ ?_
  · intro deadline o cause hd ho hc
    have hp := peer?_of_opening hd ho
    rw [hc] at hp
    exact hu hp cause _ _
  · intro deadline o peer start x hd ho hc hex
    have hp := peer?_of_opening hd ho
    rw [hc] at hp
    exact hx peer hp deadline start x _ hex

/-- A session with the echo route of a server on this machine. -/
def nearby : Session := ⟨1, ⟨"127.0.0.1", 8765, "/", .identity⟩, .standard, none⟩

/-- It comes to a connection with the peer that answers the first request at once. -/
theorem peer?_nearby (peer : Peer) :
    nearby.peer? (.ofAnswers [.opened peer]) 0 0 = some peer := by
  rfl

end Session

end Lockstep

import Lockstep.Proofs.Request
import Lockstep.Proofs.Session.Success
import Lockstep.Server
import Mathlib.Data.Set.Insert

/-!
# Sessions with a server

A server answers each data frame with what the transform of the route makes of it, and takes its
time for it. A session whose scenario looks for just these answers is without a flaw, unless one of
its waits is given up before the answer comes.
-/

namespace Lockstep

/-! ## Service -/

/-- The peer answers each data frame with what `t` makes of it, after one of the `delays`, and does
nothing else. -/
structure Peer.Serves (peer : Peer) (t : Transform) (delays : Set Nat) : Prop where
  greeting : peer.greeting = []
  writeFault : ∀ received, peer.writeFault received = none
  reaction : ∀ received p, ∃ d ∈ delays,
    peer.reaction (received ++ [p]) = [⟨d, .message (.data (t.apply p))⟩]

/-- Each request meets the answer of the server, after one of the `delays`. -/
def Network.Serves (n : Network) (server : Server) (delays : Set Nat) : Prop :=
  ∀ index request, ∃ d ∈ delays,
    match server.resolve request with
    | .ok t => ∃ peer : Peer, peer.Serves t delays ∧ n.answer index request = .after d (.ok peer)
    | .error cause => n.answer index request = .after d (.error cause)

/-- Answers each data frame with what `t` makes of it, `delay` nanoseconds later. -/
def Peer.replyingAfter (delay : Nat) (t : Transform) : Peer where
  greeting := []
  reaction received :=
    (received.getLast?.map fun p ↦ (⟨delay, .message (.data (t.apply p))⟩ : Arrival)).toList
  writeFault _ := none

theorem Peer.replyingAfter_serves (delay : Nat) (t : Transform) :
    (replyingAfter delay t).Serves t {delay} where
  greeting := rfl
  writeFault _ := rfl
  reaction received p := by
    refine ⟨delay, rfl, ?_⟩
    unfold replyingAfter
    dsimp only
    rw [List.getLast?_concat]
    rfl

/-- The server, reached by every request, which takes `delay` nanoseconds for each answer. -/
def Server.delayed (s : Server) (delay : Nat) : Network where
  answer _ request := match s.resolve request with
    | .ok t => .after delay (.ok (.replyingAfter delay t))
    | .error cause => .after delay (.error cause)
  occupied _ := false

theorem Server.delayed_serves (s : Server) (delay : Nat) :
    (s.delayed delay).Serves s {delay} := by
  intro index request
  refine ⟨delay, rfl, ?_⟩
  unfold delayed
  dsimp only
  cases s.resolve request with
  | ok t => exact ⟨_, Peer.replyingAfter_serves delay t, rfl⟩
  | error cause => rfl

theorem Server.delayed_zero (s : Server) : s.delayed 0 = s.network := rfl

/-- A server that every request reaches answers at once. -/
theorem Server.network_serves (s : Server) : s.network.Serves s {0} := by
  rw [← delayed_zero]
  exact s.delayed_serves 0

/-- At the path of a plain endpoint a server has the transform of its route. -/
theorem Endpoint.Plain.resolve {e : Endpoint} {server : Server} {t : Transform} (h : e.Plain)
    (hroute : server.route? e.path = some t) :
    server.resolve ⟨e.authority, e.path, none⟩ = .ok t :=
  Server.resolve_eq_ok.mpr ⟨h.isReadable _ _, hroute⟩

/-! ## What a scenario looks for -/

/-- The response to a message that is looked for is what `t` makes of it: the predicate says so, or
it is for that payload. -/
def Step.Suits (step : Step) (t : Transform) : Prop :=
  step.predicate = .transformed t ∨ step.predicate = .exact (t.apply step.payload)

def Scenario.Suits (s : Scenario) (t : Transform) : Prop := ∀ step ∈ s.steps, step.Suits t

/-- A burst looks for what the transform makes of its messages. -/
theorem Scenario.burst_suits (draw : Draw) (count size : Nat) (t : Transform) :
    (burst draw count size t).Suits t := by
  intro step hstep
  obtain ⟨i, -, rfl⟩ := List.mem_map.mp hstep
  exact .inl rfl

theorem Scenario.Suits.pushText {s : Scenario} {t : Transform} (h : s.Suits t) (text : String) :
    (s.pushText t text).Suits t := by
  intro step hstep
  rw [Scenario.pushText, steps_push, List.mem_append, List.mem_singleton] at hstep
  obtain hstep | rfl := hstep
  · exact h step hstep
  · exact .inl rfl

theorem Scenario.Suits.pushBinary {s : Scenario} {t : Transform} (h : s.Suits t)
    (octets : List UInt8) : (s.pushBinary t octets).Suits t := by
  intro step hstep
  rw [Scenario.pushBinary, steps_push, List.mem_append, List.mem_singleton] at hstep
  obtain hstep | rfl := hstep
  · exact h step hstep
  · exact .inl rfl

theorem Scenario.empty_suits (name : String) (t : Transform) : (empty name).Suits t :=
  fun _ hstep ↦ absurd hstep List.not_mem_nil

theorem Scenario.echo_suits (t : Transform) : (echo t).Suits t :=
  ((((empty_suits "echo" t).pushText _).pushBinary _).pushText _).pushText _ |>.pushText _

theorem Scenario.chat_suits (t : Transform) : (chat t).Suits t :=
  (((empty_suits "chat" t).pushText _).pushText _).pushText _

theorem Step.Suits.evaluate {step : Step} {t : Transform} (h : step.Suits t) :
    step.predicate.evaluate step.payload (t.apply step.payload) = .matched := by
  have hexpected : step.predicate.expected step.payload = t.apply step.payload := by
    obtain h | h := h <;> rw [h] <;> rfl
  simp [Predicate.evaluate, hexpected]

/-! ## What comes of an attempt -/

/-- The message was sent and has, after one of the `delays`, the response that was looked for. -/
structure Outcome.Served (o : Outcome) (delays : Set Nat) : Prop where
  sent : o.sent = true
  verdict : o.verdict = .matched
  roundTrip : ∃ d ∈ delays, o.roundTrip = some (.clamp d)

/-- Each of `count` messages was sent and has, after one of the `delays`, the response that was
looked for. -/
structure Attempt.Flawless (a : Attempt) (count : Nat) (delays : Set Nat) : Prop where
  fault : a.fault = none
  succeeded : a.succeeded = true
  length : a.outcomes.length = count
  outcomes : ∀ o ∈ a.outcomes, o.Served delays
  sent : a.sentCount = count
  answered : a.answeredCount = count
  matched : a.matchedCount = count

/-- A wait was given up before it had lasted one of the `delays`. -/
def Fault.GaveUp (cause : Fault) (delays : Set Nat) : Prop :=
  ∃ d ∈ delays, ∃ l : Span, l.nanoseconds < d ∧
    (cause = .connectTimeout l ∨ cause = .responseTimeout l)

/-- The attempt ended because a wait was given up before it had lasted one of the `delays`. -/
def Attempt.GaveUp (a : Attempt) (delays : Set Nat) : Prop :=
  ∃ cause, a.fault = some cause ∧ cause.GaveUp delays

/-- Waits are not given up on who answers at once. -/
theorem Attempt.not_gaveUp_zero (a : Attempt) : ¬ a.GaveUp {0} := by
  rintro ⟨cause, -, d, rfl, l, hl, -⟩
  exact Nat.not_lt_zero _ hl

/-! ## Waiting for the answer -/

/-- What comes after a delay is there unless the wait is given up before. -/
theorem Wait.within_some {α : Type} (limit : Option Span) (d : Nat) (a : α) :
    within limit (some (d, a)) = .ready d a ∨
      ∃ l : Span, l.nanoseconds < d ∧ within limit (some (d, a)) = .expired l := by
  cases limit with
  | none => exact .inl rfl
  | some l =>
    by_cases hle : d ≤ l.nanoseconds
    · exact .inl (if_pos hle)
    · exact .inr ⟨l, Nat.lt_of_not_le hle, if_neg hle⟩

/-- The response is the data frame that is on its way, unless the wait is given up before. -/
theorem Connection.receive_data {c : Connection} {d : Nat} {p : Payload} {more : List Arrival}
    (h : c.inbox = ⟨d, .message (.data p)⟩ :: more) (limit : Option Span) :
    ∃ r, c.receive limit = .ok r ∧ r.connection.peer = c.peer ∧
      (r.result = .ok p ∧ r.took = d ∧ r.connection.inbox = more ∨
        ∃ l : Span, l.nanoseconds < d ∧ r.result = .error (.responseTimeout l)) := by
  have hnext : nextPayload? 0 c.inbox = some (d, .ok p, more) := by
    rw [h, nextPayload?, Nat.zero_add]
  unfold receive
  rw [hnext]
  rcases Wait.within_some limit d (Except.ok (ε := Fault) p, more) with hw | ⟨l, hl, hw⟩
  · rw [hw]
    exact ⟨_, rfl, rfl, .inl ⟨rfl, rfl, rfl⟩⟩
  · rw [hw]
    exact ⟨_, rfl, rfl, .inr ⟨l, hl, rfl⟩⟩

/-- What a request that has an answer on its way comes to. -/
def Network.outcome (uri : String) (now : Nat) : Except SocketFault Peer → Except Fault Connection
  | .ok peer => .ok (.start peer now)
  | .error cause => .error (openFault uri cause)

/-- A request comes to what is on its way, unless the wait is given up before. -/
theorem Network.connect_after {n : Network} {index : Nat} {uri : String} {request : Request}
    {d : Nat} {result : Except SocketFault Peer} (hr : Request.ofUri uri = .ok request)
    (ha : n.answer index request = .after d result) (limit : Option Span) (now : Nat) :
    ∃ o, n.connect index uri limit now = .ok o ∧
      (o.result = outcome uri (now + d) result ∨
        ∃ l : Span, l.nanoseconds < d ∧ o.result = .error (.connectTimeout l)) := by
  have harrival : (n.answer index request).arrival? = some (d, result) := by
    rw [ha]
    rfl
  unfold connect
  rw [hr]
  dsimp only
  rw [harrival]
  rcases Wait.within_some limit d result with hw | ⟨l, hl, hw⟩
  · rw [hw]
    cases result with
    | ok peer => exact ⟨_, rfl, .inl rfl⟩
    | error cause => exact ⟨_, rfl, .inl rfl⟩
  · rw [hw]
    exact ⟨_, rfl, .inr ⟨l, hl, rfl⟩⟩

namespace Session

variable {t : Transform} {delays : Set Nat}

/-! ## The exchange -/

/-- An exchange in which each of `count` messages has the response that was looked for. -/
structure Exchange.Flawless (x : Exchange) (count : Nat) (delays : Set Nat) : Prop where
  fault : x.fault = none
  length : x.outcomes.length = count
  outcomes : ∀ o ∈ x.outcomes, o.Served delays

theorem Exchange.Flawless.answered {x : Exchange} {count : Nat} (h : x.Flawless count delays)
    (index : Nat) {d : Nat} (hd : d ∈ delays) :
    (Exchange.answered index .matched d x).Flawless (count + 1) delays where
  fault := h.fault
  length := congrArg Nat.succ h.length
  outcomes := List.forall_mem_cons.mpr ⟨⟨rfl, rfl, d, hd, rfl⟩, h.outcomes⟩

/-- A message that the peer takes, and behind which a data frame is next in the inbox, has that data
frame for its response, unless the wait is given up before. -/
theorem exchange_cons_of_data (limit : Option Span) (deadline : Option Deadline) (index : Nat)
    {step : Step} (rest : List Step) {c : Connection} {d : Nat} {p : Payload}
    {more : List Arrival} (hw : c.peer.writeFault c.sent = none)
    (hin : c.inbox ++ c.peer.reaction (c.sent ++ [step.payload]) =
      ⟨d, .message (.data p)⟩ :: more) :
    (∃ w : Connection, w.peer = c.peer ∧ w.sent = c.sent ++ [step.payload] ∧ w.inbox = more ∧
        exchange limit deadline index (step :: rest) c =
          Exchange.answered index (step.predicate.evaluate step.payload p) d <$>
            exchange limit deadline (index + 1) rest w) ∨
      ∃ (l : Span) (w : Connection), l.nanoseconds < d ∧
        exchange limit deadline index (step :: rest) c =
          .ok (.unheard index (.responseTimeout l) rest w) := by
  obtain ⟨hp, ⟨cause, he, -⟩ | ⟨-, hf, ht, hinbox⟩⟩ := c.send_cases step.payload
  · rw [hw] at he
    cases he
  rw [hin] at hinbox
  obtain ⟨r, hr, hrpeer, ⟨hres, htook, hrin⟩ | ⟨l, hl, hres⟩⟩ :=
    Connection.receive_data hinbox (budget limit deadline (c.send step.payload).connection.now)
  · refine .inl ⟨r.connection, hrpeer.trans hp, ?_, hrin, ?_⟩
    · rw [Connection.sent_of_receive hr]
      exact Connection.sent_of_traffic_eq ht
    · rw [exchange]
      simp only [hf]
      rw [hr, Halt.ok_bind]
      simp only [hres]
      rw [htook]
      exact bind_pure_comp ..
  · refine .inr ⟨l, r.connection, hl, ?_⟩
    rw [exchange]
    simp only [hf]
    rw [hr, Halt.ok_bind]
    simp only [hres]
    rfl

/-- An exchange with a peer that serves is without a flaw unless a wait is given up. -/
theorem exchange_served (limit : Option Span) (deadline : Option Deadline) (index : Nat)
    {steps : List Step} {c : Connection} (hpeer : c.peer.Serves t delays) (hinbox : c.inbox = [])
    (hsteps : ∀ step ∈ steps, step.Suits t) :
    ∃ x, exchange limit deadline index steps c = .ok x ∧
      (x.Flawless steps.length delays ∨ ∃ cause, x.fault = some cause ∧ cause.GaveUp delays) := by
  induction steps generalizing index c with
  | nil => exact ⟨_, rfl, .inl ⟨rfl, rfl, fun _ ho ↦ absurd ho List.not_mem_nil⟩⟩
  | cons step rest ih =>
    obtain ⟨hstep, hrest⟩ := List.forall_mem_cons.mp hsteps
    -- Nothing was left in the inbox, so the answer to this message is all that is in it.
    obtain ⟨d, hd, hreaction⟩ := hpeer.reaction c.sent step.payload
    have hin : c.inbox ++ c.peer.reaction (c.sent ++ [step.payload]) =
        [⟨d, .message (.data (t.apply step.payload))⟩] := by
      rw [hinbox, hreaction, List.nil_append]
    obtain ⟨w, hwpeer, -, hwin, hx⟩ | ⟨l, w, hl, hx⟩ :=
      exchange_cons_of_data limit deadline index rest (hpeer.writeFault _) hin
    · obtain ⟨later, hlater, h⟩ := ih (index + 1) (hwpeer ▸ hpeer) hwin hrest
      refine ⟨.answered index .matched d later, ?_, ?_⟩
      · rw [hx, hlater, hstep.evaluate]
        rfl
      · obtain h | h := h
        · exact .inl (h.answered index hd)
        · exact .inr h
    · exact ⟨_, hx, .inr ⟨_, rfl, d, hd, l, hl, .inr rfl⟩⟩

theorem flawless_closed {s : Session} {scenario : Scenario} {x : Exchange}
    (h : x.Flawless scenario.length delays) :
    (s.closed scenario x).Flawless scenario.length delays := by
  have hcount : ∀ q : Outcome → Bool, (∀ o ∈ x.outcomes, q o = true) →
      x.outcomes.countP q = scenario.length := by
    intro q hq
    rw [← h.length]
    exact List.countP_eq_length.mpr hq
  have hmatched : x.outcomes.countP Outcome.isMatch = scenario.length := by
    refine hcount _ fun o ho ↦ ?_
    rw [Outcome.isMatch, (h.outcomes o ho).verdict]
    rfl
  constructor
  · exact h.fault
  · exact succeeded_closed.mpr ⟨h.fault, hmatched⟩
  · exact h.length
  · exact h.outcomes
  · exact hcount _ fun o ho ↦ (h.outcomes o ho).sent
  · refine hcount _ fun o ho ↦ ?_
    obtain ⟨d, -, hd⟩ := (h.outcomes o ho).roundTrip
    rw [Outcome.isAnswered, hd]
    rfl
  · exact hmatched

/-! ## The attempt -/

/-- The clock can show the end of the time for an attempt that begins at `now`. -/
def OnClock (limit : Option Span) (now : Nat) : Prop :=
  ∀ l, limit = some l → now + l.nanoseconds < 0x8000000000000000 * 1000000000

theorem exists_deadline {s : Session} {now : Nat} (h : OnClock s.attemptTimeout now) :
    ∃ deadline, s.deadline now = .ok deadline := by
  unfold deadline
  cases hl : s.attemptTimeout with
  | none => exact ⟨none, rfl⟩
  | some l =>
    have hlt : now + l.nanoseconds < 0x8000000000000000 * 1000000000 := h l hl
    refine ⟨some ⟨_, hlt⟩, ?_⟩
    dsimp only
    unfold Deadline.after
    rw [dif_pos hlt]
    rfl

variable {s : Session} {scenario : Scenario} {network : Network} {server : Server} {now : Nat}
  {request : Request}

/-- An attempt at a route of a server has a record, and is without a flaw unless a wait is given up.
-/
theorem conduct_served (index : Nat) (hnetwork : network.Serves server delays)
    (hrequest : Request.ofUri s.endpoint.uri = .ok request)
    (hroute : server.resolve request = .ok t) (hscenario : scenario.Suits t)
    (hclock : OnClock s.attemptTimeout now) :
    ∃ r, s.conduct scenario network index now = .ok r ∧
      (r.attempt.Flawless scenario.length delays ∨ r.attempt.GaveUp delays) := by
  obtain ⟨deadline, hd⟩ := exists_deadline hclock
  obtain ⟨d, hdelay, hanswer⟩ := hnetwork index request
  rw [hroute] at hanswer
  obtain ⟨peer, hpeer, hanswer⟩ := hanswer
  obtain ⟨o, ho, hc | ⟨l, hl, hc⟩⟩ : ∃ o, s.opening network index now deadline = .ok o ∧ _ :=
    Network.connect_after hrequest hanswer _ now
  · obtain ⟨x, hx, h⟩ := exchange_served s.timeouts.response deadline 0
      (c := .start peer (now + d)) hpeer hpeer.greeting hscenario
    refine ⟨s.recordOf scenario o.requested x, ?_, ?_⟩
    · rw [conduct_of_opened hd ho hc, hx]
      rfl
    · obtain h | h := h
      · exact .inl (flawless_closed h)
      · exact .inr h
  · exact ⟨_, conduct_of_unopened hd ho hc, .inr ⟨_, rfl, d, hdelay, l, hl, .inl rfl⟩⟩

/-- An attempt at no route of a server has a record, and comes to nothing: the server answers with
its status, unless the wait for that is given up. -/
theorem conduct_unmet (index now : Nat) (scenario : Scenario)
    (hnetwork : network.Serves server delays)
    (hrequest : Request.ofUri s.endpoint.uri = .ok request)
    (hroute : server.resolve request = .error (.http Server.refusalStatus))
    (hclock : OnClock s.attemptTimeout now) :
    ∃ r cause, s.conduct scenario network index now = .ok r ∧ r.attempt.fault = some cause ∧
      (cause = .socket (.http Server.refusalStatus) ∨ cause.GaveUp delays) := by
  obtain ⟨deadline, hd⟩ := exists_deadline hclock
  obtain ⟨d, hdelay, hanswer⟩ := hnetwork index request
  rw [hroute] at hanswer
  obtain ⟨o, ho, hc | ⟨l, hl, hc⟩⟩ : ∃ o, s.opening network index now deadline = .ok o ∧ _ :=
    Network.connect_after hrequest hanswer _ now
  · exact ⟨_, _, conduct_of_unopened hd ho hc, rfl, .inl rfl⟩
  · exact ⟨_, _, conduct_of_unopened hd ho hc, rfl, .inr ⟨d, hdelay, l, hl, .inl rfl⟩⟩

end Session

end Lockstep

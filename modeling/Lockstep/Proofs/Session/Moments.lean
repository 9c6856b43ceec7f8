import Lockstep.Proofs.Session.Settled
import Mathlib.Logic.Relation

/-!
# Client and peer side by side

A client and a peer take their steps in any order. Nothing is assumed of the peer: it may put
anything on the wire at any time, whatever it has received. The client writes one message when it is
ready and then waits; it takes what is on the wire from the front, at any speed, until a response or
a fault is there or its time is up. `Moment` is what an observer of both sees, and `Moment.Step` is
one step of either.

Every exchange of a session runs through such moments, to its end (`exchange_leads`) or to one at
which it waits without end (`exchange_waits`). So what holds at all of them holds throughout a
session.
-/

namespace Lockstep

/-! ## Moments -/

/-- What a client does next. -/
inductive Phase where
  /-- It writes the next message, if there is one. -/
  | ready
  /-- It waits for a response. -/
  | waiting
  /-- It writes and reads no more. -/
  | over
deriving DecidableEq, Repr

/-- What an observer of client and peer sees. -/
structure Moment where
  phase : Phase
  /-- The messages that are not written. -/
  left : List Payload
  /-- All that the peer has put on the wire. -/
  put : List Arrival
  /-- What of it the client has not read. -/
  unread : List Arrival
  log : List Traffic

namespace Moment

/-- The connection is open and nothing has happened on it. -/
def start (messages : List Payload) : Moment := ⟨.ready, messages, [], [], []⟩

/-- The data frames that the peer has sent, read or not. -/
def frames (m : Moment) : List Payload := m.put.filterMap Arrival.payload?

/-- One step of the peer or of the client. -/
inductive Step : Moment → Moment → Prop
  /-- The peer puts anything on the wire. -/
  | put {phase left put unread log} (a : Arrival) :
      Step ⟨phase, left, put, unread, log⟩ ⟨phase, left, put ++ [a], unread ++ [a], log⟩
  /-- The client writes the next message. -/
  | write {q left put unread log} :
      Step ⟨.ready, q :: left, put, unread, log⟩ ⟨.waiting, left, put, unread, log ++ [.sent q]⟩
  /-- The client cannot write the next message. -/
  | unsent {q left put unread log} (cause : SocketFault) :
      Step ⟨.ready, q :: left, put, unread, log⟩
        ⟨.over, q :: left, put, unread, log ++ [.unsent cause]⟩
  /-- The client passes over a ping or a pong. -/
  | pass {a left put unread log} (h : a.result? = none) :
      Step ⟨.waiting, left, put, a :: unread, log⟩ ⟨.waiting, left, put, unread, log⟩
  /-- The client reads a data frame as the response. -/
  | read {a p left put unread log} (h : a.result? = some (.ok p)) :
      Step ⟨.waiting, left, put, a :: unread, log⟩
        ⟨.ready, left, put, unread, log ++ [.received p]⟩
  /-- The client meets a close frame or a fault. -/
  | fail {a cause left put unread log} (h : a.result? = some (.error cause)) :
      Step ⟨.waiting, left, put, a :: unread, log⟩
        ⟨.over, left, put, unread, log ++ [.unheard cause]⟩
  /-- The time for the response is up. -/
  | expire {left put unread log} (limit : Span) :
      Step ⟨.waiting, left, put, unread, log⟩
        ⟨.over, left, put, unread, log ++ [.unheard (.responseTimeout limit)]⟩
  /-- Nothing is left to write. -/
  | finish {put unread log} : Step ⟨.ready, [], put, unread, log⟩ ⟨.over, [], put, unread, log⟩

/-- Any number of steps. -/
abbrev Leads : Moment → Moment → Prop := Relation.ReflTransGen Step

/-- The moments of all exchanges of these messages, with any peer and in any order of steps. -/
def Reachable (messages : List Payload) (m : Moment) : Prop := (start messages).Leads m

/-! ## The invariant -/

/-- What holds at every moment: the messages written and those left are all messages, in order; the
responses are the data frames of what was read; at most one message is without its response, none
when the client is ready and one while it waits; and the exchange is unbroken unless it is over. -/
structure Orderly (messages : List Payload) (m : Moment) : Prop where
  written_left : Traffic.written m.log ++ m.left = messages
  read : ∃ read, m.put = read ++ m.unread ∧
    read.filterMap Arrival.payload? = Traffic.responses m.log
  balance : match m.phase with
    | .ready => (Traffic.written m.log).length = (Traffic.responses m.log).length
    | .waiting => (Traffic.written m.log).length = (Traffic.responses m.log).length + 1
    | .over => Traffic.InStep m.log
  unbroken : m.phase ≠ .over → ∀ t ∈ m.log, ¬ t.IsBreak

theorem orderly_start (messages : List Payload) : (start messages).Orderly messages where
  written_left := rfl
  read := ⟨[], rfl, rfl⟩
  balance := rfl
  unbroken := by simp [start]

variable {messages : List Payload} {m m' : Moment}

/-- One more arrival is read. -/
theorem Orderly.read_concat (hm : m.Orderly messages) {a : Arrival} {rest : List Arrival}
    (h : m.unread = a :: rest) :
    ∃ read, m.put = read ++ rest ∧
      read.filterMap Arrival.payload? = Traffic.responses m.log ++ a.payload?.toList := by
  obtain ⟨read, hput, hread⟩ := hm.read
  refine ⟨read ++ [a], by rw [hput, h, List.append_assoc, List.singleton_append], ?_⟩
  rw [List.filterMap_append, hread]
  cases hp : a.payload? <;> simp [hp]

theorem unbroken_concat {log : List Traffic} {t : Traffic} (h : ∀ t ∈ log, ¬ t.IsBreak)
    (ht : ¬ t.IsBreak) : ∀ u ∈ log ++ [t], ¬ u.IsBreak := by
  intro u hu
  rw [List.mem_append, List.mem_singleton] at hu
  rcases hu with hu | rfl
  · exact h u hu
  · exact ht

/-- No step of either breaks the order. -/
theorem Orderly.step (hm : m.Orderly messages) (h : Step m m') : m'.Orderly messages := by
  have hw := hm.written_left
  have hb := hm.balance
  cases h with
  | put a =>
    obtain ⟨read, hput, hread⟩ := hm.read
    dsimp only at hput
    exact ⟨hw, ⟨read, by rw [hput, List.append_assoc], hread⟩, hb, hm.unbroken⟩
  | write =>
    refine ⟨by simpa using hw, by simpa using hm.read, ?_, ?_⟩
    · simpa using hb
    · exact fun _ ↦ unbroken_concat (hm.unbroken (by simp)) id
  | unsent cause =>
    refine ⟨by simpa using hw, by simpa using hm.read, ?_, ?_⟩
    · dsimp only at hb
      simp [Traffic.InStep, hb]
    · exact fun h ↦ absurd rfl h
  | pass h =>
    obtain ⟨read, hput, hread⟩ := hm.read_concat rfl
    rw [Arrival.payload?_eq_bind, h] at hread
    exact ⟨hw, ⟨read, hput, by simpa using hread⟩, hb, hm.unbroken⟩
  | read h =>
    obtain ⟨read, hput, hread⟩ := hm.read_concat rfl
    rw [Arrival.payload?_eq_bind, h] at hread
    refine ⟨by simpa using hw, ⟨read, hput, ?_⟩, ?_, ?_⟩
    · simpa [Except.toOption] using hread
    · simpa using hb
    · exact fun _ ↦ unbroken_concat (hm.unbroken (by simp)) id
  | fail h =>
    obtain ⟨read, hput, hread⟩ := hm.read_concat rfl
    rw [Arrival.payload?_eq_bind, h] at hread
    refine ⟨by simpa using hw, ⟨read, hput, ?_⟩, ?_, ?_⟩
    · simpa [Except.toOption] using hread
    · dsimp only at hb
      simp [Traffic.InStep, hb]
    · exact fun h ↦ absurd rfl h
  | expire limit =>
    refine ⟨by simpa using hw, by simpa using hm.read, ?_, ?_⟩
    · dsimp only at hb
      simp [Traffic.InStep, hb]
    · exact fun h ↦ absurd rfl h
  | finish =>
    dsimp only at hb
    refine ⟨hw, hm.read, ?_, fun h ↦ absurd rfl h⟩
    exact ⟨Nat.le_of_eq hb.symm, Nat.le_succ_of_le (Nat.le_of_eq hb)⟩

/-- Every moment is orderly. -/
theorem Reachable.orderly (h : Reachable messages m) : m.Orderly messages := by
  induction h with
  | refl => exact orderly_start messages
  | tail _ hstep ih => exact ih.step hstep

/-- What is read as responses are the first data frames of the peer, in order. -/
theorem Orderly.responses_prefix (hm : m.Orderly messages) :
    Traffic.responses m.log <+: m.frames := by
  obtain ⟨read, hput, hread⟩ := hm.read
  rw [frames, hput, List.filterMap_append, hread]
  exact List.prefix_append ..

/-- If nothing that is unread can end a wait, all the data frames of the peer are read. -/
theorem Orderly.responses_eq_frames (hm : m.Orderly messages)
    (h : ∀ a ∈ m.unread, a.result? = none) : Traffic.responses m.log = m.frames := by
  obtain ⟨read, hput, hread⟩ := hm.read
  have hquiet : m.unread.filterMap Arrival.payload? = [] := by
    rw [List.filterMap_eq_nil_iff]
    intro a ha
    rw [Arrival.payload?_eq_bind, h a ha]
    rfl
  rw [frames, hput, List.filterMap_append, hread, hquiet, List.append_nil]

/-! ## Earlier moments -/

/-- A step adds at most one event to the log, and none once the exchange is over. -/
theorem Step.log_cases (h : Step m m') :
    m'.log = m.log ∨ m.phase ≠ .over ∧ ∃ t, m'.log = m.log ++ [t] := by
  cases h with
  | put | pass | finish => exact .inl rfl
  | write | unsent | read | fail | expire => exact .inr ⟨by simp, _, rfl⟩

theorem Step.put_prefix (h : Step m m') : m.put <+: m'.put := by
  cases h with
  | put a => exact List.prefix_append ..
  | _ => exact List.prefix_refl _

/-- Each beginning of a log is the log of an earlier moment. -/
theorem Reachable.exists_log_eq (h : Reachable messages m) {log : List Traffic}
    (hl : log <+: m.log) :
    ∃ m', Reachable messages m' ∧ m'.log = log ∧ m'.put <+: m.put := by
  induction h with
  | refl =>
    obtain rfl := List.prefix_nil.mp hl
    exact ⟨_, .refl, rfl, List.prefix_refl _⟩
  | @tail m m' hm hstep ih =>
    rcases hstep.log_cases with he | ⟨-, t, he⟩
    · obtain ⟨m₀, h₀, hlog, hput⟩ := ih (he ▸ hl)
      exact ⟨m₀, h₀, hlog, hput.trans hstep.put_prefix⟩
    · rw [he, List.prefix_concat_iff] at hl
      rcases hl with rfl | hl
      · exact ⟨m', hm.tail hstep, he, List.prefix_refl _⟩
      · obtain ⟨m₀, h₀, hlog, hput⟩ := ih hl
        exact ⟨m₀, h₀, hlog, hput.trans hstep.put_prefix⟩

/-- Only the last event of a log can be a break. -/
theorem Reachable.not_isBreak (h : Reachable messages m) :
    ∀ t ∈ m.log.dropLast, ¬ t.IsBreak := by
  induction h with
  | refl => simp [start]
  | @tail m m' hm hstep ih =>
    rcases hstep.log_cases with he | ⟨ho, t, he⟩
    · rw [he]
      exact ih
    · rw [he, List.dropLast_concat]
      exact (Reachable.orderly hm).unbroken ho

/-! ## Exchanges run through moments -/

variable {phase : Phase} {left : List Payload} {put unread : List Arrival} {log : List Traffic}

/-- The peer puts several things on the wire. -/
theorem leads_put (as : List Arrival) :
    Leads ⟨phase, left, put, unread, log⟩ ⟨phase, left, put ++ as, unread ++ as, log⟩ := by
  induction as generalizing put unread with
  | nil =>
    rw [List.append_nil, List.append_nil]
  | cons a as ih =>
    have hmore := @ih (put ++ [a]) (unread ++ [a])
    rw [List.append_assoc, List.append_assoc] at hmore
    exact .head (.put a) hmore

/-- The client passes over several pings and pongs. -/
theorem leads_pass {passed : List Arrival} (h : ∀ a ∈ passed, a.result? = none) :
    Leads ⟨.waiting, left, put, passed ++ unread, log⟩ ⟨.waiting, left, put, unread, log⟩ := by
  induction passed with
  | nil => exact .refl
  | cons a passed ih =>
    obtain ⟨ha, hp⟩ := List.forall_mem_cons.mp h
    exact .head (.pass ha) (ih hp)

/-- A connection as an observer sees it. -/
def ofConnection (c : Connection) (phase : Phase) (left : List Payload) : Moment :=
  ⟨phase, left, c.peer.output c.sent, c.inbox, c.traffic⟩

end Moment

namespace Connection

open Moment

variable {c : Connection}

/-- Writing leads to waiting for a response, or to the end. -/
theorem send_leads (c : Connection) (q : Payload) (left : List Payload) :
    (ofConnection c .ready (q :: left)).Leads
      (match (c.send q).fault with
        | none => ofConnection (c.send q).connection .waiting left
        | some _ => ofConnection (c.send q).connection .over (q :: left)) := by
  obtain ⟨hpeer, ⟨cause, -, hf, ht, hin⟩ | ⟨-, hf, ht, hin⟩⟩ := c.send_cases q
  · have hs : (c.send q).connection.sent = c.sent := by simpa using sent_of_traffic_eq ht
    rw [hf]
    unfold ofConnection
    rw [hpeer, hs, hin, ht]
    exact .single (.unsent cause)
  · have hs : (c.send q).connection.sent = c.sent ++ [q] := by
      simpa using sent_of_traffic_eq ht
    rw [hf]
    unfold ofConnection
    rw [hpeer, hs, hin, ht, Peer.output_concat]
    exact .head .write (leads_put _)

/-- Waiting for a response leads to being ready for the next message, or to the end. -/
theorem receive_leads {limit : Option Span} {r : Response} (h : c.receive limit = .ok r)
    (left : List Payload) :
    (ofConnection c .waiting left).Leads
      (match r.result with
        | .ok _ => ofConnection r.connection .ready left
        | .error _ => ofConnection r.connection .over left) := by
  obtain ⟨hpeer, ht, hcases⟩ := receive_cases h
  unfold ofConnection
  rw [hpeer, sent_of_receive h, ht]
  rcases hcases with ⟨passed, a, hin, hpassed, ha⟩ | ⟨l, -, hl, hin⟩
  · rw [hin]
    refine (leads_pass hpassed).tail ?_
    cases hr : r.result with
    | ok p => exact .read (hr ▸ ha)
    | error cause => exact .fail (hr ▸ ha)
  · rw [hin, hl]
    exact .single (.expire l)

end Connection

namespace Session

open Moment

variable {limit : Option Span} {deadline : Option Deadline} {index : Nat} {steps : List Step}
  {c : Connection} {x : Exchange}

/-- Every exchange runs through moments to its end. -/
theorem exchange_leads (h : exchange limit deadline index steps c = .ok x) :
    ∃ left, (ofConnection c .ready (steps.map Step.payload)).Leads
      (ofConnection x.connection .over left) := by
  induction steps generalizing index c x with
  | nil =>
    cases h
    exact ⟨[], .single .finish⟩
  | cons step rest ih =>
    have hsend := c.send_leads step.payload (rest.map Step.payload)
    rcases exchange_cons_cases h with ⟨cause, hf, rfl⟩ | ⟨r, hf, hr, hx⟩
    · rw [hf] at hsend
      exact ⟨_, hsend⟩
    rw [hf] at hsend
    have hreceive := Connection.receive_leads hr (rest.map Step.payload)
    rcases hx with ⟨cause, he, rfl⟩ | ⟨p, later, hp, hl, rfl⟩
    · rw [he] at hreceive
      exact ⟨_, hsend.trans hreceive⟩
    · rw [hp] at hreceive
      obtain ⟨left, hlater⟩ := ih hl
      exact ⟨left, (hsend.trans hreceive).trans hlater⟩

/-- An exchange without end runs through moments to one at which it waits. All that the peer sends
to what was written is then on the wire, and nothing that is unread ends the wait. -/
theorem exchange_waits {halt : Halt} (h : exchange limit deadline index steps c = .error halt) :
    ∃ m, (ofConnection c .ready (steps.map Step.payload)).Leads m ∧ m.phase = .waiting ∧
      m.put = c.peer.output (Traffic.written m.log) ∧ ∀ a ∈ m.unread, a.result? = none := by
  induction steps generalizing index c with
  | nil => cases h
  | cons step rest ih =>
    have hsend := c.send_leads step.payload (rest.map Step.payload)
    obtain ⟨hpeer, -⟩ := c.send_cases step.payload
    obtain ⟨hf, h⟩ := exchange_cons_error h
    rw [hf] at hsend
    rcases h with hr | ⟨r, p, hr, hp, hl⟩
    · obtain ⟨-, -, hquiet⟩ := Connection.receive_error hr
      refine ⟨_, hsend, rfl, ?_, hquiet⟩
      rw [← hpeer]
      rfl
    · obtain ⟨hrpeer, -⟩ := Connection.receive_cases hr
      have hreceive := Connection.receive_leads hr (rest.map Step.payload)
      rw [hp] at hreceive
      obtain ⟨m, hlater, hphase, hput, hquiet⟩ := ih hl
      rw [hrpeer, hpeer] at hput
      exact ⟨m, (hsend.trans hreceive).trans hlater, hphase, hput, hquiet⟩

/-- A new connection is one to a peer that has sent its greeting. -/
theorem start_leads (peer : Peer) (now : Nat) (messages : List Payload) :
    (start messages).Leads (ofConnection (.start peer now) .ready messages) := by
  simpa [start, ofConnection, Connection.start, Connection.sent, Peer.output, Peer.reactions]
    using @leads_put .ready messages [] [] [] peer.greeting

/-- What passed in an exchange on a new connection is the log of a moment at which the exchange is
over and the peer has sent all that it sends to one that writes these data frames. -/
theorem exchange_reachable {scenario : Scenario} {peer : Peer} {now : Nat}
    (h : exchange limit deadline 0 scenario.steps (.start peer now) = .ok x) :
    ∃ m, Reachable scenario.payloads m ∧ m.phase = .over ∧ m.log = x.connection.traffic ∧
      m.frames = peer.frames (Traffic.written x.connection.traffic) := by
  obtain ⟨left, hx⟩ := exchange_leads h
  refine ⟨_, (start_leads peer now scenario.payloads).trans hx, rfl, rfl, ?_⟩
  rw [frames, ofConnection, exchange_peer h]
  rfl

/-- An exchange without end on a new connection comes to a moment at which it waits although all the
data frames that the peer sends to it are read. -/
theorem exchange_stalled {scenario : Scenario} {peer : Peer} {now : Nat} {halt : Halt}
    (h : exchange limit deadline 0 scenario.steps (.start peer now) = .error halt) :
    ∃ m, Reachable scenario.payloads m ∧ m.phase = .waiting ∧
      (∀ a ∈ m.unread, a.result? = none) ∧
      Traffic.responses m.log = peer.frames (Traffic.written m.log) := by
  obtain ⟨m, hm, hphase, hput, hquiet⟩ := exchange_waits h
  have hm : Reachable scenario.payloads m := (start_leads peer now scenario.payloads).trans hm
  refine ⟨m, hm, hphase, hquiet, ?_⟩
  rw [hm.orderly.responses_eq_frames hquiet, frames, hput]
  rfl

/-- All the data frames that the peer of an attempt sends, whether or not they are read. -/
def inbound (s : Session) (network : Network) (index now : Nat) (r : Record) : List Payload :=
  match s.peer? network index now with
  | none => []
  | some peer => peer.frames (Traffic.written r.traffic)

end Session

end Lockstep

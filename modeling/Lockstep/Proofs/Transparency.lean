import Lockstep.Interactive
import Lockstep.Proofs.Peer.Heartbeat
import Lockstep.Proofs.Session.Settled
import Lockstep.Server

/-!
# Heartbeats are transparent

What a client is left with does not depend on the pings and pongs that its peer sends, in an attempt
or in an interactive session, and what a server answers to data frames does not depend on those that
its client sends. The one thing that heartbeats can do is to take time that a limit does not allow.
-/

namespace Lockstep

/-! ## Networks -/

/-- The second answer is the first, from a peer that sends heartbeats besides. -/
inductive Answer.Interspersed (late : Set Nat) : Answer → Answer → Prop
  | silence : Interspersed late .silence .silence
  | failed (delay : Nat) (cause : SocketFault) :
      Interspersed late (.after delay (.error cause)) (.after delay (.error cause))
  | opened (delay : Nat) {p q : Peer} (h : p.Interspersed late q) :
      Interspersed late (.after delay (.ok p)) (.after delay (.ok q))

/-- The peers of the second network are those of the first, and send heartbeats besides. -/
def Network.Interspersed (late : Set Nat) (n n' : Network) : Prop :=
  ∀ index request, (n.answer index request).Interspersed late (n'.answer index request)

/-- The second of two openings is the first, with a peer that sends heartbeats besides. -/
inductive Network.Opening.Interspersed (late : Set Nat) : Opening → Opening → Prop
  | failed (cause : Fault) (now : Nat) (requested : Bool) :
      Interspersed late ⟨.error cause, now, requested⟩ ⟨.error cause, now, requested⟩
  | opened {c c' : Connection} (h : c.Interspersed late c') (now : Nat) (requested : Bool) :
      Interspersed late ⟨.ok c, now, requested⟩ ⟨.ok c', now, requested⟩

variable {late : Set Nat} {n n' : Network}

/-- Heartbeats make no difference to whether and when a connection is opened. -/
theorem Network.Interspersed.connect (h : n.Interspersed late n') (index : Nat) (uri : String)
    (limit : Option Span) (now : Nat) :
    Halt.Alike (Network.Opening.Interspersed late) (fun _ ↦ False)
      (n.connect index uri limit now) (n'.connect index uri limit now) := by
  unfold Network.connect
  cases Request.ofUri uri with
  | error e => exact .ok (.failed ..)
  | ok request =>
    have ha := h index request
    dsimp only
    generalize n.answer index request = a, n'.answer index request = a' at ha
    cases ha with
    | silence =>
      cases limit with
      | none => exact .error _
      | some l => exact .ok (.failed ..)
    | failed delay cause =>
      -- The answers are the same, so whatever the wait for one comes to, the other does.
      rcases hw : Wait.within limit (Answer.after delay (.error cause)).arrival? with
        ⟨t, cause | peer⟩ | l | _
      · exact .ok (.failed ..)
      · cases (Wait.within_eq_ready.mp hw).1
      · exact .ok (.failed ..)
      · exact .error _
    | opened delay hp =>
      rw [Answer.arrival?, Answer.arrival?]
      cases limit with
      | none => exact .ok (.opened (.start hp _) ..)
      | some l =>
        by_cases hle : delay ≤ l.nanoseconds
        · simp only [Wait.within, if_pos hle]
          exact .ok (.opened (.start hp _) ..)
        · simp only [Wait.within, if_neg hle]
          exact .ok (.failed ..)

/-! ## Attempts -/

/-- The outcome without the time of its response. -/
def Outcome.untimed (o : Outcome) : Outcome := { o with roundTrip := o.roundTrip.map fun _ ↦ .zero }

@[simp] theorem Outcome.isMatch_untimed (o : Outcome) : o.untimed.isMatch = o.isMatch := rfl

/-- The attempt without the times of its responses. -/
def Attempt.untimed (a : Attempt) : Attempt := { a with outcomes := a.outcomes.map Outcome.untimed }

@[simp] theorem Attempt.trail_untimed (a : Attempt) : a.untimed.trail = a.trail := rfl

@[simp] theorem Attempt.status_untimed (a : Attempt) : a.untimed.status = a.status := rfl

namespace Session

variable {s : Session} {limit : Option Span} {deadline : Option Deadline} {c c' : Connection}

/-- The second exchange is the first, with a peer that sends heartbeats besides. -/
structure Exchange.Interspersed (late : Set Nat) (x x' : Exchange) : Prop where
  outcomes : x'.outcomes.map Outcome.untimed = x.outcomes.map Outcome.untimed
  prompt : late ⊆ {0} → x'.outcomes = x.outcomes
  trail : x'.trail = x.trail
  fault : x'.fault = x.fault
  connection : x.connection.Interspersed late x'.connection

/-- Heartbeats make no difference to an exchange, unless a wait in it is given up since they are
late. -/
theorem exchange_interspersed (h : c.Interspersed late c') (index : Nat) (steps : List Step) :
    Halt.Alike (Exchange.Interspersed late)
      (fun x' ↦ ¬ late ⊆ {0} ∧ (limit ≠ none ∨ deadline ≠ none) ∧
        ∃ l, x'.fault = some (.responseTimeout l))
      (exchange limit deadline index steps c) (exchange limit deadline index steps c') := by
  induction steps generalizing index c c' with
  | nil => exact .ok ⟨rfl, fun _ ↦ rfl, rfl, rfl, h⟩
  | cons step rest ih =>
    obtain ⟨hfault, hsend⟩ := h.send step.payload
    rw [exchange, exchange, hfault]
    cases (c.send step.payload).fault with
    | some cause => exact .ok ⟨rfl, fun _ ↦ rfl, rfl, rfl, hsend⟩
    | none =>
      refine (hsend.receive (budget_tightened hsend.now limit deadline)).bind ?_ ?_
      · intro r r' hr
        rw [hr.result]
        cases r.result with
        | error cause => exact .ok ⟨rfl, fun _ ↦ rfl, rfl, rfl, hr.connection⟩
        | ok p =>
          refine (ih hr.connection (index + 1)).bind ?_ ?_
          · intro later later' hl
            refine .ok ⟨congrArg (_ :: ·) hl.outcomes, fun hlate ↦ ?_,
              congrArg (_ :: _ :: ·) hl.trail, hl.fault, hl.connection⟩
            rw [Exchange.answered, Exchange.answered, hr.took.eq hlate, hl.prompt hlate]
          · exact fun later' hl ↦ ⟨_, rfl, hl⟩
      · -- The wait was given up, so the exchange ends here and with this fault.
        rintro r' ⟨hlate, hlimit, l, hr⟩
        rw [hr]
        refine ⟨_, rfl, hlate, ?_, l, rfl⟩
        rw [Ne, budget_eq_none, not_and_or] at hlimit
        exact hlimit

/-- Attempts whose exchanges differ at most in the times of the responses differ at most in
those. -/
theorem untimed_closed {x x' : Exchange} (h : x.Interspersed late x') (s : Session)
    (scenario : Scenario) : (s.closed scenario x').untimed = (s.closed scenario x).untimed := by
  have hcount (os : List Outcome) :
      os.countP Outcome.isMatch = (os.map Outcome.untimed).countP Outcome.isMatch := by
    simp [List.countP_map, Function.comp_def]
  have hending : x'.ending scenario.length = x.ending scenario.length := by
    rw [Exchange.ending, Exchange.ending, h.fault, hcount x'.outcomes, hcount x.outcomes,
      h.outcomes]
  unfold closed
  rw [h.trail, h.fault, hending]
  exact congrArg (fun os ↦ { s.closed scenario x with outcomes := os }) h.outcomes

/-- The second record is the first, of an attempt with a peer that sends heartbeats besides. -/
structure Record.Interspersed (late : Set Nat) (r r' : Record) : Prop where
  /-- Outcomes but for times, trail, state, fault and so status are the same. -/
  attempt : r'.attempt.untimed = r.attempt.untimed
  traffic : r'.traffic = r.traffic
  requested : r'.requested = r.requested
  prompt : late ⊆ {0} → r' = r

/-- The attempt has a limit on its responses, of their own or on the whole. -/
def Limited (s : Session) : Prop := s.timeouts.response ≠ none ∨ s.attemptTimeout ≠ none

/-- Heartbeats make no difference to an attempt, unless a wait in it is given up since they are
late. -/
theorem conduct_interspersed (h : n.Interspersed late n') (s : Session) (scenario : Scenario)
    (index now : Nat) :
    Halt.Alike (Record.Interspersed late)
      (fun r' ↦ ¬ late ⊆ {0} ∧ s.Limited ∧ ∃ l, r'.attempt.fault = some (.responseTimeout l))
      (s.conduct scenario n index now) (s.conduct scenario n' index now) := by
  unfold conduct
  cases hd : s.deadline now with
  | error halt => exact .error halt
  | ok deadline =>
    refine (h.connect index s.endpoint.uri _ now).bind ?_ nofun
    intro o o' ho
    cases ho with
    | failed cause t requested => exact .ok ⟨rfl, rfl, rfl, fun _ ↦ rfl⟩
    | opened hc t requested =>
      refine (exchange_interspersed hc 0 scenario.steps).bind ?_ ?_
      · intro x x' hx
        refine .ok ⟨untimed_closed hx s scenario, hx.connection.traffic, rfl, fun hlate ↦ ?_⟩
        have hclosed : s.closed scenario x' = s.closed scenario x := by
          unfold closed Exchange.ending
          rw [hx.prompt hlate, hx.trail, hx.fault]
        rw [hclosed, hx.connection.traffic, hx.connection.now.eq hlate]
      · rintro x' ⟨hlate, hlimit, hfault⟩
        refine ⟨_, rfl, hlate, hlimit.imp_right fun hne htimeout ↦ hne ?_, hfault⟩
        rw [Session.deadline, htimeout] at hd
        cases hd
        rfl

end Session

/-! ## Interactive sessions -/

namespace Interactive

variable {limit : Option Span} {c c' : Connection}

/-- The second talk is the first, with a peer that sends heartbeats besides. -/
structure Talk.Interspersed (late : Set Nat) (t t' : Talk) : Prop where
  printed : t'.printed = t.printed
  result : t'.result = t.result
  connection : t.connection.Interspersed late t'.connection

/-- Heartbeats make no difference to a talk, unless a wait in it is given up since they are late. -/
theorem talk_interspersed (h : c.Interspersed late c') (count : Nat) (lines : List (List UInt8)) :
    Halt.Alike (Talk.Interspersed late)
      (fun t' ↦ ¬ late ⊆ {0} ∧ limit ≠ none ∧ ∃ l, t'.result = .error (.responseTimeout l))
      (talk limit count lines c) (talk limit count lines c') := by
  induction lines generalizing count c c' with
  | nil => exact .ok ⟨rfl, rfl, h⟩
  | cons line rest ih =>
    rw [talk, talk]
    cases Utf8.decode line with
    | error e => exact .ok ⟨rfl, rfl, h⟩
    | ok s =>
      dsimp only
      split
      · exact .ok ⟨rfl, rfl, h⟩
      · obtain ⟨hfault, hsend⟩ := h.send (.text (String.ofList (Blank.trim s)))
        rw [hfault]
        cases (c.send (.text (String.ofList (Blank.trim s)))).fault with
        | some cause => exact .ok ⟨rfl, rfl, hsend⟩
        | none =>
          refine (hsend.receive (.refl late limit)).bind ?_ ?_
          · intro r r' hr
            rw [hr.result]
            cases r.result with
            | error cause => exact .ok ⟨rfl, rfl, hr.connection⟩
            | ok p =>
              refine (ih hr.connection (count + 1)).bind ?_ ?_
              · intro later later' hl
                exact .ok ⟨congrArg (prompt ++ responseLine p ++ ·) hl.printed, hl.result,
                  hl.connection⟩
              · exact fun later' hl ↦ ⟨_, rfl, hl⟩
          · rintro r' ⟨hlate, hlimit, l, hr⟩
            rw [hr]
            exact ⟨_, rfl, hlate, hlimit, l, rfl⟩

/-- Heartbeats make no difference to an interactive session, unless a wait in it is given up since
they are late. -/
theorem run_interspersed (h : n.Interspersed late n') (s : Interactive) (input : List UInt8)
    (now : Nat) :
    Halt.Alike (· = ·)
      (fun t' ↦ ¬ late ⊆ {0} ∧ s.timeouts.response ≠ none ∧
        ∃ l, t'.result = .error (.responseTimeout l))
      (s.run input n now) (s.run input n' now) := by
  unfold run
  refine (h.connect 0 s.endpoint.uri _ now).bind ?_ nofun
  intro o o' ho
  cases ho with
  | failed cause t requested => exact .ok rfl
  | opened hc t requested =>
    refine (talk_interspersed hc 0 (lines input)).bind ?_ ?_
    · intro t t' ht
      refine .ok ?_
      rw [ht.printed, ht.result, ht.connection.traffic]
    · exact fun t' ht ↦ ⟨_, rfl, ht⟩

end Interactive

/-! ## Servers -/

/-- The data frames that a server sends do not depend on the heartbeats that it receives. -/
theorem Server.payloads_replies (t : Transform) (messages : List Message) :
    (replies t (messages.filter (! ·.isHeartbeat))).filterMap Message.payload? =
      (replies t messages).filterMap Message.payload? := by
  induction messages with
  | nil => rfl
  | cons m rest ih =>
    cases m with
    | data p => exact congrArg (t.apply p :: ·) ih
    | ping b => exact ih
    | pong b => exact ih
    | close r => rfl

/-! ## Transparency -/

/-- Heartbeats are transparent. Take two networks, of which the second is the first with pings and
pongs among what its peers send. If these take no time of their own, each attempt and each
interactive session comes to the same with both, times and all. If they take any, it comes to the
same but for times, or a wait for a response that has a limit is given up behind them. Of the
messages that a server receives, pings and pongs make no difference to the data frames with which it
answers. -/
theorem heartbeats_transparent (h : n.Interspersed late n') :
    (late ⊆ {0} →
      (∀ (s : Session) (scenario : Scenario) (index now : Nat),
        s.conduct scenario n index now = s.conduct scenario n' index now) ∧
      ∀ (s : Interactive) (input : List UInt8) (now : Nat),
        s.run input n now = s.run input n' now) ∧
    (∀ (s : Session) (scenario : Scenario) (index now : Nat),
      Halt.Alike (Session.Record.Interspersed late)
        (fun r' ↦ ¬ late ⊆ {0} ∧ s.Limited ∧ ∃ l, r'.attempt.fault = some (.responseTimeout l))
        (s.conduct scenario n index now) (s.conduct scenario n' index now)) ∧
    (∀ (s : Interactive) (input : List UInt8) (now : Nat),
      Halt.Alike (· = ·)
        (fun t' ↦ ¬ late ⊆ {0} ∧ s.timeouts.response ≠ none ∧
          ∃ l, t'.result = .error (.responseTimeout l))
        (s.run input n now) (s.run input n' now)) ∧
    ∀ (t : Transform) (messages messages' : List Message),
      messages.filter (! ·.isHeartbeat) = messages'.filter (! ·.isHeartbeat) →
        (Server.replies t messages).filterMap Message.payload? =
          (Server.replies t messages').filterMap Message.payload? := by
  refine ⟨fun hlate ↦ ⟨?_, ?_⟩, ?_, ?_, ?_⟩
  · intro s scenario index now
    have hrun := Session.conduct_interspersed h s scenario index now
    generalize s.conduct scenario n index now = x, s.conduct scenario n' index now = y at hrun
    cases hrun with
    | ok hr => rw [hr.prompt hlate]
    | error halt => rfl
    | excused he => exact absurd hlate he.1
  · intro s input now
    exact (Interactive.run_interspersed h s input now).eq fun _ he ↦ he.1 hlate
  · exact Session.conduct_interspersed h
  · exact Interactive.run_interspersed h
  · intro t messages messages' hm
    rw [← Server.payloads_replies, hm, Server.payloads_replies]

/-- The peer with a ping before all that it sends and a pong after it. The pong comes `delay`
nanoseconds later. -/
def Peer.restless (delay : Nat) (p : Peer) : Peer where
  greeting := .immediate (.message (.ping [])) :: p.greeting ++ [⟨delay, .message (.pong [])⟩]
  reaction received :=
    .immediate (.message (.ping [])) :: p.reaction received ++ [⟨delay, .message (.pong [])⟩]
  writeFault := p.writeFault

theorem Peer.interspersed_restless (delay : Nat) (p : Peer) :
    p.Interspersed {0, delay} (p.restless delay) := by
  have hall (as : List Arrival) : Arrival.Interspersed {0, delay} as
      (.immediate (.message (.ping [])) :: as ++ [⟨delay, .message (.pong [])⟩]) := by
    have hpong : Arrival.Interspersed {0, delay} [] [⟨delay, .message (.pong [])⟩] :=
      .insert rfl (.inr rfl) .nil
    have happend := (Arrival.Interspersed.refl {0, delay} as).append hpong
    rw [List.append_nil] at happend
    exact .insert rfl (.inl rfl) happend
  exact ⟨hall _, fun _ ↦ hall _, rfl⟩

/-- A peer that echoes, and the same with heartbeats: the echo scenario and one typed line. -/
theorem heartbeats_transparent_echo :
    let quiet := Network.ofAnswers [.opened (.replying .identity)]
    let restless := Network.ofAnswers [.opened ((Peer.replying .identity).restless 0)]
    let typed : Interactive := ⟨Session.nearby.endpoint, .standard⟩
    let frames : List Message := [.data (.text "a"), .data (.text "b")]
    let mixed : List Message := [.data (.text "a"), .ping [], .data (.text "b"), .pong [1]]
    quiet.Interspersed {0, 0} restless ∧ ({0, 0} : Set Nat) ⊆ {0} ∧
      (∃ r, Session.nearby.conduct (.echo .identity) restless 0 0 = .ok r ∧
        Session.nearby.conduct (.echo .identity) quiet 0 0 = .ok r ∧ r.attempt.sentCount = 5) ∧
      (∃ t, typed.run [0x68, 0x0A] restless 0 = .ok t ∧ typed.run [0x68, 0x0A] quiet 0 = .ok t ∧
        t.result = .ok 1) ∧
      frames.filter (! ·.isHeartbeat) = mixed.filter (! ·.isHeartbeat) ∧
      (Server.replies .identity frames).filterMap Message.payload? =
        (Server.replies .identity mixed).filterMap Message.payload? := by
  intro quiet restless typed frames mixed
  have hlate : ({0, 0} : Set Nat) ⊆ {0} := by simp
  have h : quiet.Interspersed {0, 0} restless := by
    intro index request
    cases index with
    | zero => exact .opened 0 (Peer.interspersed_restless 0 _)
    | succ index => exact .opened 0 (Peer.interspersed_restless 0 _)
  obtain ⟨hprompt, -, -, hreplies⟩ := heartbeats_transparent h
  obtain ⟨hconduct, hrun⟩ := hprompt hlate
  have hattempt : ∃ r, Session.nearby.conduct (.echo .identity)
      (.ofAnswers [.opened (.replying .identity)]) 0 0 = .ok r ∧ r.attempt.sentCount = 5 :=
    ⟨_, rfl, by rfl⟩
  have htyped : ∃ t, (Interactive.mk Session.nearby.endpoint .standard).run [0x68, 0x0A]
      (.ofAnswers [.opened (.replying .identity)]) 0 = .ok t ∧ t.result = .ok 1 :=
    ⟨_, rfl, by rfl⟩
  obtain ⟨r, hr, hsent⟩ := hattempt
  obtain ⟨t, ht, hresult⟩ := htyped
  exact ⟨h, hlate, ⟨r, (hconduct ..).symm.trans hr, hr, hsent⟩,
    ⟨t, (hrun ..).symm.trans ht, ht, hresult⟩, rfl, hreplies .identity frames mixed rfl⟩

/-- A response for which nothing but a late pong is in the way is given up. -/
example : Attempt.fault <$> Session.nearby.run (.echo .identity) (.ofAnswers [.opened
    ((Peer.replying .identity).restless 10000000001)]) 0 0 =
      .ok (some (.responseTimeout (Span.ofMilliseconds 10000))) := by
  rfl

end Lockstep

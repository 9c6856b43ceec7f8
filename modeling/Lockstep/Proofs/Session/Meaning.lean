import Lockstep.Proofs.Session.Success

/-!
# What the status of an attempt means

An attempt has succeeded exactly if it is closed with success, and that is so exactly if it has no
fault and each message has the response that was looked for. It is refused exactly if nothing
listens where its request goes; the one thing to be assumed for this is that no fault on an open
connection says so of a connection that is open. The counts of messages that were sent, that have a
response and that have the right one agree with each other whatever the status is.
-/

namespace Lockstep

/-! ## Requests that are refused -/

/-- Nothing listens where request `index`, for `uri`, goes, and the answer that says so comes before
the wait for it is given up. -/
def Network.Refuses (n : Network) (index : Nat) (uri : String) (limit : Option Span) : Prop :=
  ∃ request delay cause, Request.ofUri uri = .ok request ∧
    n.answer index request = .after delay (.error (.io cause)) ∧
    cause.kind = .connectionRefused ∧ ∀ l, limit = some l → delay ≤ l.nanoseconds

theorem Fault.isRefused_socket {cause : SocketFault} :
    (Fault.socket cause).isRefused = true ↔ ∃ e, cause = .io e ∧ e.kind = .connectionRefused := by
  cases cause <;> simp [Fault.isRefused]

namespace Network

variable {n : Network} {index now : Nat} {uri : String} {limit : Option Span}

/-- A request that is refused ends with the fault that names its URI. -/
theorem Refuses.connect (h : n.Refuses index uri limit) (now : Nat) :
    ∃ t, n.connect index uri limit now = .ok ⟨.error (.refused uri), t, true⟩ := by
  obtain ⟨request, delay, cause, hr, ha, hk, hl⟩ := h
  have hwait : Wait.within limit (n.answer index request).arrival? =
      .ready delay (.error (.io cause)) := by
    rw [ha]
    exact Wait.within_eq_ready.mpr ⟨rfl, hl⟩
  have hfault : openFault uri (.io cause) = .refused uri :=
    if_pos (Fault.isRefused_socket.mpr ⟨cause, rfl, hk⟩)
  refine ⟨now + delay, ?_⟩
  rw [Network.connect, hr]
  dsimp only
  rw [hwait]
  dsimp only
  rw [hfault]

/-- The fault says that the request is refused only if it is. -/
theorem refuses_of_connect {o : Opening} {cause : Fault}
    (ho : n.connect index uri limit now = .ok o) (hc : o.result = .error cause)
    (hr : cause.isRefused = true) :
    n.Refuses index uri limit ∧ cause = .refused uri := by
  unfold Network.connect at ho
  split at ho
  · cases ho
    cases hc
    cases hr
  · rename_i request hrequest
    split at ho
    · cases ho
      cases hc
    · rename_i t e hwait
      cases ho
      cases hc
      obtain ⟨harrival, hl⟩ := Wait.within_eq_ready.mp hwait
      unfold openFault at hr ⊢
      split at hr
      · rename_i he
        obtain ⟨io, rfl, hk⟩ := Fault.isRefused_socket.mp he
        refine ⟨⟨request, t, io, hrequest, ?_, hk, hl⟩, if_pos he⟩
        cases ha : n.answer index request with
        | silence => rw [ha] at harrival; cases harrival
        | after delay result => rw [ha] at harrival; cases harrival; rfl
      · rename_i he
        exact absurd hr he
    · cases ho
      cases hc
      cases hr
    · cases ho

end Network

/-! ## Open connections -/

/-- What the client meets says that nothing listens. -/
def Event.isRefusal : Event → Bool
  | .message _ => false
  | .fault cause => (Fault.socket cause).isRefused

/-- No fault on an open connection to the peer says that nothing listens. -/
structure Peer.NeverRefuses (p : Peer) : Prop where
  write : ∀ received cause, p.writeFault received = some cause →
    (Fault.socket cause).isRefused = false
  greeting : ∀ a ∈ p.greeting, a.event.isRefusal = false
  reaction : ∀ received, ∀ a ∈ p.reaction received, a.event.isRefusal = false

theorem Peer.replying_neverRefuses (t : Transform) : (replying t).NeverRefuses where
  write received cause h := by cases h
  greeting a ha := by cases ha
  reaction received a ha := by
    obtain ⟨p, -, rfl⟩ := Option.map_eq_some_iff.mp (Option.mem_toList.mp ha)
    rfl

theorem Arrival.isRefused_of_result? {a : Arrival} {cause : Fault}
    (ha : a.event.isRefusal = false) (h : a.result? = some (.error cause)) :
    cause.isRefused = false := by
  obtain ⟨delay, (p | b | b | r) | e⟩ := a <;> cases h
  · rfl
  · cases e with
    | closed | alreadyClosed => rfl
    | _ => exact ha

namespace Session

variable {limit : Option Span} {deadline : Option Deadline} {index : Nat} {steps : List Step}
  {c : Connection} {x : Exchange} {traffic : List Traffic}

/-- An exchange with a peer that never refuses does not end with a fault that says so. -/
theorem exchange_not_refused (hp : c.peer.NeverRefuses)
    (hin : ∀ a ∈ c.inbox, a.event.isRefusal = false)
    (h : exchange limit deadline index steps c = .ok x) {cause : Fault}
    (hf : x.fault = some cause) : cause.isRefused = false := by
  -- What holds of all that the peer puts on the wire holds of what is left in the inbox.
  induction steps generalizing index c x with
  | nil =>
    cases h
    cases hf
  | cons step rest ih =>
    obtain ⟨hpeer, hs⟩ := c.send_cases step.payload
    rcases exchange_cons_cases h with ⟨e, he, rfl⟩ | ⟨r, hn, hr, hx⟩
    · rcases hs with ⟨e', hw, he', -⟩ | ⟨-, hn, -⟩
      · obtain rfl : e' = e := Option.some.inj (he'.symm.trans he)
        cases hf
        exact hp.write _ _ hw
      · rw [he] at hn; cases hn
    rcases hs with ⟨e, -, he, -⟩ | ⟨-, -, -, hinbox⟩
    · rw [hn] at he; cases he
    have hin : ∀ a ∈ (c.send step.payload).connection.inbox, a.event.isRefusal = false := by
      rw [hinbox]
      exact List.forall_mem_append.mpr ⟨hin, hp.reaction _⟩
    obtain ⟨hrpeer, -, hread⟩ := Connection.receive_cases hr
    rcases hx with ⟨e, he, rfl⟩ | ⟨p, later, -, hl, rfl⟩
    · cases hf
      rw [he] at hread
      rcases hread with ⟨passed, a, hall, -, ha⟩ | ⟨l, -, hl, -⟩
      · refine Arrival.isRefused_of_result? (hin a ?_) ha
        rw [hall]
        exact List.mem_append_right _ List.mem_cons_self
      · cases hl
        rfl
    · refine ih ?_ ?_ hl hf
      · rw [hrpeer, hpeer]
        exact hp
      · rcases hread with ⟨passed, a, hall, -⟩ | ⟨l, -, -, hall⟩
        · intro b hb
          refine hin b ?_
          rw [hall]
          exact List.mem_append_right _ (List.mem_cons_of_mem _ hb)
        · rw [hall]
          exact hin

/-- Each message that was sent has its response, but for the last at most. -/
theorem Recorded.inStep (h : Recorded index steps traffic x) : Traffic.InStep traffic := by
  induction h with
  | done => exact ⟨Nat.le_refl _, Nat.zero_le _⟩
  | unwritten cause => exact ⟨Nat.le_refl _, Nat.zero_le _⟩
  | unheard cause => exact ⟨Nat.zero_le _, Nat.le_refl _⟩
  | answered _ ih =>
    unfold Traffic.InStep at ih ⊢
    simpa using ih

end Session

/-! ## The status -/

namespace Verdict

theorem isMatch_eq_true {v : Verdict} : v.isMatch = true ↔ v = .matched := by
  cases v <;> simp

end Verdict

namespace Attempt

variable {a : Attempt}

theorem status_eq_succeeded :
    a.status = .succeeded ↔ a.fault = none ∧ a.state = .closed .success := by
  unfold status
  grind

theorem status_eq_refused :
    a.status = .refused ↔ ∃ cause, a.fault = some cause ∧ cause.isRefused = true := by
  unfold status
  grind

/-- No message lacks the response that was looked for. -/
theorem failures_eq_nil : a.failures = [] ↔ ∀ o ∈ a.outcomes, o.verdict = .matched := by
  rw [failures, List.filter_eq_nil_iff]
  simp [Outcome.isMatch, Verdict.isMatch_eq_true]

/-- All messages have the response that was looked for. -/
theorem matchedCount_eq_length :
    a.matchedCount = a.outcomes.length ↔ ∀ o ∈ a.outcomes, o.verdict = .matched := by
  rw [matchedCount, List.countP_eq_length]
  simp [Outcome.isMatch, Verdict.isMatch_eq_true]

/-- The status of an attempt at `length` messages for `uri` means what it says; `refused` is that
nothing listens there. -/
structure Conclusive (a : Attempt) (uri : String) (length : Nat) (refused : Prop) : Prop where
  length_eq : a.outcomes.length = length
  succeeded_iff : a.status = .succeeded ↔ a.state = .closed .success
  success_iff : a.state = .closed .success ↔
    a.fault = none ∧ ∀ o ∈ a.outcomes, o.verdict = .matched
  failures_iff : 0 < length → (a.status = .succeeded ↔ a.failures = [])
  matched_iff : 0 < length → (a.status = .succeeded ↔ a.matchedCount = length)
  refused_iff : a.status = .refused ↔ refused
  of_refused : a.status = .refused → a.fault = some (.refused uri) ∧
    a.trail = [.idle, .connecting, .connectFailed] ∧ a.sentCount = 0
  matched_le : a.matchedCount ≤ a.answeredCount
  answered_le : a.answeredCount ≤ a.sentCount
  sent_le : a.sentCount ≤ a.answeredCount + 1
  answered_le_length : a.answeredCount ≤ length

end Attempt

namespace Session

variable {s : Session} {scenario : Scenario} {network : Network} {index now : Nat}
  {deadline : Option Deadline} {x : Exchange} {traffic : List Traffic}

/-- Nothing listens where the request of an attempt goes, and the answer that says so comes in
time. -/
def Refused (s : Session) (network : Network) (index now : Nat) : Prop :=
  ∃ deadline, s.deadline now = .ok deadline ∧
    network.Refuses index s.endpoint.uri (budget s.timeouts.connect deadline now)

theorem refused_iff (hd : s.deadline now = .ok deadline) :
    s.Refused network index now ↔
      network.Refuses index s.endpoint.uri (budget s.timeouts.connect deadline now) := by
  constructor
  · rintro ⟨d, hd', h⟩
    cases hd.symm.trans hd'
    exact h
  · exact fun h ↦ ⟨deadline, hd, h⟩

/-- An attempt without a connection has failed, and is refused exactly if its request is. -/
theorem conclusive_unopened {o : Network.Opening} {cause : Fault}
    (hd : s.deadline now = .ok deadline) (ho : s.opening network index now deadline = .ok o)
    (hc : o.result = .error cause) :
    (s.unopened scenario cause).Conclusive s.endpoint.uri scenario.length
      (s.Refused network index now) := by
  have hlength : (s.unopened scenario cause).outcomes.length = scenario.length := by
    have hi := congrArg List.length (indices_abandoned cause 0 scenario.steps)
    rwa [List.length_map, List.length_range'] at hi
  have hsent := sentCount_unopened s scenario cause
  have hanswered := answeredCount_unopened s scenario cause
  have hmatched := matchedCount_unopened s scenario cause
  have hstatus : (s.unopened scenario cause).status ≠ .succeeded := by
    rw [Ne, Attempt.status_eq_succeeded]
    exact nofun
  have hrefused : (s.unopened scenario cause).status = .refused ↔ cause.isRefused = true := by
    rw [Attempt.status_eq_refused, fault_unopened]
    simp
  constructor
  · exact hlength
  · exact iff_of_false hstatus nofun
  · exact iff_of_false nofun nofun
  · intro hpos
    refine iff_of_false hstatus fun hall ↦ ?_
    rw [Attempt.failures_eq_nil, ← Attempt.matchedCount_eq_length] at hall
    omega
  · intro hpos
    exact iff_of_false hstatus (by omega)
  · rw [hrefused, refused_iff hd]
    constructor
    · exact fun hr ↦ (Network.refuses_of_connect ho hc hr).1
    · intro h
      obtain ⟨t, ht⟩ := h.connect now
      cases ho.symm.trans ht
      cases hc
      rfl
  · intro hr
    obtain ⟨-, rfl⟩ := Network.refuses_of_connect ho hc (hrefused.mp hr)
    exact ⟨rfl, rfl, hsent⟩
  · omega
  · omega
  · omega
  · omega

/-- An attempt with a connection is not refused, and has succeeded exactly if its exchange is
unbroken and each message has the response that was looked for. -/
theorem conclusive_closed {uri : String} {refused : Prop}
    (h : Recorded 0 scenario.steps traffic x)
    (hfault : ∀ cause, x.fault = some cause → cause.isRefused = false) (hrefused : ¬ refused) :
    (s.closed scenario x).Conclusive uri scenario.length refused := by
  have hlength : (s.closed scenario x).outcomes.length = scenario.length := h.length_outcomes
  have hcoherent : (s.closed scenario x).Coherent scenario.length := coherent_closed h
  have hsucceeded : (s.closed scenario x).status = .succeeded ↔
      (s.closed scenario x).matchedCount = scenario.length := by
    rw [← hcoherent.succeeded_iff, Attempt.succeeded, decide_eq_true_iff]
  have hsuccess : (s.closed scenario x).state = .closed .success ↔
      x.fault = none ∧ (s.closed scenario x).matchedCount = scenario.length := by
    change State.closed (x.ending scenario.length) = .closed .success ↔ _
    rw [State.closed.injEq]
    exact ending_eq_success
  have hstatus : (s.closed scenario x).status ≠ .refused := by
    rw [Ne, Attempt.status_eq_refused]
    rintro ⟨cause, hc, hr⟩
    rw [hfault cause hc] at hr
    cases hr
  have hsent : (s.closed scenario x).sentCount = (Traffic.written traffic).length := h.countP_sent
  have hanswered : (s.closed scenario x).answeredCount = (Traffic.responses traffic).length :=
    h.countP_isAnswered
  constructor
  · exact hlength
  · rw [Attempt.status_eq_succeeded, hsuccess]
    exact ⟨And.right, fun h ↦ ⟨h.1, h⟩⟩
  · rw [hsuccess, ← hlength, Attempt.matchedCount_eq_length]
    rfl
  · intro _
    rw [hsucceeded, ← hlength, Attempt.matchedCount_eq_length, Attempt.failures_eq_nil]
  · exact fun _ ↦ hsucceeded
  · exact iff_of_false hstatus hrefused
  · exact fun hr ↦ absurd hr hstatus
  · exact List.countP_mono_left fun _ ho hm ↦ (h.answered_of_isMatch ho hm).roundTrip
  · rw [hsent, hanswered]
    exact h.inStep.1
  · rw [hsent, hanswered]
    exact h.inStep.2
  · rw [← hlength]
    exact List.countP_le_length

/-- The status of an attempt means what it says, whatever the network does, if only no fault on an
open connection says that nothing listens. -/
theorem status_conclusive (s : Session) (scenario : Scenario) (network : Network) (index now : Nat)
    (hpeer : ∀ peer, s.peer? network index now = some peer → peer.NeverRefuses) :
    s.Settles scenario network index now fun r ↦
      r.attempt.Conclusive s.endpoint.uri scenario.length (s.Refused network index now) := by
  refine settles_of_opening ?_ ?_
  · intro deadline o cause hd ho hc
    exact conclusive_unopened hd ho hc
  · intro deadline o peer start x hd ho hc hx
    have hp := peer?_of_opening hd ho
    rw [hc] at hp
    have hnever := hpeer peer hp
    refine conclusive_closed (recorded_of_start hx) ?_ ?_
    · exact fun cause hf ↦ exchange_not_refused hnever hnever.greeting hx hf
    · rw [refused_iff hd]
      intro h
      obtain ⟨t, ht⟩ := h.connect now
      cases ho.symm.trans ht
      cases hc

/-- An attempt at the echo scenario with a peer that echoes. -/
theorem status_conclusive_echo :
    let network := Network.ofAnswers [.opened (.replying .identity)]
    (∀ peer, nearby.peer? network 0 0 = some peer → peer.NeverRefuses) ∧
      ∃ r, nearby.conduct (.echo .identity) network 0 0 = .ok r ∧ r.attempt.sentCount = 5 ∧
        r.attempt.Conclusive nearby.endpoint.uri 5 (nearby.Refused network 0 0) := by
  intro network
  have hpeer : ∀ peer, nearby.peer? network 0 0 = some peer → peer.NeverRefuses := by
    intro peer hp
    cases (peer?_nearby (.replying .identity)).symm.trans hp
    exact Peer.replying_neverRefuses _
  have hrun : ∃ r, nearby.conduct (.echo .identity) (.ofAnswers [.opened (.replying .identity)]) 0 0
      = .ok r ∧ r.attempt.sentCount = 5 := ⟨_, rfl, by rfl⟩
  obtain ⟨r, hr, hsent⟩ := hrun
  exact ⟨hpeer, r, hr, hsent, (status_conclusive nearby _ network 0 0 hpeer).of_conduct hr⟩

/-- If a read on an open connection fails as if nothing listened, the attempt counts as refused. -/
example : Attempt.status <$> nearby.run (.echo .identity) (.ofAnswers [.opened
    { Peer.silent with greeting := [.immediate (.fault (.io .refused))] }]) 0 0 = .ok .refused := by
  rfl

end Session

end Lockstep

import Lockstep.Proofs.Session.Meaning

/-!
# What is read off a record

Whoever conducts a session reads two things off its record: whether the attempt succeeded, and
whether its connection was refused. It succeeded exactly if the attempt is clean. It was refused
only if nothing listens where the request goes, unless a fault on an open connection says so, and
then the fault names the endpoint and nothing was sent.
-/

namespace Lockstep

/-! ## Attempts -/

namespace Attempt

/-- Nothing broke, and each message has the response that was looked for. -/
structure Clean (a : Attempt) : Prop where
  fault : a.fault = none
  matched : ∀ o ∈ a.outcomes, o.verdict = .matched

/-- The attempt is that of session `id` at the scenario, with the endpoint. -/
structure Concerns (a : Attempt) (id : Nat) (endpoint : Endpoint) (scenario : Scenario) : Prop where
  id_eq : a.id = id
  uri_eq : a.uri = endpoint.uri
  scenario_eq : a.scenario = scenario.name
  length_eq : a.outcomes.length = scenario.length

end Attempt

/-! ## Networks -/

/-- No fault on an open connection says that nothing listens. -/
def Network.NeverRefuses (n : Network) : Prop :=
  ∀ index request delay peer, n.answer index request = .after delay (.ok peer) → peer.NeverRefuses

theorem Network.ofAnswers_neverRefuses {answers : List Answer}
    (h : ∀ delay peer, .after delay (.ok peer) ∈ answers → peer.NeverRefuses) :
    (ofAnswers answers).NeverRefuses := by
  intro index request delay peer hp
  refine h delay peer ?_
  change (answers[index]? <|> answers.getLast?).getD _ = _ at hp
  cases hi : answers[index]? with
  | some a =>
    rw [hi] at hp
    obtain rfl : a = .after delay (.ok peer) := hp
    exact List.mem_of_getElem? hi
  | none =>
    rw [hi] at hp
    cases hlast : answers.getLast? with
    | some a =>
      rw [hlast] at hp
      obtain rfl : a = .after delay (.ok peer) := hp
      exact List.mem_of_getLast? hlast
    | none =>
      rw [hlast] at hp
      cases hp

namespace Session

variable {s : Session} {scenario : Scenario} {network : Network} {index now : Nat} {x : Exchange}

/-! ## Success -/

@[simp] theorem uri_closed : (s.closed scenario x).uri = s.endpoint.uri :=
  Attempt.foldl_transition_of_const Attempt.uri (fun _ _ ↦ rfl) ..

@[simp] theorem scenario_closed : (s.closed scenario x).scenario = scenario.name :=
  Attempt.foldl_transition_of_const Attempt.scenario (fun _ _ ↦ rfl) ..

/-- The record of an attempt is on the session and its scenario. -/
theorem record_concerns (s : Session) (scenario : Scenario) (network : Network) (index now : Nat) :
    s.Settles scenario network index now fun r ↦
      r.attempt.Concerns s.id s.endpoint scenario := by
  refine settles_of ?_ ?_
  · intro hp cause t q
    refine ⟨rfl, rfl, rfl, ?_⟩
    have hi := congrArg List.length (indices_abandoned cause 0 scenario.steps)
    rwa [List.length_map, List.length_range'] at hi
  · intro peer hp deadline start x q hx
    exact ⟨id_closed .., uri_closed, scenario_closed, (recorded_of_start hx).length_outcomes⟩

/-- An attempt succeeds exactly if it is clean. -/
theorem record_succeeded_iff (s : Session) (scenario : Scenario) (network : Network)
    (index now : Nat) :
    s.Settles scenario network index now fun r ↦
      r.attempt.succeeded = true ↔ r.attempt.Clean := by
  refine settles_of ?_ ?_
  · intro hp cause t q
    refine iff_of_false ?_ fun h ↦ nomatch h.fault
    rw [Attempt.succeeded, decide_eq_true_iff, Attempt.status_eq_succeeded]
    exact fun h ↦ nomatch h.1
  · intro peer hp deadline start x q hx
    have hlength : (s.closed scenario x).outcomes.length = scenario.length :=
      (recorded_of_start hx).length_outcomes
    have hmatched : x.outcomes.countP Outcome.isMatch = scenario.length ↔
        ∀ o ∈ (s.closed scenario x).outcomes, o.verdict = .matched := by
      rw [← Attempt.matchedCount_eq_length, hlength]
      rfl
    rw [succeeded_closed, hmatched]
    exact ⟨fun h ↦ ⟨h.1, h.2⟩, fun h ↦ ⟨h.fault, h.matched⟩⟩

/-! ## Refusal -/

/-- An attempt whose request is refused is over at once, and its fault names the endpoint. -/
theorem conduct_of_refused (h : s.Refused network index now) :
    ∃ t, s.conduct scenario network index now =
      .ok ⟨s.unopened scenario (.refused s.endpoint.uri), [], t, true⟩ := by
  obtain ⟨deadline, hd, h⟩ := h
  obtain ⟨t, ht⟩ := h.connect now
  exact ⟨t, conduct_of_unopened hd ht rfl⟩

/-- Without a limit on the attempt, only the limit on connecting matters. -/
theorem refused_iff_of_unlimited (h : s.attemptTimeout = none) :
    s.Refused network index now ↔ network.Refuses index s.endpoint.uri s.timeouts.connect := by
  have hd : s.deadline now = .ok none := by
    rw [deadline, h]
  rw [refused_iff hd, budget_none]

/-- The peer of a connection is one with which the network answers. -/
theorem neverRefuses_of_peer? (hnever : network.NeverRefuses) {peer : Peer}
    (hp : s.peer? network index now = some peer) : peer.NeverRefuses := by
  obtain ⟨deadline, o, start, -, ho, hc⟩ := exists_start_of_peer? hp
  unfold opening Network.connect at ho
  split at ho
  · cases ho
    cases hc
  · rename_i request _
    split at ho <;> cases ho <;> cases hc
    rename_i t hwait
    have harrival := (Wait.within_eq_ready.mp hwait).1
    cases ha : network.answer index request with
    | silence => rw [ha] at harrival; cases harrival
    | after delay result =>
      rw [ha] at harrival
      cases harrival
      exact hnever index request t _ ha

/-- A fault says that nothing listens only if the request is refused. -/
theorem record_refused (s : Session) (scenario : Scenario) (index now : Nat)
    (hnever : network.NeverRefuses) :
    s.Settles scenario network index now fun r ↦ ∀ cause, r.attempt.fault = some cause →
      cause.isRefused = true → s.Refused network index now := by
  refine settles_of_opening ?_ ?_
  · intro deadline o cause hd ho hc cause' hf hr
    cases hf
    exact ⟨deadline, hd, (Network.refuses_of_connect ho hc hr).1⟩
  · intro deadline o peer start x hd ho hc hx cause hf hr
    have hp := peer?_of_opening hd ho
    rw [hc] at hp
    have hpeer := neverRefuses_of_peer? hnever hp
    have hnot := exchange_not_refused hpeer hpeer.greeting hx hf
    rw [hnot] at hr
    cases hr

end Session

end Lockstep

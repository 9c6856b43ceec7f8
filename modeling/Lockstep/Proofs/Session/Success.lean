import Lockstep.Proofs.Session.Trail

/-!
# What the figures of an attempt say

A message with the response that was looked for was sent, so there are never more of these than of
those sent, nor more of those sent than there are messages. And the figures decide about success: an
attempt succeeds exactly if each of its messages has the response that was looked for.
-/

namespace Lockstep

/-- Without a response there is none that was looked for. -/
theorem Outcome.Unanswered.isMatch {o : Outcome} {sent : Bool} {cause : Fault}
    (h : o.Unanswered sent cause) : o.isMatch = false := by
  rw [Outcome.isMatch, h.verdict]
  rfl

/-- The figures of an attempt at `length` messages agree with each other and with its status. -/
structure Attempt.Coherent (a : Attempt) (length : Nat) : Prop where
  matched_le_sent : a.matchedCount ≤ a.sentCount
  sent_le : a.sentCount ≤ length
  succeeded_iff : a.succeeded = true ↔ a.matchedCount = length

/-- What no state changes is the same after many of them. -/
theorem Attempt.foldl_transition_of_const {β : Type} (f : Attempt → β)
    (hf : ∀ a st, f (a.transition st) = f a) (states : List State) (a : Attempt) :
    f (states.foldl transition a) = f a := by
  induction states generalizing a with
  | nil => rfl
  | cons st rest ih => exact (ih (a.transition st)).trans (hf a st)

namespace Session

variable {index : Nat} {steps : List Step} {x : Exchange} {traffic : List Traffic}

/-! ## The figures of an exchange -/

theorem Recorded.length_outcomes (h : Recorded index steps traffic x) :
    x.outcomes.length = steps.length := by
  have hi := congrArg List.length h.indices
  rwa [List.length_map, List.length_range'] at hi

/-- Only a message that was sent and has a response can have the one that was looked for. -/
theorem Recorded.answered_of_isMatch (h : Recorded index steps traffic x) {o : Outcome}
    (ho : o ∈ x.outcomes) (hm : o.isMatch = true) : o.Answered := by
  induction h with
  | done => cases ho
  | unwritten cause | unheard cause =>
    rcases List.mem_cons.mp ho with rfl | ho
    · cases hm
    · rw [(unanswered_of_mem_abandoned ho).isMatch] at hm
      cases hm
  | answered _ ih =>
    rcases List.mem_cons.mp ho with rfl | ho
    · exact ⟨rfl, rfl, Predicate.evaluate_ne_failed⟩
    · exact ih ho

/-- An exchange that broke leaves a message without the response that was looked for. -/
theorem Recorded.countP_isMatch_lt (h : Recorded index steps traffic x) {cause : Fault}
    (hf : x.fault = some cause) : x.outcomes.countP Outcome.isMatch < steps.length := by
  induction h with
  | done => cases hf
  | unwritten cause =>
    rw [Exchange.unwritten, List.countP_cons, countP_abandoned fun _ ↦ rfl,
      (Outcome.unanswered_unanswered ..).isMatch]
    exact Nat.succ_pos _
  | unheard cause =>
    rw [Exchange.unheard, List.countP_cons, countP_abandoned fun _ ↦ rfl,
      (Outcome.unanswered_unanswered ..).isMatch]
    exact Nat.succ_pos _
  | answered _ ih =>
    have hlater := ih hf
    rw [Exchange.answered, List.countP_cons, List.length_cons]
    split <;> omega

/-! ## The figures of an attempt -/

@[simp] theorem id_closed (s : Session) (scenario : Scenario) (x : Exchange) :
    (s.closed scenario x).id = s.id :=
  Attempt.foldl_transition_of_const Attempt.id (fun _ _ ↦ rfl) ..

/-- An attempt with a connection succeeds exactly if nothing broke the exchange and each message has
the response that was looked for. -/
theorem succeeded_closed {s : Session} {scenario : Scenario} :
    (s.closed scenario x).succeeded = true ↔
      x.fault = none ∧ x.outcomes.countP Outcome.isMatch = scenario.length := by
  have hstate : (s.closed scenario x).state = .closed (x.ending scenario.length) := rfl
  rw [Attempt.succeeded, decide_eq_true_eq, Attempt.status, fault_closed, hstate,
    ← ending_eq_success]
  cases hf : x.fault with
  | none => simp
  | some e =>
    have hne : ¬ x.ending scenario.length = .success := by
      rw [ending_eq_success, hf]
      exact fun h ↦ nomatch h.1
    dsimp only
    split <;> simp [hne]

theorem coherent_closed {s : Session} {scenario : Scenario}
    (h : Recorded 0 scenario.steps traffic x) :
    (s.closed scenario x).Coherent scenario.length where
  matched_le_sent := List.countP_mono_left fun _ ho hm ↦ (h.answered_of_isMatch ho hm).sent
  sent_le := by
    have hlength := h.length_outcomes
    rw [Scenario.length, ← hlength]
    exact List.countP_le_length
  succeeded_iff := by
    rw [succeeded_closed]
    refine ⟨And.right, fun hall ↦ ⟨?_, hall⟩⟩
    cases hf : x.fault with
    | none => rfl
    | some cause =>
      have hlt := h.countP_isMatch_lt hf
      have hall : x.outcomes.countP Outcome.isMatch = scenario.steps.length := hall
      omega

/-- An attempt without a connection has nothing sent and does not succeed. -/
theorem coherent_unopened (s : Session) (scenario : Scenario) (cause : Fault)
    (hpos : 0 < scenario.length) : (s.unopened scenario cause).Coherent scenario.length := by
  have hsent := sentCount_unopened s scenario cause
  have hmatched := matchedCount_unopened s scenario cause
  have hstatus : (s.unopened scenario cause).succeeded = false := by
    rw [Attempt.succeeded, Attempt.status, fault_unopened]
    dsimp only
    split <;> rfl
  refine ⟨by omega, by omega, ?_⟩
  rw [hstatus, hmatched]
  exact iff_of_false Bool.false_ne_true (Nat.ne_of_lt hpos)

/-- The record of an attempt at one message or more has the id of the session and coherent figures.
-/
theorem record_coherent (s : Session) (scenario : Scenario) (network : Network) (index now : Nat)
    (hpos : 0 < scenario.length) :
    s.Settles scenario network index now fun r ↦
      r.attempt.id = s.id ∧ r.attempt.Coherent scenario.length := by
  refine settles_of ?_ ?_
  · intro hp cause t q
    exact ⟨rfl, coherent_unopened s scenario cause hpos⟩
  · intro peer hp deadline start x q hx
    exact ⟨id_closed .., coherent_closed (recorded_of_start hx)⟩

end Session

end Lockstep

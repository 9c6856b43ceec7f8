import Lockstep.Proofs.Session.Accounting
import Lockstep.Proofs.Session.Moments

/-!
# Which response answers which message

Responses carry nothing that says to which message they belong, so they are matched by position: the
message at each position is judged against the data frame at the same position among all that the
peer sends, and whatever else passes between them makes no difference.
-/

namespace Lockstep

/-- What the outcome of the message at position `i` says, if a peer sends these data frames. With a
response it is the verdict on the data frame at the same position; what it says of one that was not
looked for is true of that data frame. -/
structure Outcome.Correlated (steps : List Step) (frames : List Payload) (i : Nat) (o : Outcome) :
    Prop where
  answered : o.isAnswered → ∃ step d, steps[i]? = some step ∧ frames[i]? = some d ∧
    o.verdict = step.predicate.evaluate step.payload d
  mismatch : ∀ e a, o.verdict = .mismatch e a → ∃ step, steps[i]? = some step ∧
    e = step.predicate.expected step.payload ∧ frames[i]? = some a ∧ e.kind = a.kind ∧ e ≠ a
  unexpectedKind : ∀ e a, o.verdict = .unexpectedKind e a → ∃ step d, steps[i]? = some step ∧
    e = (step.predicate.expected step.payload).kind ∧ frames[i]? = some d ∧ a = d.kind ∧ e ≠ a

namespace Session

variable {index i : Nat} {steps : List Step} {x : Exchange} {traffic : List Traffic} {o : Outcome}

/-- The outcome of a message without a response says nothing of one. -/
theorem correlated_of_unanswered {frames : List Payload} {sent : Bool} {cause : Fault}
    (h : o.Unanswered sent cause) : o.Correlated steps frames i where
  answered ha := by
    rw [Outcome.isAnswered, h.roundTrip] at ha
    cases ha
  mismatch e a hv := by
    rw [h.verdict] at hv
    cases hv
  unexpectedKind e a hv := by
    rw [h.verdict] at hv
    cases hv

/-- The verdict on a data frame says of it what is true. -/
theorem correlated_of_verdict_eq {frames : List Payload} {step : Step} {d : Payload}
    (hs : steps[i]? = some step) (hd : frames[i]? = some d)
    (h : o.verdict = step.predicate.evaluate step.payload d) : o.Correlated steps frames i where
  answered _ := ⟨step, d, hs, hd, h⟩
  mismatch e a hv := by
    obtain ⟨he, rfl, hk, hne⟩ := Predicate.evaluate_eq_mismatch (h.symm.trans hv)
    exact ⟨step, hs, he, hd, hk, hne⟩
  unexpectedKind e a hv := by
    obtain ⟨he, ha, hne⟩ := Predicate.evaluate_eq_unexpectedKind (h.symm.trans hv)
    exact ⟨step, d, hs, he, hd, ha, hne⟩

/-- What holds with the first data frames of a peer holds with all that it sends. -/
theorem correlated_of_prefix {first frames : List Payload} (h : o.Correlated steps first i)
    (hp : first <+: frames) : o.Correlated steps frames i := by
  have hall : ∀ d, first[i]? = some d → frames[i]? = some d := by
    obtain ⟨more, rfl⟩ := hp
    intro d hd
    obtain ⟨hi, -⟩ := List.getElem?_eq_some_iff.mp hd
    rw [List.getElem?_append_left hi, hd]
  refine ⟨?_, ?_, ?_⟩
  · intro ha
    obtain ⟨step, d, hs, hd, hv⟩ := h.answered ha
    exact ⟨step, d, hs, hall d hd, hv⟩
  · intro e a hv
    obtain ⟨step, hs, he, ha, hk, hne⟩ := h.mismatch e a hv
    exact ⟨step, hs, he, hall a ha, hk, hne⟩
  · intro e a hv
    obtain ⟨step, d, hs, he, hd, ha, hne⟩ := h.unexpectedKind e a hv
    exact ⟨step, d, hs, he, hall d hd, ha, hne⟩

/-- In an exchange, the message at each position is judged against the response at that position. -/
theorem Recorded.correlated (h : Recorded index steps traffic x) (ho : x.outcomes[i]? = some o) :
    o.Correlated steps (Traffic.responses traffic) i := by
  induction h generalizing i with
  | done => cases ho
  | unwritten cause | unheard cause =>
    rcases List.mem_cons.mp (List.mem_of_getElem? ho) with rfl | ho
    · exact correlated_of_unanswered (Outcome.unanswered_unanswered ..)
    · exact correlated_of_unanswered (unanswered_of_mem_abandoned ho)
  | answered _ ih =>
    cases i with
    | zero =>
      cases ho
      exact correlated_of_verdict_eq rfl rfl rfl
    | succ i =>
      obtain ⟨ha, hm, hk⟩ := ih ho
      exact ⟨ha, hm, hk⟩

/-- The responses of an attempt are the first data frames that its peer sends, as many as there are
messages with a response, and the outcome at each position is about the data frame at the same
position. So no data frame is skipped and none is used twice. -/
theorem verdicts_by_position (s : Session) (scenario : Scenario) (network : Network)
    (index now : Nat) :
    s.Settles scenario network index now fun r ↦
      Traffic.responses r.traffic =
          (s.inbound network index now r).take r.attempt.answeredCount ∧
        ∀ i (o : Outcome), r.attempt.outcomes[i]? = some o →
          o.Correlated scenario.steps (s.inbound network index now r) i := by
  refine settles_of ?_ ?_
  · intro hp cause t q
    refine ⟨?_, ?_⟩
    · rw [inbound, hp]
      exact List.take_nil.symm
    · intro i o ho
      exact correlated_of_unanswered (unanswered_of_mem_abandoned (List.mem_of_getElem? ho))
  · intro peer hp deadline start x q hx
    have hrec := recorded_of_start hx
    obtain ⟨m, hm, -, hlog, hframes⟩ := exchange_reachable hx
    have hfirst := hm.orderly.responses_prefix
    rw [hlog, hframes] at hfirst
    have hcount : (s.closed scenario x).answeredCount =
        (Traffic.responses x.connection.traffic).length := hrec.countP_isAnswered
    rw [inbound, hp]
    refine ⟨?_, ?_⟩
    · rw [hcount]
      exact List.prefix_iff_eq_take.mp hfirst
    · intro i o ho
      exact correlated_of_prefix (hrec.correlated ho) hfirst

/-- A greeting is taken for the response to the first message. -/
example : (fun x ↦ x.outcomes.map Outcome.verdict) <$>
    exchange none none 0 [⟨.text "a", .exact (.text "a")⟩]
      (.start { Peer.silent with greeting := [.data (.text "hello")] } 0) =
    .ok [.mismatch (.text "a") (.text "hello")] := by
  rfl

end Session

end Lockstep

import Lockstep.Proofs.Session.Settled

/-!
# What becomes of each message

Every message of a scenario has its outcome, in order, and the outcomes fall into three parts: those
of the messages with a response, then that of the message at which the exchange broke, if it did,
and then those of the messages that were never sent. All failures carry the one text of the fault of
the attempt. If the connection was not opened there is only the third part.
-/

namespace Lockstep

namespace Outcome

/-- The message was sent and has a response, whether the one that was looked for or another. -/
structure Answered (o : Outcome) : Prop where
  sent : o.sent = true
  roundTrip : o.roundTrip.isSome = true
  verdict : ∀ reason, o.verdict ≠ .failed reason

/-- The message has no response, because of `cause`. -/
structure Unanswered (o : Outcome) (sent : Bool) (cause : Fault) : Prop where
  sent : o.sent = sent
  roundTrip : o.roundTrip = none
  verdict : o.verdict = .failed cause.message

/-- The message is the one at which an exchange broke: it was sent and then awaited in vain, or it
could not be written. What passed last on the connection says which. -/
def Breaks (o : Outcome) (cause : Fault) (traffic : List Traffic) : Prop :=
  (o.Unanswered true cause ∧ traffic.getLast? = some (.unheard cause)) ∨
    ∃ e, cause = .socket e ∧ o.Unanswered false cause ∧ traffic.getLast? = some (.unsent e)

theorem Breaks.cons {o : Outcome} {cause : Fault} {traffic : List Traffic}
    (h : o.Breaks cause traffic) (t : Traffic) : o.Breaks cause (t :: traffic) := by
  rcases h with ⟨ho, hl⟩ | ⟨e, he, ho, hl⟩
  · exact .inl ⟨ho, by rw [List.getLast?_cons, hl, Option.getD_some]⟩
  · exact .inr ⟨e, he, ho, by rw [List.getLast?_cons, hl, Option.getD_some]⟩

theorem unanswered_unanswered (index : Nat) (sent : Bool) (cause : Fault) :
    (unanswered index sent cause).Unanswered sent cause := ⟨rfl, rfl, rfl⟩

end Outcome

namespace Session

variable {index : Nat} {steps : List Step} {x : Exchange} {traffic : List Traffic}

/-! ## Messages that are not sent -/

theorem indices_abandoned (cause : Fault) (index : Nat) (steps : List Step) :
    (Exchange.abandoned cause index steps).map Outcome.index =
      List.range' index steps.length := by
  induction steps generalizing index with
  | nil => rfl
  | cons step rest ih =>
    rw [Exchange.abandoned, List.map_cons, ih, List.length_cons, List.range'_succ]
    rfl

theorem unanswered_of_mem_abandoned {cause : Fault} {o : Outcome}
    (h : o ∈ Exchange.abandoned cause index steps) : o.Unanswered false cause := by
  induction steps generalizing index with
  | nil => cases h
  | cons step rest ih =>
    rw [Exchange.abandoned, List.mem_cons] at h
    rcases h with rfl | h
    · exact Outcome.unanswered_unanswered ..
    · exact ih h

theorem not_sent_of_mem_abandoned {cause : Fault} {o : Outcome}
    (h : o ∈ Exchange.abandoned cause index steps) : ¬ o.sent = true := by
  rw [(unanswered_of_mem_abandoned h).sent]
  exact Bool.false_ne_true

/-! ## Exchanges -/

/-- Each message has its outcome, in order. -/
theorem Recorded.indices (h : Recorded index steps traffic x) :
    x.outcomes.map Outcome.index = List.range' index steps.length := by
  induction h with
  | done => rfl
  | unwritten cause =>
    rw [Exchange.unwritten, List.map_cons, indices_abandoned, List.length_cons, List.range'_succ]
    rfl
  | unheard cause =>
    rw [Exchange.unheard, List.map_cons, indices_abandoned, List.length_cons, List.range'_succ]
    rfl
  | answered _ ih =>
    rw [Exchange.answered, List.map_cons, ih, List.length_cons, List.range'_succ]
    rfl

/-- The outcomes of an exchange in three parts. -/
theorem Recorded.parts (h : Recorded index steps traffic x) :
    ∃ answered breaking rest, x.outcomes = answered ++ breaking ++ rest ∧
      (∀ o ∈ answered, o.Answered) ∧
      (∀ o ∈ rest, ∃ cause, x.fault = some cause ∧ o.Unanswered false cause) ∧
      (match x.fault with
        | none => breaking = []
        | some cause => ∃ o, breaking = [o] ∧ o.Breaks cause traffic) := by
  induction h with
  | done => exact ⟨[], [], [], rfl, by simp, by simp, rfl⟩
  | @unwritten index step rest c cause =>
    refine ⟨[], [_], _, rfl, by simp, ?_, _, rfl, .inr ⟨cause, rfl, ?_, rfl⟩⟩
    · exact fun o ho ↦ ⟨_, rfl, unanswered_of_mem_abandoned ho⟩
    · exact Outcome.unanswered_unanswered ..
  | @unheard index step rest c cause =>
    refine ⟨[], [_], _, rfl, by simp, ?_, _, rfl, .inl ⟨?_, rfl⟩⟩
    · exact fun o ho ↦ ⟨_, rfl, unanswered_of_mem_abandoned ho⟩
    · exact Outcome.unanswered_unanswered ..
  | @answered index took step rest p traffic later _ ih =>
    obtain ⟨answered, breaking, abandoned, hos, ha, hr, hb⟩ := ih
    let o : Outcome := .answered index (step.predicate.evaluate step.payload p) (.clamp took)
    have ho : o.Answered := ⟨rfl, rfl, Predicate.evaluate_ne_failed⟩
    refine ⟨o :: answered, breaking, abandoned, congrArg (List.cons o) hos,
      List.forall_mem_cons.mpr ⟨ho, ha⟩, hr, ?_⟩
    rw [Exchange.answered]
    cases hf : later.fault with
    | none => rw [hf] at hb; exact hb
    | some cause =>
      rw [hf] at hb
      obtain ⟨o, rfl, ho⟩ := hb
      exact ⟨o, rfl, (ho.cons _).cons _⟩

/-! ## Attempts -/

/-- The accounting of an attempt. Each message of the scenario has its outcome, in order, and these
are the answered ones, then at most one at which the exchange broke, then those never sent. The
exchange broke exactly if there was a connection and the attempt has a fault; without a connection
there is a fault and nothing was sent. -/
theorem outcomes_accounted (s : Session) (scenario : Scenario) (network : Network)
    (index now : Nat) :
    s.Settles scenario network index now fun r ↦
      r.attempt.outcomes.map Outcome.index = List.range scenario.length ∧
      ∃ answered breaking rest, r.attempt.outcomes = answered ++ breaking ++ rest ∧
        (∀ o ∈ answered, o.Answered) ∧
        (∀ o ∈ rest, ∃ cause, r.attempt.fault = some cause ∧ o.Unanswered false cause) ∧
        match s.peer? network index now, r.attempt.fault with
        | none, fault => fault.isSome ∧ answered = [] ∧ breaking = []
        | some _, none => breaking = []
        | some _, some cause => ∃ o, breaking = [o] ∧ o.Breaks cause r.traffic := by
  refine settles_of ?_ ?_
  · intro hp cause t q
    refine ⟨?_, [], [], _, rfl, by simp, ?_, ?_⟩
    · exact (indices_abandoned ..).trans (List.range_eq_range' ..).symm
    · exact fun o ho ↦ ⟨cause, rfl, unanswered_of_mem_abandoned ho⟩
    · rw [hp]
      exact ⟨rfl, rfl, rfl⟩
  · intro peer hp deadline start x q hx
    have hrec := recorded_of_start hx
    refine ⟨hrec.indices.trans (List.range_eq_range' ..).symm, ?_⟩
    obtain ⟨answered, breaking, rest, hos, ha, hr, hb⟩ := hrec.parts
    refine ⟨answered, breaking, rest, hos, ha, hr, ?_⟩
    rw [hp]
    cases hf : x.fault with
    | none => rw [hf] at hb; simpa [hf] using hb
    | some cause => rw [hf] at hb; simpa [hf] using hb

end Session

end Lockstep

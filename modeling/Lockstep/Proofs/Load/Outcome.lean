import Lockstep.Proofs.Load.Accounting
import Lockstep.Proofs.Session.Judgement

/-!
# What a load run comes to

A load run whose plan is not valid comes to the fault of the plan. Any other comes to a report on
one attempt for each task, and it succeeds as a whole exactly if there is a task and each of them
ends with a clean attempt. Refused connections are among the attempts like all others: the run goes
on without them, and the report has a line on each.
-/

namespace Lockstep

/-- The report has a line on each attempt that did not succeed. -/
theorem Report.attemptLine_mem_lines {r : Report} {a : Attempt} (ha : a ∈ r.attempts)
    (hs : a.succeeded = false) : attemptLine a ∈ r.lines := by
  have hfailed : a ∈ r.attempts.filter (! ·.succeeded) := by
    rw [List.mem_filter, hs]
    exact ⟨ha, rfl⟩
  exact List.mem_append_right _ (List.mem_flatMap.mpr ⟨a, hfailed, List.mem_cons_self⟩)

namespace LoadPlan

variable {p : LoadPlan} {endpoint : Endpoint} {network : Network} {draw : Nat → Scenario.Draw}
  {now : Nat}

section

variable (p : LoadPlan) (endpoint : Endpoint) (network : Network) (draw : Nat → Scenario.Draw)
  (now : Nat)

/-- A session of the load run waits, without a limit, for something that never comes. -/
def Stalls : Prop := ∃ id ∈ p.ids,
  (p.session endpoint id).Stalls (p.scenario endpoint (draw id)) network (id - 1) now

/-- There is a task, and each of them ends with a clean attempt at all its messages. -/
def Succeeds : Prop :=
  0 < p.connections ∧ 0 < p.messages ∧ ∀ id ∈ p.ids, ∃ r,
    p.task endpoint network draw now id = .ok r ∧ r.attempt.Clean ∧
      r.attempt.outcomes.length = p.messages

end

/-- The report of a run has the attempts of all tasks. -/
theorem attempts_of_run (hk : 0 < p.messages) {c : Course}
    (hc : p.run endpoint network draw now = .ok c) :
    c.report.attempts = p.attempts endpoint network draw now := by
  have hend : ∀ id ∈ p.ids, p.task endpoint network draw now id ≠ .error .endless := by
    intro id hid hend
    cases hc.symm.trans (run_of_endless hid hend)
  have hfollows := run_follows hk hend fun _ hr ↦ hr
  rw [hc] at hfollows
  exact hfollows.of_ok.2

/-- A load run that comes to its end has a plan that is not valid, or a report on its attempts. -/
theorem start_cases {x : Except Fault Course} (h : p.start endpoint network draw now = .ok x) :
    (∃ cause, p.validate = .error cause ∧ x = .error cause) ∨
      p.validate = .ok () ∧ ∃ c, x = .ok c ∧
        c.report.attempts = p.attempts endpoint network draw now := by
  unfold start at h
  split at h
  · rename_i cause hv
    cases h
    exact .inl ⟨cause, hv, rfl⟩
  · rename_i hv
    obtain ⟨c, hc, rfl⟩ := Halt.map_eq_ok.mp h
    exact .inr ⟨hv, c, rfl, attempts_of_run (validate_eq_ok.mp hv).2 hc⟩

/-- A task succeeds exactly if it ends with a clean attempt. -/
theorem succeeded_attempt_iff {id : Nat} :
    (TaskEnd.attempt id endpoint.uri (p.task endpoint network draw now id)).succeeded = true ↔
      ∃ r, p.task endpoint network draw now id = .ok r ∧ r.attempt.Clean ∧
        r.attempt.outcomes.length = p.messages := by
  cases ht : p.task endpoint network draw now id with
  | error halt =>
    refine iff_of_false Bool.false_ne_true ?_
    rintro ⟨r, hr, -⟩
    cases hr
  | ok r =>
    have hsucceeded := ((p.session endpoint id).record_succeeded_iff _ network (id - 1)
      now).of_conduct ht
    have hconcerns := ((p.session endpoint id).record_concerns _ network (id - 1)
      now).of_conduct ht
    have hlength : r.attempt.outcomes.length = p.messages :=
      hconcerns.length_eq.trans (Scenario.length_burst ..)
    refine hsucceeded.trans ⟨fun hclean ↦ ⟨r, rfl, hclean, hlength⟩, ?_⟩
    rintro ⟨r₀, hr₀, hclean, -⟩
    cases hr₀
    exact hclean

/-- A report on the attempts says that all connections succeeded exactly if the run succeeds. -/
theorem allSucceeded_iff_succeeds {r : Report} (hv : p.validate = .ok ())
    (h : r.attempts = p.attempts endpoint network draw now) :
    r.allSucceeded = true ↔ p.Succeeds endpoint network draw now := by
  obtain ⟨hn, hk⟩ := validate_eq_ok.mp hv
  have hlength : r.totalConnections = p.connections := by
    rw [Report.totalConnections, h, length_attempts]
  have hall : (∀ a ∈ r.attempts, a.succeeded = true) ↔ ∀ id ∈ p.ids, ∃ r,
      p.task endpoint network draw now id = .ok r ∧ r.attempt.Clean ∧
        r.attempt.outcomes.length = p.messages := by
    rw [h, attempts, List.forall_mem_map]
    exact forall₂_congr fun id _ ↦ succeeded_attempt_iff
  rw [Report.allSucceeded_iff, hlength, hall]
  exact and_congr_right fun _ ↦ (and_iff_right hk).symm

end LoadPlan

end Lockstep

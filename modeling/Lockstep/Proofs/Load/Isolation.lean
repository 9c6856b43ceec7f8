import Lockstep.Proofs.Load.Accounting

/-!
# Load connections do not disturb each other

The attempt of a task is the one that its session makes alone, against the answer that the network
has for it. So two load runs, of which the networks and the draws may differ elsewhere and in which
other tasks may panic, have the same attempt in the same place; and the order in which the tasks are
joined makes no difference to the report.
-/

namespace Lockstep

/-- The network in which any request meets the answer to the one with `index` before it. -/
def Network.only (n : Network) (index : Nat) : Network :=
  { n with answer := fun _ ↦ n.answer index }

namespace LoadPlan

variable {p : LoadPlan} {endpoint : Endpoint} {network network' : Network}
  {draw draw' : Nat → Scenario.Draw} {now : Nat} {frail frail' : Set Nat} {m m' : Snapshot}

/-- What session `id` of a load run ends with when it is alone. -/
def alone (p : LoadPlan) (endpoint : Endpoint) (network : Network) (draw : Nat → Scenario.Draw)
    (now id : Nat) : TaskEnd :=
  (p.session endpoint id).conduct (p.scenario endpoint (draw id)) (network.only (id - 1)) 0 now

theorem task_eq_alone (id : Nat) :
    p.task endpoint network draw now id = p.alone endpoint network draw now id :=
  Session.conduct_congr rfl

/-- A task depends on its own connection and its own draws only. -/
theorem alone_congr {id : Nat} (hn : network.answer (id - 1) = network'.answer (id - 1))
    (hd : draw id = draw' id) :
    p.alone endpoint network draw now id = p.alone endpoint network' draw' now id := by
  rw [alone, alone, hd]
  exact Session.conduct_congr hn

/-- A task that may not panic ends as its session does alone. -/
theorem Reachable.ended_eq_alone (h : p.Reachable endpoint network draw now frail m)
    (ho : p.Over m) {id : Nat} (hid : id ∈ p.ids) (hf : id ∉ frail) :
    m.ended id = p.alone endpoint network draw now id := by
  obtain heq | ⟨hin, -⟩ := h.ended ho hid
  · exact heq.trans (task_eq_alone id)
  · exact absurd hin hf

/-- The attempt in the place of each task is that of its session alone. A task that may panic has
that or the attempt of a task that panicked. -/
structure Isolated (p : LoadPlan) (endpoint : Endpoint) (network : Network)
    (draw : Nat → Scenario.Draw) (now : Nat) (frail : Set Nat) (r : Report) : Prop where
  alone : ∀ id ∈ p.ids, id ∉ frail →
    r.attempts[id - 1]? = some ((p.alone endpoint network draw now id).attempt id endpoint.uri)
  frail : ∀ id ∈ p.ids, id ∈ frail →
    r.attempts[id - 1]? = some ((p.alone endpoint network draw now id).attempt id endpoint.uri) ∨
      ∃ halt, r.attempts[id - 1]? = some (TaskEnd.aborted id endpoint.uri halt)

theorem Reachable.isolated (h : p.Reachable endpoint network draw now frail m) (ho : p.Over m)
    (hv : p.validate = .ok ()) :
    Report.Follows (p.gather endpoint m.ends) (p.Isolated endpoint network draw now frail)
      (p.reportOn endpoint now m.ends) := by
  obtain ⟨-, hk⟩ := validate_eq_ok.mp hv
  refine h.reportOn_follows ho hk fun r hr ↦ ⟨fun id hid hf ↦ ?_, fun id hid _ ↦ ?_⟩
  · rw [hr, ← h.ended_eq_alone ho hid hf]
    exact h.getElem?_gather ho hid
  · rw [hr, h.getElem?_gather ho hid, ← task_eq_alone]
    obtain heq | ⟨-, halt, heq⟩ := h.ended ho hid
    · exact .inl (by rw [heq])
    · exact .inr ⟨halt, by rw [heq]; rfl⟩

/-- Two runs have the same attempt in the place of a task that may panic in neither, if its
connection and its draws are the same in both. -/
theorem Isolated.attempt_eq {r r' : Report} (h : p.Isolated endpoint network draw now frail r)
    (h' : p.Isolated endpoint network' draw' now frail' r') {id : Nat} (hid : id ∈ p.ids)
    (hf : id ∉ frail) (hf' : id ∉ frail')
    (hn : network.answer (id - 1) = network'.answer (id - 1)) (hd : draw id = draw' id) :
    r.attempts[id - 1]? = r'.attempts[id - 1]? := by
  rw [h.alone id hid hf, h'.alone id hid hf', alone_congr hn hd]

theorem Reachable.isolated_of_ok (h : p.Reachable endpoint network draw now frail m)
    (ho : p.Over m) (hv : p.validate = .ok ()) {r : Report}
    (hr : p.reportOn endpoint now m.ends = .ok r) :
    p.Isolated endpoint network draw now frail r := by
  have hfollows := h.isolated ho hv
  rw [hr] at hfollows
  exact hfollows.of_ok.2

/-- The report takes no notice of the order in which the tasks go on and are joined: if those that
may panic end alike in two runs, both have the same report. -/
theorem Reachable.reportOn_congr (h : p.Reachable endpoint network draw now frail m)
    (ho : p.Over m) (h' : p.Reachable endpoint network draw now frail m') (ho' : p.Over m')
    (hpanic : ∀ id ∈ p.ids, id ∈ frail → m.ended id = m'.ended id) :
    p.reportOn endpoint now m.ends = p.reportOn endpoint now m'.ends := by
  have hended : ∀ id ∈ p.ids, m.ended id = m'.ended id := by
    intro id hid
    by_cases hf : id ∈ frail
    · exact hpanic id hid hf
    · rw [h.ended_eq_alone ho hid hf, h'.ended_eq_alone ho' hid hf]
  rw [h.reportOn_eq ho, h'.reportOn_eq ho']
  exact congrArg _ (List.map_congr_left fun id hid ↦ by rw [hended id hid])

/-- The connections of a load run do not disturb each other, in whatever order its tasks go on and
are joined, if there is a report on it. Each attempt is that of its session alone. If another run of
the plan differs from this one in some connections and draws and in which tasks may panic, the
attempts of all others are the same in both. And the order makes no difference to the report, which
is that of `run` if no task panics. -/
theorem connections_isolated (p : LoadPlan) (endpoint : Endpoint) (network : Network)
    (draw : Nat → Scenario.Draw) (now : Nat) (frail : Set Nat) (m : Snapshot)
    (hv : p.validate = .ok ()) (h : p.Reachable endpoint network draw now frail m)
    (ho : p.Over m) :
    (Report.Reportable (p.gather endpoint m.ends) →
      ∃ r, p.reportOn endpoint now m.ends = .ok r ∧
        p.Isolated endpoint network draw now frail r) ∧
    (∀ network' draw' frail' m' r r',
      p.Reachable endpoint network' draw' now frail' m' → p.Over m' →
      p.reportOn endpoint now m.ends = .ok r → p.reportOn endpoint now m'.ends = .ok r' →
      ∀ id ∈ p.ids, id ∉ frail → id ∉ frail' →
        network.answer (id - 1) = network'.answer (id - 1) → draw id = draw' id →
        r.attempts[id - 1]? = r'.attempts[id - 1]?) ∧
    (∀ m', p.Reachable endpoint network draw now frail m' → p.Over m' →
      (∀ id ∈ p.ids, id ∈ frail → m.ended id = m'.ended id) →
      p.reportOn endpoint now m.ends = p.reportOn endpoint now m'.ends) ∧
    (frail = ∅ →
      Course.report <$> p.run endpoint network draw now = p.reportOn endpoint now m.ends) := by
  refine ⟨(h.isolated ho hv).exists_ok, ?_, ?_, ?_⟩
  · intro network' draw' frail' m' r r' h' ho' hr hr' id hid hf hf' hn hd
    exact (h.isolated_of_ok ho hv hr).attempt_eq (h'.isolated_of_ok ho' hv hr') hid hf hf' hn hd
  · intro m' h' ho' hpanic
    exact h.reportOn_congr ho h' ho' hpanic
  · rintro rfl
    exact h.run_eq ho

/-- The first connection is answered as the client looks for, and nothing listens for the others. -/
def lone : Network := .ofAnswers [.opened (.replying .identity), .failed (.io .refused)]

/-- The first of three tasks has the same attempt in two runs: in one of them the second connection
has no response that is looked for, and the last task panics; in the other nothing listens for
either of these connections, and no task panics. -/
theorem connections_isolated_trio : ∃ m m' r r',
    trio.Reachable .root mixed (fun _ _ _ ↦ 0) 0 {3} m ∧ trio.Over m ∧
      trio.Reachable .root lone (fun _ _ _ ↦ 0) 0 ∅ m' ∧ trio.Over m' ∧
      trio.reportOn .root 0 m.ends = .ok r ∧ trio.reportOn .root 0 m'.ends = .ok r' ∧
      trio.Isolated .root mixed (fun _ _ _ ↦ 0) 0 {3} r ∧
      r.attempts[0]? = r'.attempts[0]? ∧
      r.attempts.map Attempt.status = [.succeeded, .failed, .failed] ∧
      r'.attempts.map Attempt.status = [.succeeded, .refused, .refused] := by
  obtain ⟨m, hm, ho, hends, hreport⟩ := exists_trio
  obtain ⟨m', hm', ho', hends'⟩ : ∃ m', trio.Reachable .root lone (fun _ _ _ ↦ 0) 0 ∅ m' ∧
      trio.Over m' ∧ m'.ends = _ :=
    exists_reachable ∅ fun id _ ↦ task_ne_endless (by decide) (by decide) id
  have hreport' : Report.Reportable (trio.gather .root m'.ends) := by
    rw [hends']
    exact ⟨by decide, by decide⟩
  obtain ⟨hisolated, hpair, -⟩ := connections_isolated trio .root mixed _ 0 {3} m rfl hm ho
  obtain ⟨r, hr, hr_isolated⟩ := hisolated hreport
  obtain ⟨_, hr₀, hattempts⟩ := hm.exists_report ho (by decide) hreport
  cases hr.symm.trans hr₀
  obtain ⟨r', hr', hattempts'⟩ := hm'.exists_report ho' (by decide) hreport'
  refine ⟨m, m', r, r', hm, ho, hm', ho', hr, hr', hr_isolated, ?_, ?_, ?_⟩
  · exact hpair _ _ ∅ m' r r' hm' ho' hr hr' 1 (by decide) (by decide) (Set.notMem_empty 1) rfl rfl
  · rw [hattempts, hends]
    decide
  · rw [hattempts', hends']
    decide

/-- The least number of messages on two connections that is a multiple of 2^32. -/
def halves : LoadPlan := { standard with connections := 2, messages := 0x80000000, size := 0 }

/-- Only the first request reaches the server. -/
def half (n : Network) : Network :=
  { n with answer := fun index request ↦
      if index = 0 then n.answer 0 request else .failed (.io .refused) }

/-- Half the messages are no multiple of 2^32, so there is a report if the others are not sent. -/
theorem exists_run_half :
    ∃ c r, halves.run .root (half Server.standard.network) (fun _ _ _ ↦ 0) 0 = .ok c ∧
      halves.alone .root Server.standard.network (fun _ _ _ ↦ 0) 0 1 = .ok r ∧
      c.report.attempts[0]? = some r.attempt := by
  obtain ⟨r, hr, h⟩ := flawless_of_unlimited (p := halves) (fun _ _ _ ↦ 0) 0 rfl 1 (by decide)
  have hfirst : halves.task .root (half Server.standard.network) (fun _ _ _ ↦ 0) 0 1 = .ok r :=
    hr ▸ Session.conduct_congr rfl
  obtain ⟨r', hsecond, hnone⟩ : ∃ r', halves.task .root (half Server.standard.network)
      (fun _ _ _ ↦ 0) 0 2 = .ok r' ∧ r'.attempt.answeredCount = 0 :=
    ⟨_, rfl, Session.answeredCount_unopened ..⟩
  have hattempts : halves.attempts .root (half Server.standard.network) (fun _ _ _ ↦ 0) 0 =
      [r.attempt, r'.attempt] := by
    change [TaskEnd.attempt 1 _ _, TaskEnd.attempt 2 _ _] = _
    rw [hfirst, hsecond]
    rfl
  have hreport : Report.Reportable [r.attempt, r'.attempt] := by
    constructor
    · rw [List.map_cons, List.map_singleton, total_cons, total_cons, total_nil, h.waited_eq,
        Attempt.waited_of_answeredCount_eq_zero hnone]
      decide
    · rw [List.map_cons, List.map_singleton, total_cons, total_cons, total_nil, h.answered, hnone]
      decide
  obtain ⟨c, hc, hattempts'⟩ := exists_run (by decide)
    (fun id _ ↦ task_ne_endless (by decide) (by decide) id) (hattempts ▸ hreport)
  refine ⟨c, r, hc, task_eq_alone 1 ▸ hr, ?_⟩
  rw [hattempts', hattempts]
  rfl

/-- A session whose deadline the clock cannot show has no attempt alone, and another takes its place
in the report. And where the responses on all connections are a multiple of 2^32 there is no report,
so it depends on the second connection whether the first has an attempt. -/
theorem connections_disturbed :
    (LoadPlan.alone ⟨1, 3, 0, some (.clamp (0x10000000000000000 * 1000000000)), .standard⟩ .root
          .deserted (fun _ _ _ ↦ 0) 0 1 = .error .instantOverflow ∧
      ∃ c, LoadPlan.run ⟨1, 3, 0, some (.clamp (0x10000000000000000 * 1000000000)), .standard⟩ .root
          .deserted (fun _ _ _ ↦ 0) 0 = .ok c ∧
        c.report.attempts = [TaskEnd.aborted 1 Endpoint.root.uri .instantOverflow]) ∧
    (half Server.standard.network).answer 0 = Server.standard.network.answer 0 ∧
    halves.run .root Server.standard.network (fun _ _ _ ↦ 0) 0 = .error .zeroDivisor ∧
    ∃ c r, halves.run .root (half Server.standard.network) (fun _ _ _ ↦ 0) 0 = .ok c ∧
      halves.alone .root Server.standard.network (fun _ _ _ ↦ 0) 0 1 = .ok r ∧
      c.report.attempts[0]? = some r.attempt := by
  have hflawless := flawless_of_unlimited (p := halves) (fun _ _ _ ↦ 0) 0 rfl
  refine ⟨⟨rfl, ?_⟩, rfl, hflawless.run_eq_error rfl ?_ (by decide), exists_run_half⟩
  · refine exists_run (by decide) (fun id _ h ↦ nomatch (stalls_of_task h).1) ?_
    exact ⟨by decide, by decide⟩
  · rw [hflawless.waited_eq]
    decide

end LoadPlan

end Lockstep

import Lockstep.Proofs.Burst
import Lockstep.Proofs.Load.Interleaving
import Lockstep.Proofs.Report
import Lockstep.Proofs.Server.Service

/-!
# What becomes of all messages of a load run

Each attempt of a load run has coherent figures, that of a task that panicked included: it has sent
nothing. So the figures of the report balance, in whatever order the tasks go on and end, and
whatever becomes of each of them.

There is a report unless the mean of the round trips fails. In a run without a flaw all messages
have their response, so it fails there if their number is a multiple of 2^32.
-/

namespace Lockstep

/-- A plan that is valid has a connection, and a message on it. -/
theorem LoadPlan.validate_eq_ok {p : LoadPlan} :
    p.validate = .ok () ↔ 0 < p.connections ∧ 0 < p.messages := by
  unfold validate
  split
  · exact iff_of_false nofun (by omega)
  · split
    · exact iff_of_false nofun (by omega)
    · exact iff_of_true rfl (by omega)

/-! ## Attempts of tasks -/

namespace TaskEnd

/-- The attempt of a task that panicked is no success, and no refusal either. -/
theorem status_aborted (id : Nat) (uri : String) (halt : Halt) :
    (aborted id uri halt).status = .failed := rfl

theorem coherent_aborted (id : Nat) (uri : String) (halt : Halt) {length : Nat} (h : 0 < length) :
    (aborted id uri halt).Coherent length where
  matched_le_sent := Nat.le_refl 0
  sent_le := Nat.zero_le length
  succeeded_iff := iff_of_false Bool.false_ne_true (Nat.ne_of_lt h)

end TaskEnd

/-- What an attempt without a flaw waited, if each answer takes the same time. -/
theorem Attempt.Flawless.waited_eq {a : Attempt} {count d : Nat} (h : a.Flawless count {d}) :
    a.waited = count * (Span.clamp d).nanoseconds := by
  have htrips : a.outcomes.filterMap Outcome.roundTrip =
      a.outcomes.map fun _ ↦ Span.clamp d := by
    rw [← List.filterMap_eq_map]
    refine List.filterMap_congr fun o ho ↦ ?_
    obtain ⟨_, rfl, hd⟩ := (h.outcomes o ho).roundTrip
    exact hd
  rw [waited, roundTrips, htrips, List.map_map]
  rw [total_map_eq (f := Span.nanoseconds ∘ fun _ ↦ Span.clamp d) fun _ _ ↦ rfl, h.length]
  rfl

namespace LoadPlan

variable {p : LoadPlan} {endpoint : Endpoint} {network : Network} {draw : Nat → Scenario.Draw}
  {now : Nat} {frail : Set Nat} {m : Snapshot}

/-- The attempt of a task has the id of the task and coherent figures, however the task ends. -/
theorem EndsWith.coherent {id : Nat} {e : TaskEnd} (hk : 0 < p.messages)
    (h : p.EndsWith endpoint network draw now frail id e) (uri : String) :
    (e.attempt id uri).id = id ∧ (e.attempt id uri).Coherent p.messages := by
  cases e with
  | error halt => exact ⟨rfl, TaskEnd.coherent_aborted id uri halt hk⟩
  | ok r =>
    obtain hr | ⟨-, halt, hr⟩ := h
    · have hlength : (p.scenario endpoint (draw id)).length = p.messages :=
        Scenario.length_burst ..
      rw [← hlength] at hk ⊢
      exact (Session.record_coherent _ _ network (id - 1) now hk).of_conduct hr.symm
    · cases hr

theorem pairwise_ids (p : LoadPlan) : p.ids.Pairwise (· ≤ ·) :=
  List.pairwise_le_range'

/-- Attempts one for each id, in the order of the ids, stay as they are in the report. -/
theorem inOrder_of_ids {as : List Attempt} (h : as.map Attempt.id = p.ids) :
    Report.inOrder as = as := by
  refine List.mergeSort_of_pairwise ?_
  have hp := pairwise_ids p
  rw [← h, List.pairwise_map] at hp
  exact hp.imp fun hle ↦ decide_eq_true hle

/-- In the attempts gathered from the tasks, that of task `id` stands at its place. -/
theorem Reachable.getElem?_gather (h : p.Reachable endpoint network draw now frail m)
    (ho : p.Over m) {id : Nat} (hid : id ∈ p.ids) :
    (p.gather endpoint m.ends)[id - 1]? = some ((m.ended id).attempt id endpoint.uri) := by
  rw [h.gather_eq ho, List.getElem?_map, getElem?_ids hid]
  rfl

theorem Reachable.ids_gather (h : p.Reachable endpoint network draw now frail m) (ho : p.Over m)
    (hk : 0 < p.messages) : (p.gather endpoint m.ends).map Attempt.id = p.ids := by
  have hid : ∀ id ∈ p.ids, ((m.ended id).attempt id endpoint.uri).id = id := fun id hid ↦
    ((h.ended ho hid).coherent hk endpoint.uri).1
  rw [h.gather_eq ho, List.map_map]
  exact (List.map_congr_left hid).trans (List.map_id' _)

theorem Reachable.coherent_gather (h : p.Reachable endpoint network draw now frail m)
    (ho : p.Over m) (hk : 0 < p.messages) :
    ∀ a ∈ p.gather endpoint m.ends, a.Coherent p.messages := by
  intro a ha
  rw [h.gather_eq ho] at ha
  obtain ⟨id, hid, rfl⟩ := List.mem_map.mp ha
  exact ((h.ended ho hid).coherent hk endpoint.uri).2

/-- The attempts of all tasks. -/
def attempts (p : LoadPlan) (endpoint : Endpoint) (network : Network) (draw : Nat → Scenario.Draw)
    (now : Nat) : List Attempt :=
  p.ids.map fun id ↦ TaskEnd.attempt id endpoint.uri (p.task endpoint network draw now id)

theorem length_attempts : (p.attempts endpoint network draw now).length = p.connections := by
  rw [attempts, List.length_map, ids, List.length_range']

/-- If no task may panic, the attempts gathered from the tasks are those of all tasks. -/
theorem Reachable.gather_eq_attempts (h : p.Reachable endpoint network draw now ∅ m)
    (ho : p.Over m) : p.gather endpoint m.ends = p.attempts endpoint network draw now := by
  rw [h.gather_eq ho]
  exact List.map_congr_left fun id hid ↦ by rw [h.ended_eq_task ho hid]

theorem endsWith_task (id : Nat) : p.EndsWith endpoint network draw now ∅ id
    (p.task endpoint network draw now id) := .inl rfl

theorem ids_attempts (hk : 0 < p.messages) :
    (p.attempts endpoint network draw now).map Attempt.id = p.ids := by
  rw [attempts, List.map_map]
  exact (List.map_congr_left fun id _ ↦ ((endsWith_task id).coherent hk endpoint.uri).1).trans
    (List.map_id' _)

theorem coherent_attempts (hk : 0 < p.messages) :
    ∀ a ∈ p.attempts endpoint network draw now, a.Coherent p.messages := by
  intro a ha
  obtain ⟨id, -, rfl⟩ := List.mem_map.mp ha
  exact ((endsWith_task id).coherent hk endpoint.uri).2

/-! ## Runs without a flaw -/

section

variable {delays : Set Nat}

/-- Each task comes to an attempt without a flaw. -/
def Flawless (p : LoadPlan) (endpoint : Endpoint) (network : Network) (draw : Nat → Scenario.Draw)
    (now : Nat) (delays : Set Nat) : Prop :=
  ∀ id ∈ p.ids, ∃ r, p.task endpoint network draw now id = .ok r ∧
    r.attempt.Flawless p.messages delays

theorem Flawless.of_mem (h : p.Flawless endpoint network draw now delays) :
    ∀ a ∈ p.attempts endpoint network draw now, a.Flawless p.messages delays := by
  intro a ha
  obtain ⟨id, hid, rfl⟩ := List.mem_map.mp ha
  obtain ⟨r, hr, hflawless⟩ := h id hid
  rw [hr]
  exact hflawless

theorem Flawless.task_ne_endless (h : p.Flawless endpoint network draw now delays) :
    ∀ id ∈ p.ids, p.task endpoint network draw now id ≠ .error .endless := by
  intro id hid hend
  obtain ⟨r, hr, -⟩ := h id hid
  cases hend.symm.trans hr

/-- As many responses as there are messages on all connections. -/
theorem Flawless.answered_eq (h : p.Flawless endpoint network draw now delays) :
    total ((p.attempts endpoint network draw now).map Attempt.answeredCount) =
      p.connections * p.messages := by
  rw [total_map_eq fun a ha ↦ (h.of_mem a ha).answered, length_attempts]

theorem Flawless.waited_eq {d : Nat} (h : p.Flawless endpoint network draw now {d}) :
    total ((p.attempts endpoint network draw now).map Attempt.waited) =
      p.connections * (p.messages * (Span.clamp d).nanoseconds) := by
  rw [total_map_eq fun a ha ↦ (h.of_mem a ha).waited_eq, length_attempts]

/-- Against a server, each task at a route of it is without a flaw if no wait is given up. -/
theorem flawless_of_serves {server : Server} {request : Request}
    (hnetwork : network.Serves server delays) (hrequest : Request.ofUri endpoint.uri = .ok request)
    (hroute : server.resolve request = .ok endpoint.transform)
    (hclock : Session.OnClock p.attemptTimeout now)
    (hpatient : ∀ id ∈ p.ids, ∀ r, p.task endpoint network draw now id = .ok r →
      ¬ r.attempt.GaveUp delays) :
    p.Flawless endpoint network draw now delays := by
  intro id hid
  have hsuits : (p.scenario endpoint (draw id)).Suits endpoint.transform :=
    Scenario.burst_suits (draw id) p.messages p.size endpoint.transform
  obtain ⟨r, hr, h⟩ := Session.conduct_served (s := p.session endpoint id) (id - 1) hnetwork
    hrequest hroute hsuits hclock
  refine ⟨r, hr, ?_⟩
  obtain h | h := h
  · rwa [scenario, Scenario.length_burst] at h
  · exact absurd h (hpatient id hid r hr)

/-- The echo route of a server that answers at once lets nothing be given up. -/
theorem flawless_of_unlimited (draw : Nat → Scenario.Draw) (now : Nat)
    (hlimit : p.attemptTimeout = none) :
    p.Flawless .root Server.standard.network draw now {0} := by
  have hclock : Session.OnClock p.attemptTimeout now := by
    rw [hlimit]
    exact nofun
  exact flawless_of_serves Server.standard.network_serves Endpoint.ofUri_root rfl hclock
    fun _ _ r _ ↦ r.attempt.not_gaveUp_zero

end

/-! ## The report -/

/-- What holds of any report on the attempts gathered from the tasks, in the order of their ids,
holds of the report on a load run. -/
theorem Reachable.reportOn_follows (h : p.Reachable endpoint network draw now frail m)
    (ho : p.Over m) (hk : 0 < p.messages) {q : Report → Prop}
    (hq : ∀ r : Report, r.attempts = p.gather endpoint m.ends → q r) :
    Report.Follows (p.gather endpoint m.ends) q (p.reportOn endpoint now m.ends) := by
  refine Report.ofAttempts_follows fun _ average ↦ hq _ ?_
  exact inOrder_of_ids (h.ids_gather ho hk)

/-- The report keeps the attempts as they are gathered. -/
theorem Reachable.exists_report (h : p.Reachable endpoint network draw now frail m) (ho : p.Over m)
    (hk : 0 < p.messages) (hreport : Report.Reportable (p.gather endpoint m.ends)) :
    ∃ r, p.reportOn endpoint now m.ends = .ok r ∧ r.attempts = p.gather endpoint m.ends :=
  (h.reportOn_follows ho hk fun _ hr ↦ hr).exists_ok hreport

/-- The figures of a report on a load run balance, and a task that panicked is one failed attempt in
its place with no message sent. -/
structure Balanced (p : LoadPlan) (ends : List (Nat × TaskEnd)) (r : Report) : Prop where
  accounted : r.Accounted p.connections p.messages
  aborted : ∀ id halt, (id, .error halt) ∈ ends → id ∈ p.ids ∧
    ∃ a, r.attempts[id - 1]? = some a ∧ a.id = id ∧ a.status = .failed ∧ a.sentCount = 0

/-- Once all tasks are joined, the figures balance. -/
theorem Reachable.balanced (h : p.Reachable endpoint network draw now frail m) (ho : p.Over m)
    (hv : p.validate = .ok ()) :
    Report.Follows (p.gather endpoint m.ends) (p.Balanced m.ends)
      (p.reportOn endpoint now m.ends) := by
  obtain ⟨hn, hk⟩ := validate_eq_ok.mp hv
  refine h.reportOn_follows ho hk fun r hr ↦ ⟨?_, ?_⟩
  · refine Report.accounted_of_coherent hn hk ?_ ?_
    · rw [hr]
      exact h.ids_gather ho hk
    · rw [hr]
      exact h.coherent_gather ho hk
  · intro id halt he
    have hid := (h.ends he).1
    refine ⟨hid, _, hr ▸ h.getElem?_gather ho hid, ?_⟩
    rw [h.ended_of_mem he]
    exact ⟨rfl, TaskEnd.status_aborted .., rfl⟩

/-- A task has no end only if its session stalls. -/
theorem stalls_of_task {id : Nat}
    (h : p.task endpoint network draw now id = .error .endless) :
    (p.session endpoint id).Stalls (p.scenario endpoint (draw id)) network (id - 1) now := by
  obtain ⟨hne, -⟩ | ⟨-, hs⟩ := Session.conduct_eq_error h
  · cases hne
  · exact hs

/-- With limits on what its sessions wait for, each task ends. -/
theorem task_ne_endless (hc : p.timeouts.connect ≠ none) (hr : p.timeouts.response ≠ none)
    (id : Nat) : p.task endpoint network draw now id ≠ .error .endless := by
  intro h
  obtain ⟨-, ⟨hnone, -⟩ | ⟨hnone, -⟩⟩ := stalls_of_task h
  · exact hc hnone
  · exact hr hnone

/-- What holds of any report on the attempts of all tasks holds of the report of `run`. -/
theorem run_follows (hk : 0 < p.messages)
    (hend : ∀ id ∈ p.ids, p.task endpoint network draw now id ≠ .error .endless)
    {q : Report → Prop}
    (hq : ∀ r : Report, r.attempts = p.attempts endpoint network draw now → q r) :
    Report.Follows (p.attempts endpoint network draw now) q
      (Course.report <$> p.run endpoint network draw now) := by
  rcases run_cases p endpoint network draw now with ⟨-, id, hid, htask⟩ | ⟨m, hm, ho, hrun⟩
  · exact absurd htask (hend id hid)
  · have hgather := hm.gather_eq_attempts ho
    rw [hrun, ← hgather]
    exact hm.reportOn_follows ho hk fun r hr ↦ hq r (hr.trans hgather)

/-- A run that can have a report has one, unless a task of it has no end. -/
theorem exists_run (hk : 0 < p.messages)
    (hend : ∀ id ∈ p.ids, p.task endpoint network draw now id ≠ .error .endless)
    (hreport : Report.Reportable (p.attempts endpoint network draw now)) :
    ∃ c, p.run endpoint network draw now = .ok c ∧
      c.report.attempts = p.attempts endpoint network draw now := by
  obtain ⟨r, hr, hattempts⟩ := (run_follows hk hend fun _ hr ↦ hr).exists_ok hreport
  obtain ⟨c, hc, rfl⟩ := Halt.map_eq_ok.mp hr
  exact ⟨c, hc, hattempts⟩

/-- The figures of a load run balance, in whatever order its tasks go on and are joined, whatever
becomes of their connections and whichever of them panics. The run as `run` has it is one of these,
unless a task of it stalls. -/
theorem figures_balance (p : LoadPlan) (endpoint : Endpoint) (network : Network)
    (draw : Nat → Scenario.Draw) (now : Nat) (hv : p.validate = .ok ()) :
    (∀ frail m, p.Reachable endpoint network draw now frail m → p.Over m →
      Report.Follows (p.gather endpoint m.ends) (p.Balanced m.ends)
        (p.reportOn endpoint now m.ends)) ∧
    ((p.run endpoint network draw now = .error .endless ∧ ∃ id ∈ p.ids,
        (p.session endpoint id).Stalls (p.scenario endpoint (draw id)) network (id - 1) now) ∨
      ∃ m, p.Reachable endpoint network draw now ∅ m ∧ p.Over m ∧
        Report.Follows (p.gather endpoint m.ends) (p.Balanced m.ends)
          (Course.report <$> p.run endpoint network draw now)) := by
  constructor
  · intro frail m hm ho
    exact hm.balanced ho hv
  · rcases run_cases p endpoint network draw now with ⟨hrun, id, hid, htask⟩ | ⟨m, hm, ho, hrun⟩
    · exact .inl ⟨hrun, id, hid, stalls_of_task htask⟩
    · rw [hrun]
      exact .inr ⟨m, hm, ho, hm.balanced ho hv⟩

/-- If a task panics before the others do anything, these go on and are joined after it. -/
theorem exists_over_of_panic (p : LoadPlan) (endpoint : Endpoint) (network : Network)
    (draw : Nat → Scenario.Draw) (now : Nat) {id : Nat} {halt : Halt} (hid : id ∈ p.ids)
    (hh : halt ≠ .endless)
    (hend : ∀ id ∈ p.ids, p.task endpoint network draw now id ≠ .error .endless) :
    ∃ m, p.Reachable endpoint network draw now {id} m ∧ p.Over m ∧
      m.ends = (id, .error halt) ::
        (p.ids.erase id).map fun id ↦ (id, p.task endpoint network draw now id) := by
  have hpanic : p.Step endpoint network draw now {id} .initial
      (.move .initial id (.over (.error halt))) :=
    .panic hid rfl hh fun _ ↦ Session.Stage.noConfusion
  have hjoin : p.Step endpoint network draw now {id} _ _ :=
    .join hid (Snapshot.stage_move .initial id (.over (.error halt))) List.not_mem_nil
  have hrest : ∀ id' ∈ p.ids.erase id, id' ∈ p.ids := fun _ ↦ List.mem_of_mem_erase
  have hbegun : ∀ id' ∈ p.ids.erase id,
      ((Snapshot.move .initial id (.over (.error halt))).join id (.error halt)).stage id' = .begun ∧
        id' ∉ ((Snapshot.move .initial id (.over (.error halt))).join id (.error halt)).joined := by
    intro id' hid'
    have hne : id' ≠ id := fun heq ↦ (nodup_ids p).not_mem_erase (heq ▸ hid')
    exact ⟨Snapshot.stage_move_of_ne .initial id _ hne, fun hin ↦ hne (List.mem_singleton.mp hin)⟩
  obtain ⟨m, hm, hends⟩ := exists_steps hrest ((nodup_ids p).erase id) hbegun
    fun id' hid' ↦ hend id' (hrest id' hid')
  refine ⟨m, .head hpanic (.head hjoin hm), fun id' hid' ↦ ?_, hends⟩
  rw [Snapshot.joined, hends]
  by_cases heq : id' = id
  · subst heq
    exact List.mem_cons_self
  · have hmem : id' ∈ p.ids.erase id := (List.mem_erase_of_ne heq).mpr hid'
    exact List.mem_cons_of_mem _ (List.mem_map.mpr ⟨_, List.mem_map_of_mem hmem, rfl⟩)

/-- Three connections and two messages on each of them. -/
def trio : LoadPlan := { standard with connections := 3, messages := 2, size := 0 }

/-- The first connection is answered as the client looks for, and all others are not. -/
def mixed : Network :=
  .ofAnswers [.opened (.replying .identity), .opened (.replying (.before "Chat response: "))]

/-- The last of three tasks may panic before the others do anything. The first then succeeds and the
second has no response that it looks for. -/
theorem exists_trio : ∃ m,
    trio.Reachable .root mixed (fun _ _ _ ↦ 0) 0 {3} m ∧ trio.Over m ∧
      m.ends = (3, .error .spanOverflow) ::
        [1, 2].map (fun id ↦ (id, trio.task .root mixed (fun _ _ _ ↦ 0) 0 id)) ∧
      Report.Reportable (trio.gather .root m.ends) := by
  obtain ⟨m, hm, ho, hends⟩ := exists_over_of_panic trio .root mixed (fun _ _ _ ↦ 0) 0
    (show 3 ∈ trio.ids by decide) (show Halt.spanOverflow ≠ .endless by decide)
    fun id _ ↦ task_ne_endless (by decide) (by decide) id
  refine ⟨m, hm, ho, hends, ?_⟩
  rw [hends]
  exact ⟨by decide, by decide⟩

/-- The figures balance if one of three tasks panics and is the first to be joined. -/
theorem figures_balance_trio : ∃ m,
    trio.Reachable .root mixed (fun _ _ _ ↦ 0) 0 {3} m ∧ trio.Over m ∧ m.joined = [3, 1, 2] ∧
      ∃ r, trio.reportOn .root 0 m.ends = .ok r ∧ trio.Balanced m.ends r ∧
        r.totalSent = 4 ∧ r.totalMatched = 2 ∧ r.totalReceived = 2 := by
  obtain ⟨m, hm, ho, hends, hreport⟩ := exists_trio
  have hjoined : m.joined = [3, 1, 2] := by
    rw [Snapshot.joined, hends]
    rfl
  obtain ⟨r, hr, hbalanced⟩ :=
    ((figures_balance trio .root mixed _ 0 rfl).1 {3} m hm ho).exists_ok hreport
  obtain ⟨r', hr', hattempts⟩ := hm.exists_report ho (by decide) hreport
  cases hr.symm.trans hr'
  refine ⟨m, hm, ho, hjoined, r, hr, hbalanced, ?_, ?_, ?_⟩
  · rw [Report.totalSent, hattempts, hends]
    decide
  · rw [Report.totalMatched, hattempts, hends]
    decide
  · rw [Report.totalReceived, hattempts, hends]
    decide

/-- A load run without a flaw has no report if its messages are a multiple of 2^32. -/
theorem Flawless.run_eq_error {delays : Set Nat} (h : p.Flawless endpoint network draw now delays)
    (hv : p.validate = .ok ())
    (hwaited : total ((p.attempts endpoint network draw now).map Attempt.waited) <
      0x10000000000000000 * 1000000000)
    (hdvd : 0x100000000 ∣ p.connections * p.messages) :
    p.run endpoint network draw now = .error .zeroDivisor := by
  obtain ⟨hn, hk⟩ := validate_eq_ok.mp hv
  have hfollows := run_follows hk h.task_ne_endless (q := fun _ ↦ True) fun _ _ ↦ trivial
  refine Halt.map_eq_error.mp (hfollows.zeroDivisor hwaited ?_ ?_)
  · rw [h.answered_eq]
    exact Nat.mul_pos hn hk
  · rw [h.answered_eq]
    exact hdvd

/-- The least number of messages on one connection that is a multiple of 2^32. -/
def vast : LoadPlan := { standard with connections := 1, messages := 0x100000000, size := 0 }

/-- No figures are left of 2^32 messages that all have the response that was looked for. -/
theorem figures_lost :
    vast.validate = .ok () ∧
      (∃ r, vast.task .root Server.standard.network (fun _ _ _ ↦ 0) 0 1 = .ok r ∧
        r.attempt.succeeded = true ∧ r.attempt.matchedCount = vast.messages) ∧
      vast.run .root Server.standard.network (fun _ _ _ ↦ 0) 0 = .error .zeroDivisor := by
  have hflawless := flawless_of_unlimited (p := vast) (fun _ _ _ ↦ 0) 0 rfl
  obtain ⟨r, hr, h⟩ := hflawless 1 (List.mem_singleton_self 1)
  refine ⟨rfl, ⟨r, hr, h.succeeded, h.matched⟩, hflawless.run_eq_error rfl ?_ ?_⟩
  · rw [hflawless.waited_eq]
    decide
  · decide

end LoadPlan

end Lockstep

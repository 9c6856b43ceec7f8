import Lockstep.Proofs.Session.Settled

/-!
# Waits and the deadline of an attempt

An attempt waits for its connection and then for one response after the other. Each wait has a
budget that is settled when it begins: the tighter of its own limit and what is left until the
deadline. So waits that follow one another are over by the deadline, however many they are, and one
that was given up lasted no longer than its own limit and no longer than the whole attempt may.

`InRow` is waits that follow one another, each in its budget. `settles_timed` says that every
attempt consists of such waits, one for its connection and one for each message that it sent, and
that a timeout is the whole budget of one of them.
-/

namespace Lockstep

/-! ## One wait -/

theorem Span.le_min {a b : Span} {n : Nat} :
    n ≤ (a.min b).nanoseconds ↔ n ≤ a.nanoseconds ∧ n ≤ b.nanoseconds := by
  unfold Span.min
  split <;> omega

/-- A wait that is over. -/
structure Lapse where
  /-- The limit of its own. -/
  limit : Option Span
  start : Nat
  took : Nat
deriving DecidableEq, Repr

namespace Lapse

variable {deadline : Option Deadline} {w : Lapse} {d : Span}

def stop (w : Lapse) : Nat := w.start + w.took

/-- The wait lasted no longer than the budget that it began with. -/
def InBudget (deadline : Option Deadline) (w : Lapse) : Prop :=
  ∀ b, budget w.limit deadline w.start = some b → w.took ≤ b.nanoseconds

/-- The wait was given up when all of its budget was used up, which is `d`. -/
def GivenUp (deadline : Option Deadline) (w : Lapse) (d : Span) : Prop :=
  budget w.limit deadline w.start = some d ∧ w.took = d.nanoseconds

/-- A wait is in its budget if it lasts no longer than its own limit and not beyond the deadline. -/
theorem inBudget_iff : w.InBudget deadline ↔
    (∀ l, w.limit = some l → w.took ≤ l.nanoseconds) ∧
      ∀ d, deadline = some d → w.took ≤ d.nanoseconds - w.start := by
  obtain ⟨limit, start, took⟩ := w
  cases limit <;> cases deadline <;> simp [InBudget, budget, Deadline.remaining, Span.le_min]

end Lapse

/-! ## Waits in a row -/

/-- Waits that follow one another from `start` to `stop`, each in its budget. -/
inductive InRow (deadline : Option Deadline) : (start : Nat) → List Lapse → (stop : Nat) → Prop
  | nil {now : Nat} : InRow deadline now [] now
  | cons {w : Lapse} {ws : List Lapse} {stop : Nat} (h : w.InBudget deadline)
      (later : InRow deadline w.stop ws stop) : InRow deadline w.start (w :: ws) stop

namespace InRow

variable {deadline : Option Deadline} {start stop : Nat} {ws : List Lapse} {d : Deadline}

theorem stop_eq (h : InRow deadline start ws stop) :
    stop = start + total (ws.map Lapse.took) := by
  induction h with
  | nil => rfl
  | cons _ _ ih => rw [ih, Lapse.stop, List.map_cons, total_cons, Nat.add_assoc]

theorem inBudget (h : InRow deadline start ws stop) : ∀ w ∈ ws, w.InBudget deadline := by
  induction h with
  | nil => exact nofun
  | cons h _ ih => exact List.forall_mem_cons.mpr ⟨h, ih⟩

/-- Each of the waits lies between the begin of the first and the end of the last. -/
theorem between (h : InRow deadline start ws stop) :
    start ≤ stop ∧ ∀ w ∈ ws, start ≤ w.start ∧ w.stop ≤ stop := by
  induction h with
  | nil => exact ⟨Nat.le_refl _, nofun⟩
  | @cons w ws stop _ _ ih =>
    obtain ⟨hle, hws⟩ := ih
    have hstart : w.start ≤ w.stop := Nat.le_add_right ..
    refine ⟨Nat.le_trans hstart hle, List.forall_mem_cons.mpr ⟨⟨Nat.le_refl _, hle⟩, ?_⟩⟩
    exact fun v hv ↦ ⟨Nat.le_trans hstart (hws v hv).1, (hws v hv).2⟩

/-- Waits that begin before the deadline are over by then. -/
theorem stop_le (h : InRow (some d) start ws stop) (hstart : start ≤ d.nanoseconds) :
    stop ≤ d.nanoseconds := by
  induction h with
  | nil => exact hstart
  | @cons w ws stop h _ ih =>
    have hleft := (Lapse.inBudget_iff.mp h).2 d rfl
    refine ih ?_
    unfold Lapse.stop
    omega

end InRow

theorem Deadline.nanoseconds_of_after {now : Nat} {limit : Span} {d : Deadline}
    (h : after now limit = .ok d) : d.nanoseconds = now + limit.nanoseconds := by
  unfold after at h
  split at h
  · cases h
    rfl
  · cases h

/-! ## The waits of an exchange -/

namespace Wait

variable {α : Type} {limit : Option Span} {deadline : Option Deadline} {now : Nat}
  {arrival : Option (Nat × α)}

/-- A wait for what came lasted as long as that took, which is in the budget. -/
theorem inBudget_of_ready {took : Nat} {a : α}
    (h : within (budget limit deadline now) arrival = ready took a) :
    Lapse.InBudget deadline ⟨limit, now, took⟩ := (within_eq_ready.mp h).2

/-- A wait for what did not come lasted as long as it might. -/
theorem givenUp_of_expired {l : Span}
    (h : within (budget limit deadline now) arrival = expired l) :
    Lapse.GivenUp deadline ⟨limit, now, l.nanoseconds⟩ l := ⟨limit_of_within_eq_expired h, rfl⟩

end Wait

theorem Lapse.GivenUp.inBudget {deadline : Option Deadline} {w : Lapse} {d : Span}
    (h : w.GivenUp deadline d) : w.InBudget deadline := by
  intro b hb
  cases h.1.symm.trans hb
  exact Nat.le_of_eq h.2

namespace Connection

variable {c : Connection} {limit : Option Span} {deadline : Option Deadline} {r : Response}

theorem now_send (c : Connection) (p : Payload) : (c.send p).connection.now = c.now := by
  unfold send
  split <;> rfl

theorem ne_timeout_of_result? {a : Arrival} {cause : Fault}
    (h : a.result? = some (.error cause)) (d : Span) :
    cause ≠ .connectTimeout d ∧ cause ≠ .responseTimeout d := by
  obtain ⟨delay, (p | b | b | b) | e⟩ := a <;> cases h
  · exact ⟨nofun, nofun⟩
  · cases e <;> exact ⟨nofun, nofun⟩

/-- A response is one wait, and a timeout is all of its budget. -/
theorem receive_lapse (h : c.receive (budget limit deadline c.now) = .ok r) :
    ∃ w : Lapse, w.limit = limit ∧ w.start = c.now ∧ w.stop = r.connection.now ∧
      w.InBudget deadline ∧ ∀ cause, r.result = .error cause → ∀ d,
        cause ≠ .connectTimeout d ∧ (cause = .responseTimeout d → w.GivenUp deadline d) := by
  unfold receive at h
  split at h
  · rename_i took result rest hw
    cases h
    refine ⟨⟨limit, c.now, took⟩, rfl, rfl, rfl, Wait.inBudget_of_ready hw, ?_⟩
    intro cause hcause d
    obtain ⟨-, a, -, -, ha⟩ := eq_append_of_nextPayload?_eq_some (Wait.within_eq_ready.mp hw).1
    obtain ⟨hconnect, hresponse⟩ := ne_timeout_of_result? (ha.trans (congrArg some hcause)) d
    exact ⟨hconnect, fun h ↦ absurd h hresponse⟩
  · rename_i l hw
    cases h
    have hgiven := Wait.givenUp_of_expired hw
    refine ⟨⟨limit, c.now, l.nanoseconds⟩, rfl, rfl, rfl, hgiven.inBudget, ?_⟩
    rintro _ ⟨⟩ d
    refine ⟨nofun, ?_⟩
    rintro ⟨⟩
    exact hgiven
  · cases h

end Connection

namespace Session

variable {limit : Option Span} {deadline : Option Deadline} {index : Nat} {steps : List Step}
  {c : Connection} {x : Exchange}

/-- An exchange consists of waits in a row, one for each message that it sent, and a timeout is all
of the budget of one of them. -/
theorem exchange_inRow (h : exchange limit deadline index steps c = .ok x) :
    ∃ ws, InRow deadline c.now ws x.connection.now ∧
      ws.map Lapse.limit = List.replicate (x.outcomes.countP Outcome.sent) limit ∧
      ∀ d, x.fault ≠ some (.connectTimeout d) ∧
        (x.fault = some (.responseTimeout d) → ∃ w ∈ ws, w.GivenUp deadline d) := by
  induction steps generalizing index c x with
  | nil =>
    cases h
    exact ⟨[], .nil, rfl, fun d ↦ ⟨nofun, nofun⟩⟩
  | cons step rest ih =>
    have hsend := c.now_send step.payload
    rcases exchange_cons_cases h with ⟨cause, -, rfl⟩ | ⟨r, -, hr, hx⟩
    · refine ⟨[], ?_, ?_, fun d ↦ ⟨nofun, nofun⟩⟩
      · rw [← hsend]
        exact .nil
      · rw [Exchange.unwritten, List.countP_cons, countP_abandoned fun _ ↦ rfl]
        rfl
    obtain ⟨w, rfl, hstart, hstop, hbudget, htimeout⟩ := Connection.receive_lapse hr
    rw [hsend] at hstart
    rcases hx with ⟨cause, hcause, rfl⟩ | ⟨p, later, -, hlater, rfl⟩
    · refine ⟨[w], ?_, ?_, fun d ↦ ⟨?_, ?_⟩⟩
      · rw [← hstart]
        refine .cons hbudget ?_
        rw [hstop]
        exact .nil
      · rw [Exchange.unheard, List.countP_cons, countP_abandoned fun _ ↦ rfl]
        rfl
      · exact fun hf ↦ (htimeout cause hcause d).1 (Option.some.inj hf)
      · exact fun hf ↦ ⟨w, List.mem_cons_self, (htimeout cause hcause d).2 (Option.some.inj hf)⟩
    · obtain ⟨ws, hrow, hlimits, hfault⟩ := ih hlater
      refine ⟨w :: ws, ?_, ?_, fun d ↦ ⟨(hfault d).1, fun hf ↦ ?_⟩⟩
      · rw [← hstart]
        refine .cons hbudget ?_
        rw [hstop]
        exact hrow
      · rw [List.map_cons, hlimits, Exchange.answered, List.countP_cons]
        rfl
      · obtain ⟨v, hv, hgiven⟩ := (hfault d).2 hf
        exact ⟨v, List.mem_cons_of_mem _ hv, hgiven⟩

end Session

/-! ## The waits of an attempt -/

namespace Network

variable {n : Network} {index now : Nat} {uri : String} {limit : Option Span}
  {deadline : Option Deadline} {o : Opening}

/-- A connection is one wait, and a timeout is all of its budget, if a request is sent. -/
theorem connect_lapse (h : n.connect index uri (budget limit deadline now) now = .ok o) :
    (o.requested = false ∧ o.now = now ∧ ∃ e, o.result = .error (.socket (.uri e))) ∨
    o.requested = true ∧ ∃ w : Lapse, w.limit = limit ∧ w.start = now ∧ w.stop = o.now ∧
      w.InBudget deadline ∧ ∀ cause, o.result = .error cause → ∀ d,
        cause ≠ .responseTimeout d ∧ (cause = .connectTimeout d → w.GivenUp deadline d) := by
  unfold connect at h
  split at h
  · rename_i e _
    cases h
    exact .inl ⟨rfl, rfl, e, rfl⟩
  right
  split at h
  · rename_i took peer hw
    cases h
    exact ⟨rfl, ⟨limit, now, took⟩, rfl, rfl, rfl, Wait.inBudget_of_ready hw, nofun⟩
  · rename_i took e hw
    cases h
    refine ⟨rfl, ⟨limit, now, took⟩, rfl, rfl, rfl, Wait.inBudget_of_ready hw, ?_⟩
    rintro _ ⟨⟩ d
    unfold openFault
    split <;> exact ⟨nofun, nofun⟩
  · rename_i l hw
    cases h
    have hgiven := Wait.givenUp_of_expired hw
    refine ⟨rfl, ⟨limit, now, l.nanoseconds⟩, rfl, rfl, rfl, hgiven.inBudget, ?_⟩
    rintro _ ⟨⟩ d
    refine ⟨nofun, ?_⟩
    rintro ⟨⟩
    exact hgiven
  · cases h

theorem now_of_connect {c : Connection} (h : n.connect index uri limit now = .ok o)
    (hc : o.result = .ok c) : c.now = o.now := by
  unfold connect at h
  split at h
  · cases h
    cases hc
  · split at h <;> cases h <;> cases hc
    rfl

end Network

namespace Session

variable {s : Session} {scenario : Scenario} {network : Network} {index now : Nat}

/-- An attempt that begins at `now` consists of the waits `ws`. -/
structure Timed (s : Session) (now : Nat) (deadline : Option Deadline) (ws : List Lapse)
    (r : Record) : Prop where
  inRow : InRow deadline now ws r.finished
  /-- One wait for the connection, and one for the response to each message that was sent. -/
  limits : ws.map Lapse.limit = if r.requested then
    s.timeouts.connect :: List.replicate r.attempt.sentCount s.timeouts.response else []
  connectTimeout : ∀ d, r.attempt.fault = some (.connectTimeout d) →
    ∃ w ∈ ws, w.limit = s.timeouts.connect ∧ w.GivenUp deadline d
  responseTimeout : ∀ d, r.attempt.fault = some (.responseTimeout d) →
    ∃ w ∈ ws, w.limit = s.timeouts.response ∧ w.GivenUp deadline d

theorem timed_unopened {deadline : Option Deadline} {o : Network.Opening} {cause : Fault}
    (scenario : Scenario) (ho : s.opening network index now deadline = .ok o)
    (hc : o.result = .error cause) :
    ∃ ws, s.Timed now deadline ws ⟨s.unopened scenario cause, [], o.now, o.requested⟩ := by
  rcases Network.connect_lapse ho with
    ⟨hrequested, hnow, e, he⟩ | ⟨hrequested, w, hlimit, rfl, hstop, hbudget, htimeout⟩
  · cases hc.symm.trans he
    refine ⟨[], ?_, ?_, nofun, nofun⟩
    · rw [hnow]
      exact .nil
    · rw [hrequested]
      rfl
  · refine ⟨[w], .cons hbudget ?_, ?_, ?_, ?_⟩
    · rw [hstop]
      exact .nil
    · dsimp only
      rw [hrequested, sentCount_unopened, List.map_cons, hlimit]
      rfl
    · intro d hd
      exact ⟨w, List.mem_cons_self, hlimit, (htimeout cause hc d).2 (Option.some.inj hd)⟩
    · intro d hd
      exact absurd (Option.some.inj hd) (htimeout cause hc d).1

theorem timed_closed {deadline : Option Deadline} {o : Network.Opening} {c : Connection}
    {x : Exchange} (ho : s.opening network index now deadline = .ok o) (hc : o.result = .ok c)
    (hx : exchange s.timeouts.response deadline 0 scenario.steps c = .ok x) :
    ∃ ws, s.Timed now deadline ws (s.recordOf scenario o.requested x) := by
  rcases Network.connect_lapse ho with
    ⟨-, -, e, he⟩ | ⟨hrequested, w, hlimit, rfl, hstop, hbudget, -⟩
  · cases hc.symm.trans he
  obtain ⟨ws, hrow, hlimits, hfault⟩ := exchange_inRow hx
  have hresponses : ∀ v ∈ ws, v.limit = s.timeouts.response := fun v hv ↦
    List.eq_of_mem_replicate (hlimits ▸ List.mem_map_of_mem hv)
  refine ⟨w :: ws, .cons hbudget ?_, ?_, ?_, ?_⟩
  · rw [hstop, ← Network.now_of_connect ho hc]
    exact hrow
  · dsimp only [recordOf]
    rw [hrequested, List.map_cons, hlimit, hlimits]
    rfl
  · exact fun d hd ↦ absurd hd (hfault d).1
  · intro d hd
    obtain ⟨v, hv, hgiven⟩ := (hfault d).2 hd
    exact ⟨v, List.mem_cons_of_mem _ hv, hresponses v hv, hgiven⟩

/-- Every attempt consists of waits in a row. -/
theorem settles_timed (s : Session) (scenario : Scenario) (network : Network) (index now : Nat) :
    s.Settles scenario network index now fun r ↦
      ∃ deadline ws, s.deadline now = .ok deadline ∧ s.Timed now deadline ws r := by
  refine settles_of_opening ?_ ?_
  · intro deadline o cause hd ho hc
    obtain ⟨ws, h⟩ := timed_unopened scenario ho hc
    exact ⟨deadline, ws, hd, h⟩
  · intro deadline o peer start x hd ho hc hx
    obtain ⟨ws, h⟩ := timed_closed ho hc hx
    exact ⟨deadline, ws, hd, h⟩

/-! ## In time -/

/-- The span is within the limit on one wait and within that on the whole attempt, as far as they
are set, and one of them is. -/
structure Admits (own whole : Option Span) (d : Span) : Prop where
  isSome : own.isSome = true ∨ whole.isSome = true
  le_own : ∀ l, own = some l → d.nanoseconds ≤ l.nanoseconds
  le_whole : ∀ l, whole = some l → d.nanoseconds ≤ l.nanoseconds

theorem deadline_eq_ok {deadline : Option Deadline} (h : s.deadline now = .ok deadline) :
    (s.attemptTimeout = none ∧ deadline = none) ∨
      ∃ limit d, s.attemptTimeout = some limit ∧ deadline = some d ∧
        d.nanoseconds = now + limit.nanoseconds := by
  unfold Session.deadline at h
  split at h
  · rename_i limit hlimit
    obtain ⟨d, hd, rfl⟩ := Halt.map_eq_ok.mp h
    exact .inr ⟨limit, d, hlimit, rfl, Deadline.nanoseconds_of_after hd⟩
  · cases h
    exact .inl ⟨‹_›, rfl⟩

/-- A timeout is within the limits on the wait that was given up. -/
theorem admits_of_givenUp {deadline : Option Deadline} {ws : List Lapse} {stop : Nat} {w : Lapse}
    {d : Span} (hd : s.deadline now = .ok deadline) (hrow : InRow deadline now ws stop)
    (hw : w ∈ ws) (h : w.GivenUp deadline d) : Admits w.limit s.attemptTimeout d := by
  have hown : ∀ l, w.limit = some l → d.nanoseconds ≤ l.nanoseconds := fun l hl ↦
    h.2 ▸ (Lapse.inBudget_iff.mp h.inBudget).1 l hl
  rcases deadline_eq_ok hd with ⟨hwhole, rfl⟩ | ⟨limit, e, hwhole, rfl, he⟩
  · have hlimit : w.limit = some d := (budget_none ..).symm.trans h.1
    exact ⟨.inl (hlimit ▸ rfl), hown, by simp [hwhole]⟩
  · refine ⟨.inr (hwhole ▸ rfl), hown, fun l hl ↦ ?_⟩
    cases hwhole.symm.trans hl
    have hstop := hrow.stop_le (by omega)
    obtain ⟨hfirst, hlast⟩ := hrow.between.2 w hw
    have htook := h.2
    unfold Lapse.stop at hlast
    omega

end Session

/-- Waits in a row that begin with the attempt are over by its deadline and add up to no more than
the limit on it, however many they are, and none of them lasts longer than its own limit. Without a
deadline the budget of a wait is its own limit, and it has none exactly if there is neither. An
attempt consists of such waits. So it is over in time, and a timeout that it reports is within the
limits on the operation and on the attempt; there is none where neither is set. -/
theorem waits_in_time :
    (∀ start limit d, Deadline.after start limit = .ok d →
      ∀ ws stop, InRow (some d) start ws stop →
        (∀ w ∈ ws, w.stop ≤ start + limit.nanoseconds) ∧
          total (ws.map Lapse.took) ≤ limit.nanoseconds) ∧
    (∀ deadline start ws stop, InRow deadline start ws stop →
      ∀ w ∈ ws, ∀ l, w.limit = some l → w.took ≤ l.nanoseconds) ∧
    (∀ limit now, budget limit none now = limit) ∧
    (∀ limit deadline now, budget limit deadline now = none ↔ limit = none ∧ deadline = none) ∧
    ∀ (s : Session) scenario network index now, s.Settles scenario network index now fun r ↦
      (∃ deadline ws, s.deadline now = .ok deadline ∧ s.Timed now deadline ws r) ∧
      (∀ limit, s.attemptTimeout = some limit → r.finished ≤ now + limit.nanoseconds) ∧
      (∀ d, r.attempt.fault = some (.connectTimeout d) →
        Session.Admits s.timeouts.connect s.attemptTimeout d) ∧
      ∀ d, r.attempt.fault = some (.responseTimeout d) →
        Session.Admits s.timeouts.response s.attemptTimeout d := by
  refine ⟨?_, fun deadline start ws stop h w hw ↦ (Lapse.inBudget_iff.mp (h.inBudget w hw)).1,
    budget_none, fun limit deadline now ↦ budget_eq_none, ?_⟩
  · intro start limit d hd ws stop h
    have hdeadline := Deadline.nanoseconds_of_after hd
    have hstop := h.stop_le (by omega)
    have htotal := h.stop_eq
    refine ⟨fun w hw ↦ ?_, by omega⟩
    have hlast := (h.between.2 w hw).2
    omega
  · intro s scenario network index now
    refine Session.settles_of_conduct fun r hr ↦ ?_
    obtain ⟨deadline, ws, hd, htimed⟩ := (s.settles_timed scenario network index now).of_conduct hr
    refine ⟨⟨deadline, ws, hd, htimed⟩, fun limit hlimit ↦ ?_, fun d hf ↦ ?_, fun d hf ↦ ?_⟩
    · rcases Session.deadline_eq_ok hd with ⟨hnone, -⟩ | ⟨l, e, hl, rfl, he⟩
      · cases hnone.symm.trans hlimit
      · cases hl.symm.trans hlimit
        have hstop := htimed.inRow.stop_le (by omega)
        omega
    · obtain ⟨w, hw, hlimit, hgiven⟩ := htimed.connectTimeout d hf
      exact hlimit ▸ Session.admits_of_givenUp hd htimed.inRow hw hgiven
    · obtain ⟨w, hw, hlimit, hgiven⟩ := htimed.responseTimeout d hf
      exact hlimit ▸ Session.admits_of_givenUp hd htimed.inRow hw hgiven

/-- The second of two messages waits only for what the first has left of the time. -/
example :
    let peer := { Peer.silent with greeting := [⟨3000000, .message (.data (.text "a"))⟩] }
    let scenario := Scenario.empty "pair" |>.pushEcho (.text "a") |>.pushEcho (.text "b")
    let s := { Session.nearby with attemptTimeout := some (.ofMilliseconds 5) }
    Attempt.fault <$> s.run scenario (.ofAnswers [.opened peer]) 0 0 =
      .ok (some (.responseTimeout (.ofMilliseconds 2))) := by
  rfl

end Lockstep

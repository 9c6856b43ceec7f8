import Lockstep.Proofs.Session.Accounting

/-!
# Verdicts do not steer

What a message is judged to be has no bearing on what is done next. So what becomes of a message
depends on the messages up to it and on its own predicate, and not on the predicates before it or on
anything after it; and attempts at the same messages take the same course whatever is looked for,
but for the verdicts and for how they are closed.

Without a limit on the attempt as a whole it makes no difference either when the attempt begins.
-/

namespace Lockstep

/-- Both scenarios have the same message at position `i`, with the same predicate, and before it
messages that carry the same. -/
structure Scenario.AgreeAt (a b : Scenario) (i : Nat) : Prop where
  payloads : a.payloads.take i = b.payloads.take i
  step : ∃ step, a.steps[i]? = some step ∧ b.steps[i]? = some step

/-- What an outcome says besides the verdict. -/
def Outcome.circumstances (o : Outcome) : Nat × Bool × Option Span := (o.index, o.sent, o.roundTrip)

/-! ## When an attempt begins -/

namespace Connection

/-- The connection on a clock that is `k` nanoseconds ahead. -/
def ahead (k : Nat) (c : Connection) : Connection := { c with now := c.now + k }

theorem send_ahead (k : Nat) (c : Connection) (p : Payload) :
    (c.ahead k).send p = ⟨(c.send p).fault, (c.send p).connection.ahead k⟩ := by
  have hpeer : (c.ahead k).peer.writeFault (c.ahead k).sent = c.peer.writeFault c.sent := rfl
  rw [send, send, hpeer]
  cases c.peer.writeFault c.sent <;> rfl

/-- A wait with a limit of its own, or with none, ends in the same way on any clock. -/
theorem receive_ahead (k : Nat) (c : Connection) (limit : Option Span) :
    (c.ahead k).receive limit =
      (fun r ↦ { r with connection := r.connection.ahead k }) <$> c.receive limit := by
  have hinbox : (c.ahead k).inbox = c.inbox := rfl
  rw [receive, receive, hinbox]
  rcases Wait.within limit (nextPayload? 0 c.inbox) with ⟨t, result, rest⟩ | l | _
  · simp [ahead, note, Functor.map, Except.map, Nat.add_right_comm]
  · simp [ahead, note, Functor.map, Except.map, Nat.add_right_comm]
  · rfl

end Connection

/-- The opening on a clock that is `k` nanoseconds ahead. -/
def Network.Opening.ahead (k : Nat) (o : Opening) : Opening :=
  { o with result := o.result.map (Connection.ahead k), now := o.now + k }

theorem Network.connect_ahead (k : Nat) (n : Network) (index : Nat) (uri : String)
    (limit : Option Span) (now : Nat) :
    n.connect index uri limit (now + k) = Opening.ahead k <$> n.connect index uri limit now := by
  unfold connect
  cases Request.ofUri uri with
  | error e => rfl
  | ok request =>
    dsimp only
    rcases Wait.within limit (n.answer index request).arrival? with ⟨t, cause | peer⟩ | l | _
    · simp [Opening.ahead, Functor.map, Except.map, Nat.add_right_comm]
    · simp [Opening.ahead, Connection.ahead, Connection.start, Functor.map, Except.map,
        Nat.add_right_comm]
    · simp [Opening.ahead, Functor.map, Except.map, Nat.add_right_comm]
    · rfl

namespace Session

/-- The exchange on a clock that is `k` nanoseconds ahead. -/
def Exchange.ahead (k : Nat) (x : Exchange) : Exchange :=
  { x with connection := x.connection.ahead k }

/-- The record on a clock that is `k` nanoseconds ahead. -/
def Record.ahead (k : Nat) (r : Record) : Record := { r with finished := r.finished + k }

theorem exchange_ahead (k : Nat) (limit : Option Span) (index : Nat) (steps : List Step)
    (c : Connection) :
    exchange limit none index steps (c.ahead k) =
      Exchange.ahead k <$> exchange limit none index steps c := by
  induction steps generalizing index c with
  | nil => rfl
  | cons step rest ih =>
    rw [exchange, exchange, Connection.send_ahead]
    dsimp only
    cases (c.send step.payload).fault with
    | some cause => rfl
    | none =>
      dsimp only
      rw [budget_none, budget_none, Connection.receive_ahead]
      cases (c.send step.payload).connection.receive limit with
      | error halt => rfl
      | ok r =>
        obtain ⟨cause | p, took, w⟩ := r
        · rfl
        · have hlater := ih (index + 1) w
          change exchange limit none (index + 1) rest (w.ahead k) >>= _ =
            Exchange.ahead k <$> (exchange limit none (index + 1) rest w >>= _)
          rw [hlater]
          cases exchange limit none (index + 1) rest w <;> rfl

variable {s : Session} {scenario a b : Scenario} {network : Network} {i index now : Nat}
  {limit : Option Span} {deadline : Option Deadline} {steps steps' rest rest' : List Step}
  {step step' : Step} {c : Connection} {x x' : Exchange}

/-- Without a limit on it as a whole, an attempt takes the same course whenever it begins. -/
theorem conduct_ahead (k : Nat) (h : s.attemptTimeout = none) (scenario : Scenario)
    (network : Network) (index now : Nat) :
    s.conduct scenario network index (now + k) =
      Record.ahead k <$> s.conduct scenario network index now := by
  have hd : ∀ now, s.deadline now = .ok none := by
    intro now
    rw [deadline, h]
  have hopening : s.opening network index (now + k) none =
      Network.Opening.ahead k <$> s.opening network index now none := by
    rw [opening, opening, budget_none, budget_none, Network.connect_ahead]
  rw [conduct, conduct, hd, hd, Halt.ok_bind, Halt.ok_bind, hopening]
  cases s.opening network index now none with
  | error halt => rfl
  | ok o =>
    obtain ⟨cause | c, t, requested⟩ := o
    · rfl
    · change exchange s.timeouts.response none 0 scenario.steps (c.ahead k) >>= _ =
        Record.ahead k <$> (exchange s.timeouts.response none 0 scenario.steps c >>= _)
      rw [exchange_ahead]
      cases exchange s.timeouts.response none 0 scenario.steps c <;> rfl

/-! ## Two exchanges of the same messages -/

/-- All that can happen at one message of two exchanges, if it carries the same in both: they go on
in the same way. -/
theorem exchange_cons_both (hpayload : step.payload = step'.payload)
    (h : exchange limit deadline index (step :: rest) c = .ok x)
    (h' : exchange limit deadline index (step' :: rest') c = .ok x') :
    (∃ cause w, x = .unwritten index cause rest w ∧ x' = .unwritten index cause rest' w) ∨
    (∃ cause w, x = .unheard index cause rest w ∧ x' = .unheard index cause rest' w) ∨
    ∃ p took w later later',
      exchange limit deadline (index + 1) rest w = .ok later ∧
      exchange limit deadline (index + 1) rest' w = .ok later' ∧
      x = .answered index (step.predicate.evaluate step.payload p) took later ∧
      x' = .answered index (step'.predicate.evaluate step'.payload p) took later' := by
  have hcases := exchange_cons_cases h
  have hcases' := exchange_cons_cases h'
  rw [← hpayload] at hcases'
  rcases hcases with ⟨cause, hf, rfl⟩ | ⟨r, hn, hr, hx⟩
  · rcases hcases' with ⟨cause', hf', rfl⟩ | ⟨r', hn', -⟩
    · cases hf.symm.trans hf'
      exact .inl ⟨_, _, rfl, rfl⟩
    · cases hf.symm.trans hn'
  rcases hcases' with ⟨cause', hf', -⟩ | ⟨r', -, hr', hx'⟩
  · cases hn.symm.trans hf'
  cases hr.symm.trans hr'
  rcases hx with ⟨cause, he, rfl⟩ | ⟨p, later, hp, hl, rfl⟩
  · rcases hx' with ⟨cause', he', rfl⟩ | ⟨p', later', hp', -⟩
    · cases he.symm.trans he'
      exact .inr (.inl ⟨_, _, rfl, rfl⟩)
    · cases he.symm.trans hp'
  · rcases hx' with ⟨cause', he', -⟩ | ⟨p', later', hp', hl', rfl⟩
    · cases hp.symm.trans he'
    · cases hp.symm.trans hp'
      refine .inr (.inr ⟨p, r.took, r.connection, later, later', hl, hl', rfl, ?_⟩)
      rw [hpayload]

theorem getElem?_abandoned (cause : Fault) (h : i < steps.length) :
    (Exchange.abandoned cause index steps)[i]? = some (.unanswered (index + i) false cause) := by
  induction steps generalizing i index with
  | nil => cases h
  | cons step rest ih =>
    cases i with
    | zero => rfl
    | succ i =>
      rw [Exchange.abandoned, List.getElem?_cons_succ, ih (Nat.lt_of_succ_lt_succ h),
        Nat.add_right_comm, Nat.add_assoc]

/-- Two exchanges that have one message in common, and before it messages that carry the same, have
one outcome for it. -/
theorem exchange_outcome_eq
    (hp : (steps.map Step.payload).take i = (steps'.map Step.payload).take i)
    (hs : steps[i]? = some step) (hs' : steps'[i]? = some step)
    (h : exchange limit deadline index steps c = .ok x)
    (h' : exchange limit deadline index steps' c = .ok x') :
    ∃ o, x.outcomes[i]? = some o ∧ x'.outcomes[i]? = some o := by
  -- On the position. As long as the messages agree, both exchanges are on one connection.
  induction i generalizing steps steps' index c x x' with
  | zero =>
    obtain ⟨rest, rfl⟩ : ∃ rest, steps = step :: rest := by
      cases steps <;> cases hs
      exact ⟨_, rfl⟩
    obtain ⟨rest', rfl⟩ : ∃ rest, steps' = step :: rest := by
      cases steps' <;> cases hs'
      exact ⟨_, rfl⟩
    rcases exchange_cons_both rfl h h' with
      ⟨_, _, rfl, rfl⟩ | ⟨_, _, rfl, rfl⟩ | ⟨_, _, _, _, _, -, -, rfl, rfl⟩
    · exact ⟨_, rfl, rfl⟩
    · exact ⟨_, rfl, rfl⟩
    · exact ⟨_, rfl, rfl⟩
  | succ i ih =>
    cases steps with
    | nil => cases hs
    | cons first rest =>
    cases steps' with
    | nil => cases hs'
    | cons first' rest' =>
      rw [List.map_cons, List.map_cons, List.take_succ_cons, List.take_succ_cons,
        List.cons.injEq] at hp
      rw [List.getElem?_cons_succ] at hs hs'
      obtain ⟨hi, -⟩ := List.getElem?_eq_some_iff.mp hs
      obtain ⟨hi', -⟩ := List.getElem?_eq_some_iff.mp hs'
      rcases exchange_cons_both hp.1 h h' with
        ⟨_, _, rfl, rfl⟩ | ⟨_, _, rfl, rfl⟩ | ⟨_, _, _, _, _, hl, hl', rfl, rfl⟩
      · exact ⟨_, getElem?_abandoned _ hi, getElem?_abandoned _ hi'⟩
      · exact ⟨_, getElem?_abandoned _ hi, getElem?_abandoned _ hi'⟩
      · exact ih hp.2 hs hs' hl hl'

/-- Messages that are not sent fail alike, whatever they carry. -/
theorem abandoned_congr (cause : Fault) (index : Nat) (h : steps.length = steps'.length) :
    Exchange.abandoned cause index steps = Exchange.abandoned cause index steps' := by
  induction steps generalizing index steps' with
  | nil =>
    cases steps' with
    | nil => rfl
    | cons => cases h
  | cons step rest ih =>
    cases steps' with
    | nil => cases h
    | cons step' rest' =>
      rw [Exchange.abandoned, Exchange.abandoned, ih _ (Nat.succ.inj h)]

/-- The exchanges differ at most in the verdicts. -/
structure Exchange.SameCourse (x x' : Exchange) : Prop where
  trail : x'.trail = x.trail
  fault : x'.fault = x.fault
  connection : x'.connection = x.connection
  outcomes : x'.outcomes.map Outcome.circumstances = x.outcomes.map Outcome.circumstances

/-- Exchanges of messages that carry the same take the same course, whatever is looked for. -/
theorem exchange_sameCourse (hp : steps.map Step.payload = steps'.map Step.payload)
    (limit : Option Span) (deadline : Option Deadline) (index : Nat) (c : Connection) :
    Halt.Alike Exchange.SameCourse (fun _ ↦ False) (exchange limit deadline index steps c)
      (exchange limit deadline index steps' c) := by
  induction steps generalizing steps' index c with
  | nil =>
    cases steps' with
    | nil => exact .ok ⟨rfl, rfl, rfl, rfl⟩
    | cons => cases hp
  | cons step rest ih =>
    cases steps' with
    | nil => cases hp
    | cons step' rest' =>
      obtain ⟨hfirst, hrest⟩ := List.cons.inj hp
      have hlength : rest.length = rest'.length := by
        simpa using congrArg List.length hrest
      rw [exchange, exchange, ← hfirst]
      cases (c.send step.payload).fault with
      | some cause =>
        refine .ok ⟨rfl, rfl, rfl, ?_⟩
        rw [Exchange.unwritten, Exchange.unwritten, abandoned_congr _ _ hlength]
      | none =>
        refine .bind_same _ fun r ↦ ?_
        cases r.result with
        | error cause =>
          refine .ok ⟨rfl, rfl, rfl, ?_⟩
          rw [Exchange.unheard, Exchange.unheard, abandoned_congr _ _ hlength]
        | ok p =>
          refine (ih hrest (index + 1) r.connection).bind ?_ fun _ h ↦ h.elim
          intro later later' h
          exact .ok ⟨congrArg (_ :: _ :: ·) h.trail, h.fault, h.connection,
            congrArg (_ :: ·) h.outcomes⟩

/-! ## Two attempts at the same messages -/

/-- The records of two attempts, one of which began at `start` and the other at `start'`, differ at
most in the verdicts and in how the attempts are closed. -/
structure Record.SameCourse (r : Record) (start start' : Nat) (r' : Record) : Prop where
  traffic : r'.traffic = r.traffic
  requested : r'.requested = r.requested
  fault : r'.attempt.fault = r.attempt.fault
  trail : r'.attempt.trail.dropLast = r.attempt.trail.dropLast
  state : r'.attempt.state = r.attempt.state ∨
    (∃ e, r.attempt.state = .closed e) ∧ ∃ e', r'.attempt.state = .closed e'
  outcomes : r'.attempt.outcomes.map Outcome.circumstances =
    r.attempt.outcomes.map Outcome.circumstances
  duration : r'.finished + start = r.finished + start'

theorem sameCourse_unopened (h : a.length = b.length) (s : Session) (cause : Fault)
    (t start : Nat) (requested : Bool) :
    Record.SameCourse ⟨s.unopened a cause, [], t, requested⟩ start start
      ⟨s.unopened b cause, [], t, requested⟩ where
  traffic := rfl
  requested := rfl
  fault := rfl
  trail := rfl
  state := .inl rfl
  outcomes := by
    rw [outcomes_unopened, outcomes_unopened, abandoned_congr _ _ h]
  duration := rfl

theorem sameCourse_recordOf (h : x.SameCourse x') (s : Session) (start : Nat) (requested : Bool) :
    (s.recordOf a requested x).SameCourse start start (s.recordOf b requested x') where
  traffic := congrArg Connection.traffic h.connection
  requested := rfl
  fault := h.fault
  trail := by
    rw [recordOf, recordOf, trail_closed, trail_closed, List.dropLast_concat, List.dropLast_concat,
      h.trail]
  state := .inr ⟨⟨_, rfl⟩, _, rfl⟩
  outcomes := h.outcomes
  duration := congrArg (· + start) (congrArg Connection.now h.connection)

/-- The course is the same however far the clocks are ahead. -/
theorem Record.SameCourse.ahead {r r' : Record} (h : r.SameCourse 0 0 r') (k k' : Nat) :
    (r.ahead k).SameCourse (0 + k) (0 + k') (r'.ahead k') where
  traffic := h.traffic
  requested := h.requested
  fault := h.fault
  trail := h.trail
  state := h.state
  outcomes := h.outcomes
  duration := by
    have hfinished := h.duration
    change r'.finished + k' + (0 + k) = r.finished + k + (0 + k')
    omega

theorem length_eq_of_payloads (h : a.payloads = b.payloads) : a.length = b.length := by
  simpa [Scenario.payloads, Scenario.length] using congrArg List.length h

/-- Attempts at messages that carry the same take the same course, whatever is looked for. -/
theorem conduct_sameCourse (h : a.payloads = b.payloads) (s : Session) (network : Network)
    (index now : Nat) :
    Halt.Alike (Record.SameCourse · now now ·) (fun _ ↦ False) (s.conduct a network index now)
      (s.conduct b network index now) := by
  refine .bind_same _ fun deadline ↦ .bind_same _ fun o ↦ ?_
  cases o.result with
  | error cause => exact .ok (sameCourse_unopened (length_eq_of_payloads h) s cause ..)
  | ok c =>
    refine (exchange_sameCourse h _ deadline 0 c).bind ?_ fun _ h ↦ h.elim
    exact fun x x' hx ↦ .ok (sameCourse_recordOf hx s now o.requested)

/-- Two attempts at scenarios that have one message in common, and before it messages that carry the
same, have one outcome for it. -/
theorem conduct_outcome_eq (hab : a.AgreeAt b i) {r r' : Record}
    (hr : s.conduct a network index now = .ok r) (hr' : s.conduct b network index now = .ok r') :
    ∃ o, r.attempt.outcomes[i]? = some o ∧ r'.attempt.outcomes[i]? = some o := by
  obtain ⟨hp, step, hs, hs'⟩ := hab
  obtain ⟨deadline, hd, hr⟩ := Halt.bind_eq_ok.mp hr
  obtain ⟨o, ho, hr⟩ := Halt.bind_eq_ok.mp hr
  rw [conduct, hd, Halt.ok_bind, ho, Halt.ok_bind] at hr'
  cases hc : o.result with
  | error cause =>
    rw [hc] at hr hr'
    cases hr
    cases hr'
    obtain ⟨hi, -⟩ := List.getElem?_eq_some_iff.mp hs
    obtain ⟨hi', -⟩ := List.getElem?_eq_some_iff.mp hs'
    exact ⟨_, getElem?_abandoned cause hi, getElem?_abandoned cause hi'⟩
  | ok c =>
    rw [hc] at hr hr'
    obtain ⟨x, hx, hr⟩ := Halt.bind_eq_ok.mp hr
    obtain ⟨x', hx', hr'⟩ := Halt.bind_eq_ok.mp hr'
    cases hr
    cases hr'
    exact exchange_outcome_eq hp hs hs' hx hx'

/-- The record of an attempt that begins at `now` is, but for the clock, that of one that begins at
zero. -/
theorem exists_conduct_zero (h : s.attemptTimeout = none) {r : Record}
    (hr : s.conduct scenario network index now = .ok r) :
    ∃ r₀, s.conduct scenario network index 0 = .ok r₀ ∧ r = r₀.ahead now := by
  rw [← Nat.zero_add now, conduct_ahead now h] at hr
  cases h₀ : s.conduct scenario network index 0 with
  | error halt => rw [h₀] at hr; cases hr
  | ok r₀ => rw [h₀] at hr; cases hr; exact ⟨r₀, rfl, rfl⟩

/-- Verdicts do not steer. Take two attempts without a limit on them as a whole, which may begin at
different times. If their scenarios have a message in common, and before it messages that carry the
same, then the outcome of that message is the same in both, whatever the predicates before it and
all that comes after it. If all messages carry the same, the attempts take the same course. -/
theorem verdicts_inert (s : Session) (a b : Scenario) (network : Network) (index now now' : Nat)
    (htimeout : s.attemptTimeout = none) :
    (∀ i, a.AgreeAt b i →
      s.Settles a network index now fun r ↦ s.Settles b network index now' fun r' ↦
        ∃ o, r.attempt.outcomes[i]? = some o ∧ r'.attempt.outcomes[i]? = some o) ∧
    (a.payloads = b.payloads →
      Halt.Alike (Record.SameCourse · now now' ·) (fun _ ↦ False) (s.conduct a network index now)
        (s.conduct b network index now')) := by
  constructor
  · intro i hab
    refine settles_of_conduct fun r hr ↦ settles_of_conduct fun r' hr' ↦ ?_
    obtain ⟨r₀, hr₀, rfl⟩ := exists_conduct_zero htimeout hr
    obtain ⟨r₀', hr₀', rfl⟩ := exists_conduct_zero htimeout hr'
    have houtcome := conduct_outcome_eq hab hr₀ hr₀'
    exact houtcome
  · intro h
    rw [← Nat.zero_add now, ← Nat.zero_add now', conduct_ahead now htimeout,
      conduct_ahead now' htimeout]
    refine (conduct_sameCourse h s network index 0).map ?_ fun _ h ↦ h.elim
    exact fun r r' h ↦ h.ahead now now'

/-- Attempts at the echo scenario and a farewell with a peer that echoes, of which the second begins
later and looks for something else before the farewell. -/
theorem verdicts_inert_echo :
    let network := Network.ofAnswers [.opened (.replying .identity)]
    nearby.attemptTimeout = none ∧
      (∃ r r' o,
        nearby.conduct ((Scenario.echo .identity).pushEcho (.text "bye")) network 0 0 = .ok r ∧
        nearby.conduct ((Scenario.echo (.before "> ")).pushEcho (.text "bye")) network 0 7 =
          .ok r' ∧
        r.attempt.outcomes[5]? = some o ∧ r'.attempt.outcomes[5]? = some o) ∧
      Halt.Alike (Record.SameCourse · 0 7 ·) (fun _ ↦ False)
        (nearby.conduct (.echo .identity) network 0 0)
        (nearby.conduct (.echo (.before "> ")) network 0 7) := by
  intro network
  have hrun : ∃ r, nearby.conduct ((Scenario.echo .identity).pushEcho (.text "bye"))
      (.ofAnswers [.opened (.replying .identity)]) 0 0 = .ok r := ⟨_, rfl⟩
  have hrun' : ∃ r, nearby.conduct ((Scenario.echo (.before "> ")).pushEcho (.text "bye"))
      (.ofAnswers [.opened (.replying .identity)]) 0 7 = .ok r := ⟨_, rfl⟩
  obtain ⟨r, hr⟩ := hrun
  obtain ⟨r', hr'⟩ := hrun'
  have hagree : ((Scenario.echo .identity).pushEcho (.text "bye")).AgreeAt
      ((Scenario.echo (.before "> ")).pushEcho (.text "bye")) 5 := ⟨rfl, _, rfl, rfl⟩
  have houtcome := (verdicts_inert nearby _ _ network 0 0 7 rfl).1 5 hagree
  obtain ⟨o, ho, ho'⟩ := (houtcome.of_conduct hr).of_conduct hr'
  exact ⟨rfl, ⟨r, r', o, hr, hr', ho, ho'⟩, (verdicts_inert nearby _ _ network 0 0 7 rfl).2 rfl⟩

end Session

end Lockstep

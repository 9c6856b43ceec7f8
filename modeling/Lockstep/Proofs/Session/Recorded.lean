import Lockstep.Proofs.Connection
import Lockstep.Session

/-!
# How an exchange is recorded

What an exchange leaves behind follows from its messages and from what passed on the connection.
`Recorded` says how, and `exchange_recorded` that every exchange is recorded so. Statements about
outcomes, states and the fault of an exchange go by induction on `Recorded`: its cases are the ways
in which the exchange can go on at one message.
-/

namespace Lockstep

namespace Session

variable {limit : Option Span} {deadline : Option Deadline} {index : Nat} {step : Step}
  {steps rest : List Step} {c : Connection} {x : Exchange} {traffic : List Traffic}

/-- All that can happen at one message of an exchange. -/
theorem exchange_cons_cases (h : exchange limit deadline index (step :: rest) c = .ok x) :
    (∃ cause, (c.send step.payload).fault = some cause ∧
      x = .unwritten index (.socket cause) rest (c.send step.payload).connection) ∨
    ∃ r, (c.send step.payload).fault = none ∧
      (c.send step.payload).connection.receive
        (budget limit deadline (c.send step.payload).connection.now) = .ok r ∧
      ((∃ cause, r.result = .error cause ∧ x = .unheard index cause rest r.connection) ∨
        ∃ p later, r.result = .ok p ∧
          exchange limit deadline (index + 1) rest r.connection = .ok later ∧
          x = .answered index (step.predicate.evaluate step.payload p) r.took later) := by
  simp only [exchange] at h
  split at h
  · rename_i cause hf
    cases h
    exact .inl ⟨cause, hf, rfl⟩
  · rename_i hf
    obtain ⟨r, hr, h⟩ := Halt.bind_eq_ok.mp h
    refine .inr ⟨r, hf, hr, ?_⟩
    split at h
    · rename_i cause he
      cases h
      exact .inl ⟨cause, he, rfl⟩
    · rename_i p hp
      obtain ⟨later, hl, h⟩ := Halt.bind_eq_ok.mp h
      cases h
      exact .inr ⟨p, later, hp, hl, rfl⟩

/-- An exchange has no end at its first message or after the response to it. -/
theorem exchange_cons_error {halt : Halt}
    (h : exchange limit deadline index (step :: rest) c = .error halt) :
    (c.send step.payload).fault = none ∧
      ((c.send step.payload).connection.receive
          (budget limit deadline (c.send step.payload).connection.now) = .error halt ∨
        ∃ r p, (c.send step.payload).connection.receive
            (budget limit deadline (c.send step.payload).connection.now) = .ok r ∧
          r.result = .ok p ∧
          exchange limit deadline (index + 1) rest r.connection = .error halt) := by
  simp only [exchange] at h
  split at h
  · cases h
  · rename_i hf
    refine ⟨hf, ?_⟩
    rcases Halt.bind_eq_error.mp h with hr | ⟨r, hr, h⟩
    · exact .inl hr
    split at h
    · cases h
    · rename_i p hp
      rcases Halt.bind_eq_error.mp h with hl | ⟨later, -, h⟩
      · exact .inr ⟨r, p, hr, hp, hl⟩
      · cases h

/-- An exchange has one peer throughout. -/
theorem exchange_peer (h : exchange limit deadline index steps c = .ok x) :
    x.connection.peer = c.peer := by
  induction steps generalizing index c x with
  | nil => cases h; rfl
  | cons step rest ih =>
    obtain ⟨hs, -⟩ := c.send_cases step.payload
    rcases exchange_cons_cases h with ⟨cause, -, rfl⟩ | ⟨r, -, hr, hx⟩
    · exact hs
    obtain ⟨hp, -⟩ := Connection.receive_cases hr
    rcases hx with ⟨cause, -, rfl⟩ | ⟨p, later, -, hl, rfl⟩
    · exact hp.trans hs
    · exact (ih hl).trans (hp.trans hs)

/-- What an exchange of messages from `index` on leaves behind, given what passed meanwhile. -/
inductive Recorded : (index : Nat) → List Step → List Traffic → Exchange → Prop
  | done {index : Nat} {c : Connection} : Recorded index [] [] (.done c)
  | unwritten {index : Nat} {step : Step} {rest : List Step} {c : Connection}
      (cause : SocketFault) :
      Recorded index (step :: rest) [.unsent cause] (.unwritten index (.socket cause) rest c)
  | unheard {index : Nat} {step : Step} {rest : List Step} {c : Connection} (cause : Fault) :
      Recorded index (step :: rest) [.sent step.payload, .unheard cause]
        (.unheard index cause rest c)
  | answered {index took : Nat} {step : Step} {rest : List Step} {p : Payload}
      {traffic : List Traffic} {later : Exchange}
      (h : Recorded (index + 1) rest traffic later) :
      Recorded index (step :: rest) (.sent step.payload :: .received p :: traffic)
        (.answered index (step.predicate.evaluate step.payload p) took later)

/-- Every exchange is recorded as what passed on its connection demands. -/
theorem exchange_recorded (h : exchange limit deadline index steps c = .ok x) :
    ∃ traffic, x.connection.traffic = c.traffic ++ traffic ∧ Recorded index steps traffic x := by
  induction steps generalizing index c x with
  | nil =>
    cases h
    exact ⟨[], (List.append_nil _).symm, .done⟩
  | cons step rest ih =>
    obtain ⟨-, hs⟩ := c.send_cases step.payload
    rcases exchange_cons_cases h with ⟨cause, hf, rfl⟩ | ⟨r, hf, hr, hx⟩
    · rcases hs with ⟨e, -, he, ht, -⟩ | ⟨-, hn, -⟩
      · obtain rfl : e = cause := Option.some.inj (he.symm.trans hf)
        exact ⟨_, ht, .unwritten e⟩
      · rw [hf] at hn; cases hn
    · rcases hs with ⟨e, -, he, -⟩ | ⟨-, -, ht, -⟩
      · rw [hf] at he; cases he
      obtain ⟨-, hrt, -⟩ := Connection.receive_cases hr
      rcases hx with ⟨cause, he, rfl⟩ | ⟨p, later, hp, hl, rfl⟩
      · refine ⟨[.sent step.payload, .unheard cause], ?_, .unheard cause⟩
        change r.connection.traffic = _
        rw [hrt, ht, he, List.append_assoc]
        rfl
      · obtain ⟨traffic, hlt, hrec⟩ := ih hl
        refine ⟨.sent step.payload :: .received p :: traffic, ?_, .answered hrec⟩
        change later.connection.traffic = _
        rw [hlt, hrt, ht, hp, List.append_assoc, List.append_assoc]
        rfl

/-- On a new connection, all that passed is what passed in the exchange. -/
theorem recorded_of_start {peer : Peer} {now : Nat}
    (h : exchange limit deadline index steps (.start peer now) = .ok x) :
    Recorded index steps x.connection.traffic x := by
  obtain ⟨traffic, ht, hrec⟩ := exchange_recorded h
  obtain rfl : x.connection.traffic = traffic := ht
  exact hrec

/-! ## Counts -/

/-- Messages that are not sent do not count where only those sent do. -/
theorem countP_abandoned {q : Outcome → Bool} {cause : Fault}
    (hq : ∀ i, q (.unanswered i false cause) = false) (index : Nat) (steps : List Step) :
    (Exchange.abandoned cause index steps).countP q = 0 := by
  induction steps generalizing index with
  | nil => rfl
  | cons step rest ih => rw [Exchange.abandoned, List.countP_cons, ih, hq]; rfl

section Unopened

variable (s : Session) (scenario : Scenario) (cause : Fault)

/-- Nothing is sent without a connection. -/
theorem sentCount_unopened : (s.unopened scenario cause).sentCount = 0 :=
  countP_abandoned (fun _ ↦ rfl) ..

theorem answeredCount_unopened : (s.unopened scenario cause).answeredCount = 0 :=
  countP_abandoned (fun _ ↦ rfl) ..

theorem matchedCount_unopened : (s.unopened scenario cause).matchedCount = 0 :=
  countP_abandoned (fun _ ↦ rfl) ..

end Unopened

/-- As many messages count as sent as were written. -/
theorem Recorded.countP_sent (h : Recorded index steps traffic x) :
    x.outcomes.countP Outcome.sent = (Traffic.written traffic).length := by
  induction h with
  | done => rfl
  | unwritten cause =>
    rw [Exchange.unwritten, List.countP_cons, countP_abandoned fun _ ↦ rfl]
    rfl
  | unheard cause =>
    rw [Exchange.unheard, List.countP_cons, countP_abandoned fun _ ↦ rfl]
    rfl
  | answered _ ih => simp [Exchange.answered, List.countP_cons, ih]

/-- As many messages count as answered as responses were read. -/
theorem Recorded.countP_isAnswered (h : Recorded index steps traffic x) :
    x.outcomes.countP Outcome.isAnswered = (Traffic.responses traffic).length := by
  induction h with
  | done => rfl
  | unwritten cause =>
    rw [Exchange.unwritten, List.countP_cons, countP_abandoned fun _ ↦ rfl]
    rfl
  | unheard cause =>
    rw [Exchange.unheard, List.countP_cons, countP_abandoned fun _ ↦ rfl]
    rfl
  | answered _ ih => simp [Exchange.answered, List.countP_cons, ih]

end Session

end Lockstep

import Lockstep.Proofs.Session.Accounting

/-!
# The states of an attempt

An attempt that cannot connect goes through three states. Any other is connected, then sends and
awaits its messages in turn, and is closed in the end; only after the last message that it begins to
send may there be nothing to await. The states agree with what the outcomes say of each message and
with the fault.
-/

namespace Lockstep

namespace State

/-- No state follows this one. -/
def isFinal : State → Bool
  | connectFailed | closed _ => true
  | idle | connecting | connected | sending _ | awaiting _ => false

def isAwaiting : State → Bool
  | awaiting _ => true
  | _ => false

/-- The states in which `count` messages, from `index` on, are sent and awaited in turn. -/
def rounds : (index count : Nat) → List State
  | _, 0 => []
  | index, count + 1 => sending index :: awaiting index :: rounds (index + 1) count

theorem awaiting_mem_rounds {i index count : Nat} :
    awaiting i ∈ rounds index count ↔ index ≤ i ∧ i < index + count := by
  induction count generalizing index with
  | zero =>
    rw [rounds]
    exact iff_of_false nofun (by omega)
  | succ count ih =>
    simp only [rounds, List.mem_cons, reduceCtorEq, awaiting.injEq, ih, false_or]
    omega

theorem countP_isAwaiting_rounds (index count : Nat) :
    (rounds index count).countP isAwaiting = count := by
  induction count generalizing index with
  | zero => rfl
  | succ count ih => simp [rounds, List.countP_cons, isAwaiting, ih]

theorem isFinal_of_mem_rounds {st : State} {index count : Nat} (h : st ∈ rounds index count) :
    st.isFinal = false := by
  induction count generalizing index with
  | zero => cases h
  | succ count ih =>
    simp only [rounds, List.mem_cons] at h
    rcases h with rfl | rfl | h
    · rfl
    · rfl
    · exact ih h

end State

/-- The states of an attempt at a scenario of `length` messages are those that its state machine
allows, and they agree with its outcomes. -/
structure Attempt.Traced (a : Attempt) (connected : Bool) (length : Nat) : Prop where
  refused : connected = false → a.trail = [.idle, .connecting, .connectFailed]
  /-- Each message that was sent was sent and awaited in its turn; one more may have failed to be
  sent. -/
  exchanged : connected = true → ∃ last ending,
    (last = [] ∨ last = [.sending a.sentCount]) ∧
      a.trail = [.idle, .connecting, .connected] ++ State.rounds 0 a.sentCount ++ last ++
        [.closed ending]
  present : a.trail.getLast? = some a.state
  final : a.state.isFinal = true ∧ ∀ st ∈ a.trail.dropLast, st.isFinal = false
  awaiting (i : Nat) : .awaiting i ∈ a.trail ↔ ∃ o, a.outcomes[i]? = some o ∧ o.sent = true
  sentCount : a.sentCount = a.trail.countP State.isAwaiting
  /-- A message is begun exactly if all before it have their responses. -/
  sending (i : Nat) : .sending i ∈ a.trail ↔
    connected = true ∧ i < length ∧ ∀ o ∈ a.outcomes.take i, o.isAnswered = true
  success : .closed .success ∈ a.trail ↔ a.fault = none ∧ a.matchedCount = length

namespace Session

variable {index i : Nat} {steps : List Step} {x : Exchange} {traffic : List Traffic}

/-! ## The states of an exchange -/

/-- Each message that was written was sent and awaited in its turn; one more may have failed. -/
theorem Recorded.trail_eq (h : Recorded index steps traffic x) :
    ∃ last, (last = [] ∨ last = [.sending (index + (Traffic.written traffic).length)]) ∧
      x.trail = State.rounds index (Traffic.written traffic).length ++ last := by
  induction h with
  | done => exact ⟨[], .inl rfl, rfl⟩
  | unwritten cause => exact ⟨_, .inr rfl, rfl⟩
  | unheard cause => exact ⟨[], .inl rfl, rfl⟩
  | @answered index took step rest p traffic later _ ih =>
    obtain ⟨last, hl, ht⟩ := ih
    have hn : (Traffic.written (.sent step.payload :: .received p :: traffic)).length =
        (Traffic.written traffic).length + 1 := by simp
    refine ⟨last, ?_, ?_⟩
    · rw [hn, Nat.add_comm _ 1, ← Nat.add_assoc]
      exact hl
    · rw [hn, State.rounds, Exchange.answered, ht]
      rfl

/-- The messages that were sent are the first ones, as many as data frames were written. -/
theorem Recorded.sent_iff (h : Recorded index steps traffic x) :
    (∃ o, x.outcomes[i]? = some o ∧ o.sent = true) ↔ i < (Traffic.written traffic).length := by
  induction h generalizing i with
  | done => exact iff_of_false nofun nofun
  | unwritten cause =>
    refine iff_of_false ?_ nofun
    rintro ⟨o, ho, hs⟩
    rcases List.mem_cons.mp (List.mem_of_getElem? ho) with rfl | ho
    · cases hs
    · exact not_sent_of_mem_abandoned ho hs
  | unheard cause =>
    cases i with
    | zero => exact iff_of_true ⟨_, rfl, rfl⟩ Nat.one_pos
    | succ i =>
      refine iff_of_false ?_ (by simp)
      rintro ⟨o, ho, hs⟩
      exact not_sent_of_mem_abandoned (List.mem_of_getElem? ho) hs
  | answered _ ih =>
    cases i with
    | zero => exact iff_of_true ⟨_, rfl, rfl⟩ (by simp)
    | succ i => simpa [Exchange.answered] using ih

/-- A message is begun exactly if all before it have their responses. -/
theorem Recorded.sending_mem (h : Recorded index steps traffic x) :
    .sending (index + i) ∈ x.trail ↔
      i < steps.length ∧ ∀ o ∈ x.outcomes.take i, o.isAnswered = true := by
  induction h generalizing i with
  | done => exact iff_of_false nofun nofun
  | unwritten cause =>
    cases i with
    | zero => simp [Exchange.unwritten]
    | succ i => simp [Exchange.unwritten]
  | unheard cause =>
    cases i with
    | zero => simp [Exchange.unheard]
    | succ i => simp [Exchange.unheard]
  | @answered index took step rest p traffic later h ih =>
    cases i with
    | zero => simp [Exchange.answered]
    | succ i =>
      have hne : index + 1 + i ≠ index := by omega
      rw [← Nat.add_assoc, Nat.add_right_comm]
      simp [Exchange.answered, ih, hne]

/-- No state of an exchange is final. -/
theorem Recorded.isFinal_of_mem {st : State} (h : Recorded index steps traffic x)
    (hst : st ∈ x.trail) : st.isFinal = false := by
  obtain ⟨last, hl, ht⟩ := h.trail_eq
  rw [ht, List.mem_append] at hst
  rcases hst with hst | hst
  · exact State.isFinal_of_mem_rounds hst
  · rcases hl with rfl | rfl
    · cases hst
    · rw [List.mem_singleton.mp hst]
      rfl

theorem ending_eq_success {count : Nat} :
    x.ending count = .success ↔ x.fault = none ∧ x.outcomes.countP Outcome.isMatch = count := by
  unfold Exchange.ending
  split <;> simp_all

/-! ## The states of an attempt -/

theorem traced_unopened (s : Session) (scenario : Scenario) (cause : Fault) :
    (s.unopened scenario cause).Traced false scenario.length where
  refused _ := rfl
  exchanged h := by cases h
  present := rfl
  final := ⟨rfl, by simp [State.isFinal]⟩
  awaiting i := by
    refine iff_of_false (by simp) ?_
    rintro ⟨o, ho, hs⟩
    exact not_sent_of_mem_abandoned (List.mem_of_getElem? ho) hs
  sentCount := countP_abandoned (fun _ ↦ rfl) ..
  sending i := by simp
  success := by simp

theorem traced_closed {s : Session} {scenario : Scenario}
    (h : Recorded 0 scenario.steps traffic x) :
    (s.closed scenario x).Traced true scenario.length := by
  have hsent : (s.closed scenario x).sentCount = (Traffic.written traffic).length := h.countP_sent
  have hlast : (s.closed scenario x).trail.dropLast =
      [.idle, .connecting, .connected] ++ x.trail := by
    rw [trail_closed, List.dropLast_concat]
  obtain ⟨last, hl, ht⟩ := h.trail_eq
  rw [Nat.zero_add] at hl
  refine ⟨by simp, ?_, List.getLast?_concat, ⟨rfl, ?_⟩, ?_, ?_, ?_, ?_⟩
  · intro _
    rw [hsent, trail_closed, ht]
    exact ⟨last, _, hl, by rw [List.append_assoc _ _ last]⟩
  · intro st hst
    rw [hlast, List.mem_append] at hst
    rcases hst with hst | hst
    · revert st
      decide
    · exact h.isFinal_of_mem hst
  · intro i
    have hi : State.awaiting i ∉ last := by rcases hl with rfl | rfl <;> simp
    rw [outcomes_closed, h.sent_iff, trail_closed, ht]
    simp [State.awaiting_mem_rounds, hi]
  · have hc : last.countP State.isAwaiting = 0 := by rcases hl with rfl | rfl <;> rfl
    rw [hsent, trail_closed, ht, List.countP_append, List.countP_append, List.countP_append,
      State.countP_isAwaiting_rounds, hc]
    simp [State.isAwaiting]
  · intro i
    have hi := h.sending_mem (i := i)
    rw [Nat.zero_add] at hi
    simpa [Scenario.length] using hi
  · have hc : State.closed .success ∉ x.trail := by
      intro hm
      cases h.isFinal_of_mem hm
    rw [trail_closed, fault_closed]
    simp [hc, eq_comm (a := Ending.success), ending_eq_success, Attempt.matchedCount]

/-- The states that an attempt goes through are a way through its state machine to one of its final
states, and agree with what becomes of each message. -/
theorem trail_traced (s : Session) (scenario : Scenario) (network : Network) (index now : Nat) :
    s.Settles scenario network index now fun r ↦
      r.attempt.Traced (s.peer? network index now).isSome scenario.length := by
  refine settles_of ?_ ?_
  · intro hp cause t q
    rw [hp]
    exact traced_unopened ..
  · intro peer hp deadline start x q hx
    rw [hp]
    exact traced_closed (recorded_of_start hx)

end Session

end Lockstep

import Lockstep.Proofs.Burst
import Lockstep.Proofs.Peer.Interjection
import Lockstep.Proofs.Server.Service
import Lockstep.Proofs.Session.Correlation
import Lockstep.Proofs.Session.Meaning

/-!
# Attempts that lag

A data frame that nothing asked for shifts all answers behind it by one message. A burst shows
this: its texts are numbered, so that no answer is taken for the answer to another message, if only
the transform of the route carries the text into its answers.
-/

namespace Lockstep

namespace Session

variable {t : Transform} {j : Nat} {extra : Payload} {delays : Set Nat} {steps : List Step}
  {x : Exchange} {traffic : List Traffic}

/-! ## Exchanges with a peer that keeps up -/

/-- All messages of an exchange that does not break have a response. -/
theorem Recorded.answered_of_fault {index : Nat} (h : Recorded index steps traffic x)
    (hf : x.fault = none) : ∀ o ∈ x.outcomes, o.Answered := by
  obtain ⟨answered, breaking, rest, hos, ha, hr, hb⟩ := h.parts
  rw [hf] at hr hb
  intro o ho
  rw [hos, hb, List.append_nil, List.mem_append] at ho
  rcases ho with ho | ho
  · exact ha o ho
  · obtain ⟨cause, hc, -⟩ := hr o ho
    cases hc

/-- An exchange with a peer that keeps up comes to its end, and breaks only if a wait is given up.
The client has read as many arrivals as it has sent messages. -/
theorem exchange_keepsUp (limit : Option Span) (deadline : Option Deadline) (index : Nat)
    (steps : List Step) {c : Connection} (hpeer : c.peer.KeepsUp delays)
    (hinbox : c.inbox = (c.peer.output c.sent).drop c.sent.length) :
    ∃ x, exchange limit deadline index steps c = .ok x ∧
      (x.fault = none ∨ ∃ cause, x.fault = some cause ∧ cause.GaveUp delays) := by
  induction steps generalizing index c with
  | nil => exact ⟨_, rfl, .inl rfl⟩
  | cons step rest ih =>
    let sent := c.sent ++ [step.payload]
    have hlength : c.sent.length < (c.peer.output sent).length := by
      have hle := hpeer.length_le sent
      rw [List.length_append, List.length_singleton] at hle
      exact hle
    -- The peer has answered this message too, so something is next in the inbox.
    have hin : c.inbox ++ c.peer.reaction sent =
        (c.peer.output sent)[c.sent.length] :: (c.peer.output sent).drop (c.sent.length + 1) := by
      rw [hinbox, ← List.drop_append_of_le_length (hpeer.length_le _), ← Peer.output_concat]
      exact List.drop_eq_getElem_cons hlength
    obtain ⟨d, hd, p, ha⟩ := hpeer.output sent _ (List.getElem_mem hlength)
    rw [ha] at hin
    obtain ⟨w, hwpeer, hwsent, hwin, hx⟩ | ⟨l, w, hl, hx⟩ :=
      exchange_cons_of_data limit deadline index rest (hpeer.writeFault _) hin
    · have hwinbox : w.inbox = (w.peer.output w.sent).drop w.sent.length := by
        rw [hwin, hwpeer, hwsent, List.length_append, List.length_singleton]
      obtain ⟨later, hlater, h⟩ := ih (index + 1) (hwpeer ▸ hpeer) hwinbox
      refine ⟨.answered index (step.predicate.evaluate step.payload p) d later, ?_, h⟩
      rw [hx, hlater]
      rfl
    · exact ⟨_, hx, .inr ⟨_, rfl, d, hd, l, hl, .inr rfl⟩⟩

/-! ## Attempts with a peer that interjects -/

variable {s : Session} {network : Network} {index now : Nat} {peer : Peer}

/-- An attempt with a peer that interjects has a record. All messages have a response unless a wait
is given up, and the messages are judged against the answers in order, the extra data frame among
them. -/
theorem conduct_interjected (hp : s.peer? network index now = some peer)
    (h : peer.Interjects t j extra delays) (scenario : Scenario) :
    ∃ r, s.conduct scenario network index now = .ok r ∧
      r.attempt.outcomes.length = scenario.length ∧
      (r.attempt.GaveUp delays ∨ ∀ o ∈ r.attempt.outcomes, o.isAnswered = true) ∧
      ∀ i (o : Outcome), r.attempt.outcomes[i]? = some o →
        o.Correlated scenario.steps ((scenario.payloads.map t.apply).insertIdx j extra) i := by
  obtain ⟨deadline, o, start, hd, ho, hc⟩ := exists_start_of_peer? hp
  obtain ⟨x, hx, hend⟩ := exchange_keepsUp s.timeouts.response deadline 0 scenario.steps
    (c := .start peer start) h.keepsUp peer.output_nil.symm
  refine ⟨s.recordOf scenario o.requested x, ?_, ?_, ?_, ?_⟩
  · rw [conduct_of_opened hd ho hc, hx]
    rfl
  · exact (recorded_of_start hx).length_outcomes
  · rcases hend with hf | hgave
    · exact .inr fun o ho ↦ ((recorded_of_start hx).answered_of_fault hf o ho).roundTrip
    · exact .inl hgave
  · obtain ⟨m, hm, -, hlog, hframes⟩ := exchange_reachable hx
    have hfirst := hm.orderly.responses_prefix
    rw [hlog, hframes] at hfirst
    have hwritten : Traffic.written x.connection.traffic <+: scenario.payloads := by
      rw [← hlog]
      exact ⟨_, hm.orderly.written_left⟩
    intro i o ho
    exact correlated_of_prefix ((recorded_of_start hx).correlated ho)
      (hfirst.trans (h.frames_prefix hwritten))

end Session

/-! ## Bursts that lag -/

/-- Of the messages with a response, those before message `j` have the right one, that one is judged
against `extra`, and each one after it has the answer to the message before it, which is not the
right one. -/
structure Attempt.Lags (a : Attempt) (t : Transform) (payload : Nat → Payload) (j : Nat)
    (extra : Payload) : Prop where
  before : ∀ i (o : Outcome), i < j → a.outcomes[i]? = some o → o.isAnswered = true →
    o.verdict = .matched
  judged : ∀ o : Outcome, a.outcomes[j]? = some o → o.isAnswered = true →
    o.verdict = (Predicate.transformed t).evaluate (payload j) extra
  after : ∀ i (o : Outcome), j < i → a.outcomes[i]? = some o → o.isAnswered = true →
    o.verdict = .mismatch (t.apply (payload i)) (t.apply (payload (i - 1)))

namespace Scenario

variable {t : Transform} {i j count : Nat} {extra : Payload}

/-- The data frame at position `i` among the answers to a burst with an extra one among them. -/
theorem getElem?_answers (draw : Draw) (size : Nat) (hi : i < count) :
    (((burst draw count size t).payloads.map t.apply).insertIdx j extra)[i]? =
      some (if i < j then t.apply (burstStep draw size t i).payload
        else if i = j then extra else t.apply (burstStep draw size t (i - 1)).payload) := by
  have hanswer : ∀ k < count, ((burst draw count size t).payloads.map t.apply)[k]? =
      some (t.apply (burstStep draw size t k).payload) := by
    intro k hk
    rw [payloads, List.getElem?_map, List.getElem?_map, getElem?_burst hk]
    rfl
  have hlength : ((burst draw count size t).payloads.map t.apply).length = count := by
    rw [List.length_map, payloads, List.length_map]
    exact length_burst ..
  rw [List.getElem?_insertIdx, hlength]
  split
  · exact hanswer i hi
  · split
    · rw [if_pos (Nat.le_of_lt hi)]
    · exact hanswer (i - 1) (by omega)

/-- Outcomes that are about the answers to a burst with an extra data frame among them lag. -/
theorem lags_of_correlated {draw : Draw} {size : Nat} {a : Attempt}
    (hlength : a.outcomes.length = count) (ht : t.Carries)
    (h : ∀ i (o : Outcome), a.outcomes[i]? = some o →
      o.Correlated (burst draw count size t).steps
        (((burst draw count size t).payloads.map t.apply).insertIdx j extra) i) :
    a.Lags t (fun i ↦ (burstStep draw size t i).payload) j extra := by
  have hverdict : ∀ i (o : Outcome), a.outcomes[i]? = some o → o.isAnswered = true →
      o.verdict = (Predicate.transformed t).evaluate (burstStep draw size t i).payload
        (if i < j then t.apply (burstStep draw size t i).payload
          else if i = j then extra else t.apply (burstStep draw size t (i - 1)).payload) := by
    intro i o ho hanswered
    obtain ⟨hi, -⟩ := List.getElem?_eq_some_iff.mp ho
    rw [hlength] at hi
    obtain ⟨step, d, hstep, hd, hv⟩ := (h i o ho).answered hanswered
    rw [getElem?_burst hi] at hstep
    rw [getElem?_answers draw size hi] at hd
    cases hstep
    cases hd
    exact hv
  constructor
  · intro i o hi ho hanswered
    have hsuits : (burstStep draw size t i).Suits t := .inl rfl
    rw [hverdict i o ho hanswered, if_pos hi]
    exact hsuits.evaluate
  · intro o ho hanswered
    rw [hverdict j o ho hanswered, if_neg (Nat.lt_irrefl j), if_pos rfl]
  · intro i o hi ho hanswered
    rw [hverdict i o ho hanswered, if_neg (Nat.lt_asymm hi), if_neg (Nat.ne_of_gt hi)]
    exact evaluate_burst ht (by omega)

end Scenario

namespace Session

variable {s : Session} {network : Network} {index now : Nat} {peer : Peer} {t : Transform}
  {j count : Nat} {extra : Payload} {delays : Set Nat}

/-- An attempt at a burst lags from the message on at which the peer interjects, and so does not
succeed if there is another message after that. -/
theorem conduct_burst_interjected (draw : Scenario.Draw) (count size : Nat) (ht : t.Carries)
    (hp : s.peer? network index now = some peer) (h : peer.Interjects t j extra delays) :
    ∃ r, s.conduct (.burst draw count size t) network index now = .ok r ∧
      r.attempt.outcomes.length = count ∧
      (r.attempt.GaveUp delays ∨ ∀ o ∈ r.attempt.outcomes, o.isAnswered = true) ∧
      r.attempt.Lags t (fun i ↦ (Scenario.burstStep draw size t i).payload) j extra ∧
      (j + 1 < count → r.attempt.succeeded = false) := by
  obtain ⟨r, hr, hlength, hanswered, hcorrelated⟩ :=
    conduct_interjected hp h (.burst draw count size t)
  rw [Scenario.length_burst] at hlength
  have hlags := Scenario.lags_of_correlated hlength ht hcorrelated
  refine ⟨r, hr, hlength, hanswered, hlags, fun hj ↦ ?_⟩
  rw [← Bool.not_eq_true]
  intro hsucceeded
  have hpos : 0 < (Scenario.burst draw count size t).length := by
    rw [Scenario.length_burst]
    omega
  have hcoherent := ((record_coherent s _ network index now hpos).of_conduct hr).2
  have hmatched := hcoherent.succeeded_iff.mp hsucceeded
  rw [Scenario.length_burst, ← hlength, Attempt.matchedCount_eq_length] at hmatched
  have hfault := (Attempt.status_eq_succeeded.mp (of_decide_eq_true hsucceeded)).1
  -- The message after message `j` has a response, and not the one that was looked for.
  obtain ⟨o, ho⟩ : ∃ o, r.attempt.outcomes[j + 1]? = some o :=
    ⟨_, List.getElem?_eq_getElem (by omega)⟩
  have hmem := List.mem_of_getElem? ho
  rcases hanswered with ⟨cause, hcause, -⟩ | hall
  · rw [hfault] at hcause
    cases hcause
  · have hverdict := hlags.after (j + 1) o (Nat.lt_succ_self j) ho (hall o hmem)
    rw [hmatched o hmem] at hverdict
    cases hverdict

end Session

/-! ## Stale answers -/

/-- A stale answer is never taken for the answer to a later message of a burst, if the transform of
the route carries the text. The texts of a burst are pairwise different, and the answer to one of
them is a mismatch for all others. So an attempt with a peer that sends one data frame too many,
just before the answer to message `j`, lags from there on. A transform that does not carry the text
is a template without a placeholder, and then one answer is right for all messages. -/
theorem stale_answers_mismatch (t : Transform) :
    (t.Carries → ∀ (draw : Scenario.Draw) (count size : Nat),
      (Scenario.burst draw count size t).payloads.Nodup ∧
      (∀ i j, i < count → j < count → i ≠ j → ∃ a b,
        (Scenario.burst draw count size t).steps[i]? = some a ∧
        (Scenario.burst draw count size t).steps[j]? = some b ∧
        b.predicate.evaluate b.payload (a.predicate.expected a.payload) =
          .mismatch (b.predicate.expected b.payload) (a.predicate.expected a.payload)) ∧
      ∀ (s : Session) (network : Network) (index now : Nat) (peer : Peer) (j : Nat)
        (extra : Payload) (delays : Set Nat), s.peer? network index now = some peer →
        peer.Interjects t j extra delays →
        ∃ r, s.conduct (.burst draw count size t) network index now = .ok r ∧
          r.attempt.outcomes.length = count ∧
          (r.attempt.GaveUp delays ∨ ∀ o ∈ r.attempt.outcomes, o.isAnswered = true) ∧
          r.attempt.Lags t (fun i ↦ .text (Scenario.burstText draw size i)) j extra ∧
          (j + 1 < count → r.attempt.succeeded = false)) ∧
    (¬ t.Carries → ∃ pattern, t = .template pattern ∧
      ∀ (draw : Scenario.Draw) (count size : Nat),
        ∀ step ∈ (Scenario.burst draw count size t).steps,
          step.predicate.evaluate step.payload (.text pattern) = .matched) := by
  constructor
  · intro ht draw count size
    refine ⟨Scenario.nodup_burst .., ?_, ?_⟩
    · intro i j hi hj hne
      exact ⟨_, _, Scenario.getElem?_burst hi, Scenario.getElem?_burst hj,
        Scenario.evaluate_burst ht hne⟩
    · intro s network index now peer j extra delays hp h
      exact Session.conduct_burst_interjected draw count size ht hp h
  · intro ht
    obtain ⟨pattern, rfl, hanswer⟩ := Transform.exists_template ht
    refine ⟨pattern, rfl, fun draw count size step hstep ↦ ?_⟩
    obtain ⟨i, -, rfl⟩ := List.mem_map.mp hstep
    have hsuits : (Scenario.burstStep draw size (.template pattern) i).Suits (.template pattern) :=
      .inl rfl
    rw [← hanswer (Scenario.burstText draw size i)]
    exact hsuits.evaluate

/-- A burst of three messages, doubled by the route, with a peer that sends its first answer twice
and with one that greets; and a route that answers everything with the same. -/
theorem stale_answers_mismatch_trio :
    let t := Transform.template "{}{}"
    let payload := fun i ↦ Payload.text (Scenario.burstText (fun _ _ ↦ 0) 2 i)
    let repeating := Peer.interjecting t 1 (t.apply (payload 0))
    let greeting := { Peer.replying t with greeting := [.data (.text "hello")] }
    let run := fun peer ↦ Session.nearby.conduct (.burst (fun _ _ ↦ 0) 3 2 t)
      (.ofAnswers [.opened peer]) 0 0
    t.Carries ∧
      repeating.Interjects t 1 (t.apply (payload 0)) {0} ∧
      (∃ r, run repeating = .ok r ∧ (∀ o ∈ r.attempt.outcomes, o.isAnswered = true) ∧
        r.attempt.Lags t payload 1 (t.apply (payload 0)) ∧ r.attempt.succeeded = false) ∧
      greeting.Interjects t 0 (.text "hello") {0} ∧
      (∃ r, run greeting = .ok r ∧ (∀ o ∈ r.attempt.outcomes, o.isAnswered = true) ∧
        r.attempt.Lags t payload 0 (.text "hello") ∧ r.attempt.succeeded = false) ∧
      ¬ (Transform.template "ok").Carries ∧
      ∃ pattern, Transform.template "ok" = .template pattern ∧
        ∀ step ∈ (Scenario.burst (fun _ _ ↦ 0) 3 2 (.template "ok")).steps,
          step.predicate.evaluate step.payload (.text pattern) = .matched := by
  intro t payload repeating greeting run
  have ht : t.Carries := ⟨[], ['{', '}'], rfl⟩
  have hrepeating : repeating.Interjects t 1 (t.apply (payload 0)) {0} :=
    Peer.interjecting_interjects ..
  have hgreeting : greeting.Interjects t 0 (.text "hello") {0} := Peer.greeting_interjects ..
  have hok : ¬ (Transform.template "ok").Carries := by
    change ¬ Transform.placeholder <:+: ['o', 'k']
    decide
  obtain ⟨-, -, hrun⟩ := (stale_answers_mismatch t).1 ht (fun _ _ ↦ 0) 3 2
  have hlag : ∀ peer j extra, j + 1 < 3 → peer.Interjects t j extra {0} →
      ∃ r, run peer = .ok r ∧ (∀ o ∈ r.attempt.outcomes, o.isAnswered = true) ∧
        r.attempt.Lags t payload j extra ∧ r.attempt.succeeded = false := by
    intro peer j extra hj h
    obtain ⟨r, hr, -, hanswered, hlags, hfailed⟩ :=
      hrun .nearby _ 0 0 peer j extra {0} (Session.peer?_nearby peer) h
    exact ⟨r, hr, hanswered.resolve_left r.attempt.not_gaveUp_zero, hlags, hfailed hj⟩
  obtain ⟨pattern, hpattern, hall⟩ := (stale_answers_mismatch (.template "ok")).2 hok
  exact ⟨ht, hrepeating, hlag _ _ _ (by decide) hrepeating, hgreeting,
    hlag _ _ _ (by decide) hgreeting, hok, pattern, hpattern, hall (fun _ _ ↦ 0) 3 2⟩

end Lockstep

import Lockstep.Proofs.Interactive.Transcript
import Lockstep.Proofs.Session.Inertness
import Lockstep.Proofs.Text.Utf8

/-!
# Typed texts and scripted messages

An interactive session into which texts are typed and an attempt at a scenario of the same texts are
one exchange seen in two ways. The attempt records what the session shows: both send and read the
same, end with the same fault or without one, and each response that is shown is the one that the
message at its position is judged by.
-/

namespace Lockstep

namespace Interactive

/-! ## Typed texts -/

/-- A text that is sent as it is when it is typed as a line. -/
structure Typable (text : String) : Prop where
  trimmed : Blank.trim text.toList = text.toList
  unbroken : '\n' ∉ text.toList
  not_quit : isQuit text.toList = false

instance : DecidablePred Typable := fun text ↦
  decidable_of_iff (Blank.trim text.toList = text.toList ∧ '\n' ∉ text.toList ∧
    isQuit text.toList = false) ⟨fun ⟨ht, hb, hq⟩ ↦ ⟨ht, hb, hq⟩, fun ⟨ht, hb, hq⟩ ↦ ⟨ht, hb, hq⟩⟩

/-- The input is these texts, each as a line. The last line may lack its end unless it is empty. -/
inductive Typed : List String → List UInt8 → Prop
  | nil : Typed [] []
  | last {text : String} (h : text ≠ "") : Typed [text] (Utf8.encode text.toList)
  | cons {text : String} {more : List String} {input : List UInt8} (h : Typed more input) :
      Typed (text :: more) (Utf8.encode text.toList ++ lineEnd :: input)

variable {text : String} {line : List UInt8} {s : List Char}

theorem Typable.lineEnd_not_mem (h : Typable text) : lineEnd ∉ Utf8.encode text.toList :=
  fun hmem ↦ h.unbroken (Utf8.mem_of_mem_encode (by decide) hmem)

/-- A line that is read as white space around a text has this text. -/
theorem Typable.texts_cons (h : Typable text) (hline : Utf8.decode line = .ok s)
    (hs : Blank.trim s = text.toList) (rest : List (List UInt8)) :
    texts (line :: rest) = text :: texts rest ∧ finish (line :: rest) = finish rest := by
  have hquit : ¬ isQuit text.toList = true := by
    rw [h.not_quit]
    exact Bool.false_ne_true
  rw [texts, finish, hline]
  dsimp only
  rw [hs, if_neg hquit, if_neg hquit, String.ofList_toList]
  exact ⟨rfl, rfl⟩

/-- The texts of an input are those that were typed, and nothing stands behind them. -/
theorem Typed.texts_eq {typed : List String} {input : List UInt8} (h : Typed typed input)
    (htypable : ∀ text ∈ typed, Typable text) :
    texts (lines input) = typed ∧ finish (lines input) = .exhausted := by
  induction h with
  | nil => exact ⟨rfl, rfl⟩
  | @last text hne =>
    have htext := htypable text List.mem_cons_self
    have hne : Utf8.encode text.toList ≠ [] := by
      intro he
      have hnil : text.toList = [] := Utf8.encode_injective he
      exact hne (String.toList_eq_nil_iff.mp hnil)
    rw [lines_of_not_mem hne htext.lineEnd_not_mem]
    exact htext.texts_cons (Utf8.decode_encode _) htext.trimmed []
  | @cons text more input _ ih =>
    obtain ⟨htext, hmore⟩ := List.forall_mem_cons.mp htypable
    have hline : Utf8.decode (Utf8.encode text.toList ++ [lineEnd]) =
        .ok (text.toList ++ ['\n']) := by
      rw [← Utf8.decode_encode, Utf8.encode_append]
      rfl
    have hs : Blank.trim (text.toList ++ ['\n']) = text.toList := by
      rw [Blank.trim_concat (by decide), htext.trimmed]
    obtain ⟨htexts, hfinish⟩ := htext.texts_cons hline hs (lines input)
    obtain ⟨hih, hihfinish⟩ := ih hmore
    rw [lines_append htext.lineEnd_not_mem, htexts, hfinish, hih]
    exact ⟨rfl, hihfinish⟩

end Interactive

/-! ## Responses and outcomes -/

namespace Session

/-- The response at each position is the one by which the message at that position is judged. -/
theorem Recorded.judged {index i : Nat} {steps : List Step} {traffic : List Traffic} {x : Exchange}
    {p : Payload} (h : Recorded index steps traffic x)
    (hp : (Traffic.responses traffic)[i]? = some p) :
    ∃ step took, steps[i]? = some step ∧ x.outcomes[i]? =
      some (Outcome.answered (index + i) (step.predicate.evaluate step.payload p) took) := by
  induction h generalizing i with
  | done | unwritten cause | unheard cause => cases hp
  | @answered index took step rest d traffic later _ ih =>
    cases i with
    | zero =>
      cases hp
      exact ⟨step, .clamp took, rfl, rfl⟩
    | succ i =>
      obtain ⟨step, took, hstep, houtcome⟩ := ih hp
      refine ⟨step, took, hstep, ?_⟩
      rw [← Nat.add_assoc, Nat.add_right_comm]
      exact houtcome

end Session

/-! ## One exchange seen in two ways -/

/-- The interactive session with the endpoint and the limits of a session. -/
def Session.interactive (s : Session) : Interactive := ⟨s.endpoint, s.timeouts⟩

namespace Interactive

/-- The record of an attempt at `steps` and the transcript of an interactive session are those of
one exchange. -/
structure Agrees (steps : List Step) (r : Session.Record) (t : Transcript) : Prop where
  requested : t.requested = r.requested
  traffic : t.traffic = r.traffic
  ok_iff : (∃ count, t.result = .ok count) ↔ r.attempt.fault = none
  count : ∀ count, t.result = .ok count → count = steps.length ∧ count = r.attempt.answeredCount
  error_iff : ∀ cause, t.result = .error cause ↔ r.attempt.fault = some cause
  /-- All responses are shown, unless there is no connection. -/
  output : t.output = if r.attempt.state = .connectFailed then ""
    else banner ++ dialogue (Traffic.responses t.traffic) ++ prompt
  /-- As many responses are shown as messages are answered. -/
  answered : (Traffic.responses t.traffic).length = r.attempt.answeredCount
  /-- The response at each position is the one by which the message there is judged. -/
  judged : ∀ i p, (Traffic.responses t.traffic)[i]? = some p →
    ∃ step took, steps[i]? = some step ∧ r.attempt.outcomes[i]? =
      some (Outcome.answered i (step.predicate.evaluate step.payload p) took)

variable {s : Session} {scenario : Scenario} {typed : List String} {input : List UInt8}
  {network : Network} {now now' : Nat}

/-- Neither of the two has a connection. -/
theorem agrees_unopened (s : Session) (scenario : Scenario) (cause : Fault) (finished : Nat)
    (requested : Bool) :
    Agrees scenario.steps ⟨s.unopened scenario cause, [], finished, requested⟩
      ⟨"", .error cause, [], requested⟩ where
  requested := rfl
  traffic := rfl
  ok_iff := iff_of_false nofun nofun
  count := nofun
  error_iff _ := ⟨fun h ↦ congrArg some (Except.error.inj h),
    fun h ↦ congrArg Except.error (Option.some.inj h)⟩
  output := rfl
  answered := (Session.countP_abandoned (fun _ ↦ rfl) 0 scenario.steps).symm
  judged := nofun

theorem conclusion_exhausted_eq_ok {count n : Nat} {fault : Option Fault} :
    conclusion count .exhausted fault = .ok n ↔ fault = none ∧ n = count := by
  cases fault with
  | none => exact ⟨fun h ↦ ⟨rfl, (Except.ok.inj h).symm⟩, fun h ↦ congrArg Except.ok h.2.symm⟩
  | some cause => exact iff_of_false nofun fun h ↦ nomatch h.1

theorem conclusion_exhausted_eq_error {count : Nat} {fault : Option Fault} {cause : Fault} :
    conclusion count .exhausted fault = .error cause ↔ fault = some cause := by
  cases fault with
  | none => exact iff_of_false nofun nofun
  | some cause' => exact ⟨fun h ↦ congrArg some (Except.error.inj h),
      fun h ↦ congrArg Except.error (Option.some.inj h)⟩

/-- The messages were exchanged so, and the session tells of it. -/
theorem agrees_closed {x : Session.Exchange} {t : Talk} {peer : Peer} {start : Nat}
    (hrecorded : Session.Recorded 0 scenario.steps x.connection.traffic x)
    (htells : Tells .exhausted 0 (.start peer start) x t) (s : Session) (requested : Bool) :
    Agrees scenario.steps (s.recordOf scenario requested x)
      ⟨banner ++ t.printed, t.result, t.connection.traffic, requested⟩ := by
  obtain ⟨hconnection, traffic, htraffic, hprinted, hresult⟩ := htells
  obtain rfl : x.connection.traffic = traffic := htraffic
  have hanswered : (s.recordOf scenario requested x).attempt.answeredCount =
      (Traffic.responses x.connection.traffic).length := hrecorded.countP_isAnswered
  have hunbroken := hrecorded.fault_eq_none_iff
  rw [hconnection, hprinted, hresult, Nat.zero_add]
  refine ⟨rfl, rfl, ?_, ?_, fun _ ↦ conclusion_exhausted_eq_error, ?_, hanswered.symm, ?_⟩
  · constructor
    · rintro ⟨count, hcount⟩
      exact (conclusion_exhausted_eq_ok.mp hcount).1
    · intro hnone
      exact ⟨_, conclusion_exhausted_eq_ok.mpr ⟨hnone, rfl⟩⟩
  · intro count hcount
    obtain ⟨hnone, rfl⟩ := conclusion_exhausted_eq_ok.mp hcount
    exact ⟨hunbroken.mp hnone, hanswered.symm⟩
  · change banner ++ (_ ++ closing .exhausted x.fault) = banner ++ _ ++ prompt
    rw [String.append_assoc]
    cases x.fault <;> rfl
  · intro i p hp
    obtain ⟨step, took, hstep, houtcome⟩ := hrecorded.judged hp
    rw [Nat.zero_add] at houtcome
    exact ⟨step, took, hstep, houtcome⟩

/-- An attempt and an interactive session that begin at the same time agree. -/
theorem agrees_alike (htimeout : s.attemptTimeout = none)
    (hpayloads : scenario.payloads = (texts (lines input)).map .text)
    (hfinish : finish (lines input) = .exhausted) (network : Network) (now : Nat) :
    Halt.Alike (Agrees scenario.steps) (fun _ ↦ False) (s.conduct scenario network 0 now)
      (s.interactive.run input network now) := by
  have hdeadline : s.deadline now = .ok none := by
    rw [Session.deadline, htimeout]
  have hopening : s.interactive.opening network now = s.opening network 0 now none := rfl
  rw [Session.conduct, run_eq, hdeadline, Halt.ok_bind, hopening]
  cases ho : s.opening network 0 now none with
  | error halt => exact .error halt
  | ok o =>
    rw [Halt.ok_bind, Halt.ok_bind]
    cases hc : o.result with
    | error cause => exact .ok (agrees_unopened s scenario cause ..)
    | ok c =>
      have htells := talk_tells hpayloads s.timeouts.response 0 0 c
      rw [hfinish, Session.eq_start_of_opening ho hc] at htells
      rw [Session.eq_start_of_opening ho hc]
      dsimp only
      change Halt.Alike _ _ (Session.exchange _ _ _ _ _ >>= _)
        (talk s.timeouts.response 0 _ _ >>= _)
      generalize hx : Session.exchange _ _ _ _ _ = e, talk s.timeouts.response 0 _ _ = d at htells
      cases htells with
      | ok h => exact .ok (agrees_closed (Session.recorded_of_start hx) h s o.requested)
      | error halt => exact .error halt
      | excused h => exact h.elim

theorem agrees_ahead_iff {steps : List Step} {r : Session.Record} {t : Transcript} (k : Nat) :
    Agrees steps (r.ahead k) t ↔ Agrees steps r t :=
  ⟨fun ⟨hq, ht, ho, hc, he, hs, ha, hj⟩ ↦ ⟨hq, ht, ho, hc, he, hs, ha, hj⟩,
    fun ⟨hq, ht, ho, hc, he, hs, ha, hj⟩ ↦ ⟨hq, ht, ho, hc, he, hs, ha, hj⟩⟩

/-- What agrees with the record of an attempt agrees with the record of the attempt at any time. -/
theorem exists_conduct_agrees (htimeout : s.attemptTimeout = none) {r : Session.Record}
    (hr : s.conduct scenario network 0 now = .ok r) (now' : Nat) :
    ∃ r', s.conduct scenario network 0 now' = .ok r' ∧
      ∀ t, Agrees scenario.steps r t ↔ Agrees scenario.steps r' t := by
  obtain ⟨r₀, hr₀, rfl⟩ := Session.exists_conduct_zero htimeout hr
  refine ⟨r₀.ahead now', ?_, fun t ↦ (agrees_ahead_iff now).trans (agrees_ahead_iff now').symm⟩
  rw [← Nat.zero_add now', Session.conduct_ahead now' htimeout, hr₀, Nat.zero_add]
  rfl

/-- Interactive sessions and attempts agree. Texts that are sent as they are typed are the messages
of an exchange, whatever is looked for in the responses: each record of an attempt at them has a
transcript of a session that agrees with it, and each transcript has such a record, whenever the two
begin. -/
theorem session_agrees (s : Session) (scenario : Scenario) (typed : List String)
    (input : List UInt8) (network : Network) (now now' : Nat) (htimeout : s.attemptTimeout = none)
    (hpayloads : scenario.payloads = typed.map .text) (htypable : ∀ text ∈ typed, Typable text)
    (hinput : Typed typed input) :
    (s.Settles scenario network 0 now fun r ↦ ∃ t,
      s.interactive.run input network now' = .ok t ∧ Agrees scenario.steps r t) ∧
    s.interactive.Settles input network now' fun t ↦ ∃ r,
      s.conduct scenario network 0 now = .ok r ∧ Agrees scenario.steps r t := by
  obtain ⟨htexts, hfinish⟩ := hinput.texts_eq htypable
  rw [← htexts] at hpayloads
  have halike := agrees_alike htimeout hpayloads hfinish network now'
  constructor
  · refine Session.settles_of_conduct fun r hr ↦ ?_
    obtain ⟨r', hr', hiff⟩ := exists_conduct_agrees htimeout hr now'
    obtain ⟨t, ht, hagrees⟩ := halike.exists_right (fun _ h ↦ h) hr'
    exact ⟨t, ht, (hiff t).mpr hagrees⟩
  · refine settles_of_run fun t ht ↦ ?_
    obtain ⟨r', hr', hagrees⟩ := halike.exists_left (fun _ h ↦ h) ht
    obtain ⟨r, hr, hiff⟩ := exists_conduct_agrees htimeout hr' now
    exact ⟨r, hr, (hiff t).mp hagrees⟩

/-- A text, a blank line and a text without its end, with a peer that sends two data frames on its
own and nothing more. -/
theorem session_agrees_broken :
    let network := Network.ofAnswers
      [.opened { Peer.silent with greeting := [.data (.text "hi"), .data (.binary [0])] }]
    let scenario := Scenario.empty "three" |>.pushEcho (.text "hi") |>.pushEcho (.text "")
      |>.pushText .identity "bye"
    let input : List UInt8 := [0x68, 0x69, 0x0A, 0x0A, 0x62, 0x79, 0x65]
    Session.nearby.attemptTimeout = none ∧
      scenario.payloads = ["hi", "", "bye"].map .text ∧
      (∀ text ∈ ["hi", "", "bye"], Typable text) ∧ Typed ["hi", "", "bye"] input ∧
      ∃ r t, Session.nearby.conduct scenario network 0 0 = .ok r ∧
        Session.nearby.interactive.run input network 7 = .ok t ∧ Agrees scenario.steps r t ∧
        t.result = .error (.responseTimeout (.ofMilliseconds 10000)) := by
  intro network scenario input
  have htypable : ∀ text ∈ ["hi", "", "bye"], Typable text := by decide
  have hinput : Typed ["hi", "", "bye"] input := .cons (.cons (.last (by decide)))
  obtain ⟨hrecord, -⟩ := session_agrees Session.nearby scenario _ input network 0 7 rfl rfl htypable
    hinput
  have hrun : ∃ r, Session.nearby.conduct scenario network 0 0 = .ok r ∧
      r.attempt.fault = some (.responseTimeout (.ofMilliseconds 10000)) := ⟨_, rfl, rfl⟩
  obtain ⟨r, hr, hfault⟩ := hrun
  obtain ⟨t, ht, hagrees⟩ := hrecord.of_conduct hr
  exact ⟨rfl, rfl, htypable, hinput, r, t, hr, ht, hagrees, (hagrees.error_iff _).mpr hfault⟩

end Interactive

end Lockstep

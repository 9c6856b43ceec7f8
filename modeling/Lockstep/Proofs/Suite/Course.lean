import Lockstep.Proofs.Session.Judgement
import Lockstep.Suite.Run

/-!
# The course of a suite

The chat session follows the echo session, whatever became of that, unless its connection was
refused. So a suite comes to a report on both attempts, or to the fault of the connection that was
refused; and if it was the first, nothing is asked of the chat route.

What is to be assumed is that no fault on an open connection says that nothing listens. Such a fault
would end the suite as a refused connection does.
-/

namespace Lockstep

namespace Suite

variable {s : Suite} {network : Network} {now : Nat} {c : Course}

/-! ## The two sessions -/

/-- The fault of an attempt ends the suite if it says that nothing listens. -/
theorem refusal?_eq_some {a : Attempt} {cause : Fault} :
    refusal? a = some cause ↔ a.fault = some cause ∧ cause.isRefused = true := by
  unfold refusal?
  split
  · rename_i hstatus
    obtain ⟨cause', hcause', hr⟩ := Attempt.status_eq_refused.mp hstatus
    refine ⟨fun h ↦ ⟨h, ?_⟩, And.left⟩
    cases hcause'.symm.trans h
    exact hr
  · rename_i hstatus
    exact iff_of_false nofun fun h ↦ hstatus (Attempt.status_eq_refused.mpr ⟨cause, h⟩)

/-- An attempt was refused only if its fault says so. -/
theorem refusal?_eq_none {a : Attempt}
    (h : ∀ cause, a.fault = some cause → cause.isRefused = false) : refusal? a = none := by
  refine Option.eq_none_iff_forall_ne_some.mpr fun cause hcause ↦ ?_
  obtain ⟨hfault, hr⟩ := refusal?_eq_some.mp hcause
  rw [h cause hfault] at hr
  cases hr

def echoSession (s : Suite) : Session := ⟨1, s.echo, s.timeouts, none⟩

def chatSession (s : Suite) : Session := ⟨2, s.chat, s.timeouts, none⟩

/-- How many requests have been sent after a first session with this record. -/
def next (r : Session.Record) : Nat := if r.requested then 1 else 0

/-- What the echo session ends with. -/
def echoEnd (s : Suite) (network : Network) (now : Nat) : Except Halt Session.Record :=
  s.echoSession.conduct (.echo s.echo.transform) network 0 now

/-- What the chat session ends with that follows an echo session with record `r`. -/
def chatEnd (s : Suite) (network : Network) (r : Session.Record) : Except Halt Session.Record :=
  s.chatSession.conduct (.chat s.chat.transform) network (next r) r.finished

theorem run_eq (s : Suite) (network : Network) (now : Nat) :
    s.run network now = (do
      let r ← s.echoEnd network now
      match refusal? r.attempt with
      | some cause => return ⟨[r], some cause⟩
      | none =>
        let r' ← s.chatEnd network r
        return ⟨[r, r'], refusal? r'.attempt⟩) := by
  change s.echoEnd network now >>= _ = _
  refine bind_congr fun r ↦ ?_
  cases refusal? r.attempt with
  | some cause => rfl
  | none =>
    dsimp only
    rw [Nat.zero_add]
    change (s.chatEnd network r >>= _) >>= _ = _
    rw [bind_assoc]
    refine bind_congr fun r' ↦ ?_
    cases refusal? r'.attempt <;> rfl

/-- A suite is over after its echo session, which was refused, or after its chat session. -/
theorem run_cases (h : s.run network now = .ok c) :
    ∃ r, s.echoEnd network now = .ok r ∧
      ((∃ cause, refusal? r.attempt = some cause ∧ c = ⟨[r], some cause⟩) ∨
        refusal? r.attempt = none ∧ ∃ r', s.chatEnd network r = .ok r' ∧
          c = ⟨[r, r'], refusal? r'.attempt⟩) := by
  rw [run_eq] at h
  obtain ⟨r, hr, h⟩ := Halt.bind_eq_ok.mp h
  refine ⟨r, hr, ?_⟩
  split at h
  · rename_i cause hcause
    cases h
    exact .inl ⟨cause, hcause, rfl⟩
  · rename_i hnone
    obtain ⟨r', hr', h⟩ := Halt.bind_eq_ok.mp h
    cases h
    exact .inr ⟨hnone, r', hr', rfl⟩

/-! ## Connections that are refused -/

/-- Nothing listens where the request of the echo session goes. -/
def EchoRefused (s : Suite) (network : Network) : Prop :=
  network.Refuses 0 s.echo.uri s.timeouts.connect

/-- The echo session is not refused, and nothing listens where the request of the chat session goes
that follows it. -/
def ChatRefused (s : Suite) (network : Network) (now : Nat) : Prop :=
  ¬ s.EchoRefused network ∧ ∃ r, s.echoEnd network now = .ok r ∧
    network.Refuses (next r) s.chat.uri s.timeouts.connect

/-- A session waits, without a limit, for something that never comes. -/
def Stalls (s : Suite) (network : Network) (now : Nat) : Prop :=
  s.echoSession.Stalls (.echo s.echo.transform) network 0 now ∨
    ¬ s.EchoRefused network ∧ ∃ r, s.echoEnd network now = .ok r ∧
      s.chatSession.Stalls (.chat s.chat.transform) network (next r) r.finished

/-- `p` holds of the course of a suite. There is one unless a session stalls. -/
def Settles (s : Suite) (network : Network) (now : Nat) (p : Course → Prop) : Prop :=
  match s.run network now with
  | .ok c => p c
  | .error .endless => s.Stalls network now
  | .error _ => False

theorem Settles.of_run {p : Course → Prop} (h : s.Settles network now p)
    (hc : s.run network now = .ok c) : p c := by
  rwa [Settles, hc] at h

/-- A session without a deadline has no end only if it stalls. -/
theorem stalls_of_conduct {session : Session} {scenario : Scenario} {index start : Nat}
    {halt : Halt} (hlimit : session.attemptTimeout = none)
    (h : session.conduct scenario network index start = .error halt) :
    halt = .endless ∧ session.Stalls scenario network index start := by
  obtain ⟨-, limit, hsome, -⟩ | h := Session.conduct_eq_error h
  · rw [hlimit] at hsome
    cases hsome
  · exact h

theorem refused_echoSession :
    s.echoSession.Refused network 0 now ↔ s.EchoRefused network :=
  Session.refused_iff_of_unlimited (s := s.echoSession) rfl

theorem refused_chatSession {index : Nat} : s.chatSession.Refused network index now ↔
    network.Refuses index s.chat.uri s.timeouts.connect :=
  Session.refused_iff_of_unlimited (s := s.chatSession) rfl

theorem echoEnd_of_refused (h : s.EchoRefused network) (now : Nat) : ∃ t, s.echoEnd network now =
    .ok ⟨s.echoSession.unopened (.echo s.echo.transform) (.refused s.echo.uri), [], t, true⟩ :=
  Session.conduct_of_refused (refused_echoSession.mpr h)

theorem chatEnd_of_refused {r : Session.Record}
    (h : network.Refuses (next r) s.chat.uri s.timeouts.connect) : ∃ t, s.chatEnd network r =
    .ok ⟨s.chatSession.unopened (.chat s.chat.transform) (.refused s.chat.uri), [], t, true⟩ :=
  Session.conduct_of_refused (refused_chatSession.mpr h)

/-- A suite whose echo session is refused is over. -/
theorem run_of_echoRefused (h : s.EchoRefused network) (now : Nat) : ∃ t, s.run network now =
    .ok ⟨[⟨s.echoSession.unopened (.echo s.echo.transform) (.refused s.echo.uri), [], t, true⟩],
      some (.refused s.echo.uri)⟩ := by
  obtain ⟨t, ht⟩ := echoEnd_of_refused h now
  refine ⟨t, ?_⟩
  rw [run_eq, ht, Halt.ok_bind]
  rfl

theorem not_echoRefused_of_refusal? {r : Session.Record} (hr : s.echoEnd network now = .ok r)
    (hnone : refusal? r.attempt = none) : ¬ s.EchoRefused network := by
  intro h
  obtain ⟨t, ht⟩ := echoEnd_of_refused h now
  cases hr.symm.trans ht
  cases hnone

/-- What holds of each course to which a suite can come holds of its course. -/
theorem settles_of_run {p : Course → Prop} (h : ∀ c, s.run network now = .ok c → p c) :
    s.Settles network now p := by
  unfold Settles
  cases hrun : s.run network now with
  | ok c => exact h c hrun
  | error halt =>
    rw [run_eq] at hrun
    rcases Halt.bind_eq_error.mp hrun with hr | ⟨r, hr, hrun⟩
    · obtain ⟨rfl, hs⟩ := stalls_of_conduct rfl hr
      exact .inl hs
    split at hrun
    · cases hrun
    · rename_i hnone
      rcases Halt.bind_eq_error.mp hrun with hr' | ⟨r', -, hrun⟩
      · obtain ⟨rfl, hs⟩ := stalls_of_conduct rfl hr'
        exact .inr ⟨not_echoRefused_of_refusal? hr hnone, r, hr, hs⟩
      · cases hrun

/-- A suite has no end only if it stalls. -/
theorem stalls_of_run {halt : Halt} (h : s.run network now = .error halt) :
    halt = .endless ∧ s.Stalls network now := by
  have hsettles : s.Settles network now fun _ ↦ True := settles_of_run fun _ _ ↦ trivial
  rw [Settles, h] at hsettles
  cases halt with
  | endless => exact ⟨rfl, hsettles⟩
  | spanOverflow | instantOverflow | zeroDivisor => exact hsettles.elim

/-! ## The two attempts -/

theorem concerns_of_echoEnd {r : Session.Record} (hr : s.echoEnd network now = .ok r) :
    r.attempt.Concerns 1 s.echo (.echo s.echo.transform) :=
  (s.echoSession.record_concerns _ network 0 now).of_conduct hr

theorem concerns_of_chatEnd {r r' : Session.Record} (hr' : s.chatEnd network r = .ok r') :
    r'.attempt.Concerns 2 s.chat (.chat s.chat.transform) :=
  (s.chatSession.record_concerns _ network (next r) r.finished).of_conduct hr'

/-- The echo session succeeded exactly if its attempt is clean. -/
theorem succeeded_echoEnd {r : Session.Record} (hr : s.echoEnd network now = .ok r) :
    r.attempt.succeeded = true ↔ r.attempt.Clean :=
  (s.echoSession.record_succeeded_iff _ network 0 now).of_conduct hr

theorem succeeded_chatEnd {r r' : Session.Record} (hr' : s.chatEnd network r = .ok r') :
    r'.attempt.succeeded = true ↔ r'.attempt.Clean :=
  (s.chatSession.record_succeeded_iff _ network (next r) r.finished).of_conduct hr'

/-- The fault of the echo session ends the suite only if its connection is refused. -/
theorem echoRefused_of_refusal? (hnever : network.NeverRefuses) {r : Session.Record}
    {cause : Fault} (hr : s.echoEnd network now = .ok r) (h : refusal? r.attempt = some cause) :
    s.EchoRefused network := by
  obtain ⟨hf, hcause⟩ := refusal?_eq_some.mp h
  have hsettles := s.echoSession.record_refused (.echo s.echo.transform) 0 now hnever
  exact refused_echoSession.mp (hsettles.of_conduct hr cause hf hcause)

theorem refuses_of_refusal?_chatEnd (hnever : network.NeverRefuses) {r r' : Session.Record}
    {cause : Fault} (hr' : s.chatEnd network r = .ok r') (h : refusal? r'.attempt = some cause) :
    network.Refuses (next r) s.chat.uri s.timeouts.connect := by
  obtain ⟨hf, hcause⟩ := refusal?_eq_some.mp h
  have hsettles :=
    s.chatSession.record_refused (.chat s.chat.transform) (next r) r.finished hnever
  exact refused_chatSession.mp (hsettles.of_conduct hr' cause hf hcause)

/-! ## Success -/

/-- Neither session is refused, and both attempts are clean. -/
def Succeeds (s : Suite) (network : Network) (now : Nat) : Prop :=
  ¬ s.EchoRefused network ∧ ¬ s.ChatRefused network now ∧
    ∃ r r', s.echoEnd network now = .ok r ∧ s.chatEnd network r = .ok r' ∧
      r.attempt.Clean ∧ r'.attempt.Clean

theorem not_clean_of_refusal? {a : Attempt} {cause : Fault} (h : refusal? a = some cause) :
    ¬ a.Clean :=
  fun hclean ↦ nomatch hclean.fault.symm.trans (refusal?_eq_some.mp h).1

theorem passed_iff_clean {r r' : Session.Record} (hr : s.echoEnd network now = .ok r)
    (hr' : s.chatEnd network r = .ok r') :
    (⟨[r.attempt, r'.attempt]⟩ : SuiteReport).passed = true ↔
      r.attempt.Clean ∧ r'.attempt.Clean := by
  rw [SuiteReport.passed, List.all_eq_true]
  simp [succeeded_echoEnd hr, succeeded_chatEnd hr']

/-- A suite that comes to a report that it passed succeeds, and no other. -/
theorem passed_iff_succeeds (hc : s.run network now = .ok c) :
    (∃ report, c.report = .ok report ∧ report.passed = true) ↔ s.Succeeds network now := by
  obtain ⟨r, hr, ⟨cause, hcause, rfl⟩ | ⟨hnone, r', hr', rfl⟩⟩ := run_cases hc
  · refine iff_of_false nofun ?_
    rintro ⟨-, -, r₀, -, hr₀, -, hclean, -⟩
    cases hr.symm.trans hr₀
    exact not_clean_of_refusal? hcause hclean
  constructor
  · rintro ⟨report, hreport, hpassed⟩
    rw [Course.report] at hreport
    split at hreport
    · cases hreport
    · rename_i hnone'
      cases hreport
      refine ⟨not_echoRefused_of_refusal? hr hnone, ?_, r, r', hr, hr',
        (passed_iff_clean hr hr').mp hpassed⟩
      rintro ⟨-, r₀, hr₀, hrefuses⟩
      cases hr.symm.trans hr₀
      obtain ⟨t, ht⟩ := chatEnd_of_refused (s := s) hrefuses
      cases hr'.symm.trans ht
      cases hnone'
  · rintro ⟨-, -, r₀, r₀', hr₀, hr₀', hclean, hclean'⟩
    cases hr.symm.trans hr₀
    cases hr'.symm.trans hr₀'
    have hnone' : refusal? r'.attempt = none :=
      Option.eq_none_iff_forall_ne_some.mpr fun cause h ↦ not_clean_of_refusal? h hclean'
    refine ⟨⟨[r.attempt, r'.attempt]⟩, ?_, (passed_iff_clean hr hr').mpr ⟨hclean, hclean'⟩⟩
    rw [Course.report, hnone']
    rfl

/-! ## What a suite comes to -/

/-- What a suite comes to. -/
structure Concluded (s : Suite) (network : Network) (now : Nat) (c : Course) : Prop where
  /-- There is no report exactly if one of the connections is refused, and then the fault names the
  endpoint of that session. -/
  report_eq_error : ∀ cause, c.report = .error cause ↔
    s.EchoRefused network ∧ cause = .refused s.echo.uri ∨
      s.ChatRefused network now ∧ cause = .refused s.chat.uri
  isRefused : ∀ cause, c.report = .error cause → cause.isRefused = true
  /-- If the echo session is refused there is no other request, whatever would answer it. -/
  requests_eq : s.EchoRefused network → c.requests = 1 ∧
    ∀ network' : Network, network'.answer 0 = network.answer 0 → s.run network' now = .ok c
  /-- If neither session is refused, the report is on both attempts. -/
  report_eq_ok : ¬ s.EchoRefused network → ¬ s.ChatRefused network now →
    ∃ r r', s.echoEnd network now = .ok r ∧ s.chatEnd network r = .ok r' ∧
      r.attempt.Concerns 1 s.echo (.echo s.echo.transform) ∧
      r'.attempt.Concerns 2 s.chat (.chat s.chat.transform) ∧
      c.report = .ok ⟨[r.attempt, r'.attempt]⟩
  passed_iff : ∀ report, c.report = .ok report →
    (report.passed = true ↔ ∀ a ∈ report.attempts, a.Clean)

/-- A suite is concluded that ends with its echo session. -/
theorem concluded_of_echoRefused (h : s.EchoRefused network) (hc : s.run network now = .ok c) :
    s.Concluded network now c := by
  obtain ⟨t, ht⟩ := run_of_echoRefused h now
  cases hc.symm.trans ht
  refine ⟨?_, ?_, ?_, ?_, ?_⟩
  · intro cause
    refine ⟨fun hcause ↦ ?_, ?_⟩
    · cases hcause
      exact .inl ⟨h, rfl⟩
    · rintro (⟨-, rfl⟩ | ⟨hchat, -⟩)
      · rfl
      · exact absurd h hchat.1
  · intro cause hcause
    cases hcause
    rfl
  · refine fun _ ↦ ⟨rfl, fun network' hanswer ↦ ?_⟩
    have hecho : s.echoEnd network' now = s.echoEnd network now := Session.conduct_congr hanswer
    rw [← hc, run_eq, run_eq, hecho]
    obtain ⟨t', ht'⟩ := echoEnd_of_refused h now
    rw [ht', Halt.ok_bind, Halt.ok_bind]
    rfl
  · exact fun hnot ↦ absurd h hnot
  · exact nofun

/-- A suite is concluded that ends with its chat session. -/
theorem concluded_of_chatEnd (hnever : network.NeverRefuses) {r r' : Session.Record}
    (hr : s.echoEnd network now = .ok r) (hnone : refusal? r.attempt = none)
    (hr' : s.chatEnd network r = .ok r') :
    s.Concluded network now ⟨[r, r'], refusal? r'.attempt⟩ := by
  have hecho := not_echoRefused_of_refusal? hr hnone
  have hchat : s.ChatRefused network now ↔
      network.Refuses (next r) s.chat.uri s.timeouts.connect := by
    refine ⟨?_, fun h ↦ ⟨hecho, r, hr, h⟩⟩
    rintro ⟨-, r₀, hr₀, h⟩
    cases hr.symm.trans hr₀
    exact h
  have hrefusal : ∀ cause, refusal? r'.attempt = some cause ↔
      s.ChatRefused network now ∧ cause = .refused s.chat.uri := by
    intro cause
    rw [hchat]
    constructor
    · intro h
      have hrefuses := refuses_of_refusal?_chatEnd hnever hr' h
      obtain ⟨t, ht⟩ := chatEnd_of_refused (s := s) hrefuses
      cases hr'.symm.trans ht
      cases h
      exact ⟨hrefuses, rfl⟩
    · rintro ⟨hrefuses, rfl⟩
      obtain ⟨t, ht⟩ := chatEnd_of_refused (s := s) hrefuses
      cases hr'.symm.trans ht
      rfl
  have hreport : ∀ cause, Course.report ⟨[r, r'], refusal? r'.attempt⟩ = .error cause ↔
      refusal? r'.attempt = some cause := by
    intro cause
    unfold Course.report
    cases refusal? r'.attempt <;> simp
  refine ⟨?_, ?_, ?_, ?_, ?_⟩
  · intro cause
    rw [hreport, hrefusal]
    exact ⟨.inr, fun h ↦ h.resolve_left fun h ↦ hecho h.1⟩
  · intro cause hcause
    exact (refusal?_eq_some.mp ((hreport cause).mp hcause)).2
  · exact fun h ↦ absurd h hecho
  · intro _ hnot
    refine ⟨r, r', hr, hr', concerns_of_echoEnd hr, concerns_of_chatEnd hr', ?_⟩
    have hnone' : refusal? r'.attempt = none :=
      Option.eq_none_iff_forall_ne_some.mpr fun cause h ↦ hnot ((hrefusal cause).mp h).1
    rw [Course.report, hnone']
    rfl
  · intro report hok
    have hattempts : report = ⟨[r.attempt, r'.attempt]⟩ := by
      unfold Course.report at hok
      split at hok
      · cases hok
      · cases hok
        rfl
    subst hattempts
    rw [passed_iff_clean hr hr']
    simp

/-- A suite comes to its report, or to the fault of the connection that was refused, whatever the
network does, if only no fault on an open connection says that nothing listens. -/
theorem suite_concluded (s : Suite) (network : Network) (now : Nat)
    (hnever : network.NeverRefuses) :
    s.Settles network now (s.Concluded network now) := by
  refine settles_of_run fun c hc ↦ ?_
  obtain ⟨r, hr, ⟨cause, hcause, -⟩ | ⟨hnone, r', hr', rfl⟩⟩ := run_cases hc
  · exact concluded_of_echoRefused (echoRefused_of_refusal? hnever hr hcause) hc
  · exact concluded_of_chatEnd hnever hr hnone hr'

/-- The routes of a server on this machine. -/
def nearby : Suite :=
  ⟨⟨"127.0.0.1", 8765, "/", .identity⟩, ⟨"127.0.0.1", 8765, "/chat", .identity⟩, .standard⟩

/-- The echo session is turned away by the server, and the chat session takes place. -/
theorem suite_concluded_nearby :
    let network := Network.ofAnswers [.failed (.http 404), .opened (.replying .identity)]
    network.NeverRefuses ∧ ∃ c, nearby.run network 0 = .ok c ∧ c.requests = 2 ∧
      nearby.Concluded network 0 c := by
  intro network
  have hnever : network.NeverRefuses := by
    refine Network.ofAnswers_neverRefuses fun delay peer hpeer ↦ ?_
    obtain h | h := List.mem_cons.mp hpeer
    · cases h
    · cases List.mem_singleton.mp h
      exact Peer.replying_neverRefuses _
  have hrun : ∃ c, nearby.run (.ofAnswers [.failed (.http 404), .opened (.replying .identity)]) 0
      = .ok c ∧ c.requests = 2 := ⟨_, rfl, rfl⟩
  obtain ⟨c, hc, hrequests⟩ := hrun
  exact ⟨hnever, c, hc, hrequests, (suite_concluded nearby network 0 hnever).of_run hc⟩

end Suite

end Lockstep

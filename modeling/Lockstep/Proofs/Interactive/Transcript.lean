import Lockstep.Proofs.Interactive.Talk
import Lockstep.Proofs.Session.Alternation
import Lockstep.Proofs.Session.Cause

/-!
# The transcript of an interactive session

What an interactive session shows and what it results in are settled by its input and by the data
frames that the peer sends. The texts go out in turns with the responses to them. If all of them are
answered, the session ends as the input does; otherwise it ends with the fault at the first text
without a response, and in both cases all responses before are shown.
-/

namespace Lockstep.Interactive

/-! ## When a session settles -/

/-- What is the same in an interactive session and in an attempt: a connection without a limit on
the whole. -/
def session (s : Interactive) : Session := ⟨1, s.endpoint, s.timeouts, none⟩

/-- Opens the connection of the session. -/
def opening (s : Interactive) (network : Network) (now : Nat) : Except Halt Network.Opening :=
  s.session.opening network 0 now none

/-- `p` holds of what a session leaves behind. It leaves something behind unless it waits, without a
limit, for its connection or for a response that never comes. -/
def Settles (s : Interactive) (input : List UInt8) (network : Network) (now : Nat)
    (p : Transcript → Prop) : Prop :=
  match s.run input network now with
  | .ok t => p t
  | .error .endless => s.session.Stalls (scenario (texts (lines input))) network 0 now
  | .error _ => False

variable {s : Interactive} {input : List UInt8} {network : Network} {now : Nat}

theorem Settles.of_run {p : Transcript → Prop} (h : s.Settles input network now p)
    {t : Transcript} (ht : s.run input network now = .ok t) : p t := by
  rwa [Settles, ht] at h

theorem run_eq (s : Interactive) (input : List UInt8) (network : Network) (now : Nat) :
    s.run input network now = (do
      let o ← s.opening network now
      match o.result with
      | .error cause => return ⟨"", .error cause, [], o.requested⟩
      | .ok c =>
        let t ← talk s.timeouts.response 0 (lines input) c
        return ⟨banner ++ t.printed, t.result, t.connection.traffic, o.requested⟩) := by
  rw [run, opening, Session.opening, budget_none]
  rfl

/-- What holds of what is left behind without a connection, and with one after each exchange of the
texts, holds of what a session leaves behind. -/
theorem settles_of_opening {p : Transcript → Prop}
    (hu : ∀ o cause, s.opening network now = .ok o → o.result = .error cause →
      p ⟨"", .error cause, [], o.requested⟩)
    (hx : ∀ o peer start x t, s.opening network now = .ok o → o.result = .ok (.start peer start) →
      Session.exchange s.timeouts.response none 0 (scenario (texts (lines input))).steps
        (.start peer start) = .ok x →
      Tells (finish (lines input)) 0 (.start peer start) x t →
      p ⟨banner ++ t.printed, t.result, t.connection.traffic, o.requested⟩) :
    s.Settles input network now p := by
  rw [Settles, run_eq]
  cases ho : s.opening network now with
  | error halt =>
    obtain ⟨rfl, -, hl, hr⟩ := Session.opening_eq_error ho
    exact ⟨rfl, .inl ⟨hl, hr⟩⟩
  | ok o =>
    rw [Halt.ok_bind]
    cases hc : o.result with
    | error cause => exact hu o cause ho hc
    | ok c =>
      have hstart := Session.eq_start_of_opening ho hc
      have htells := talk_tells (payloads_scenario (texts (lines input))) s.timeouts.response 0 0 c
      dsimp only
      generalize hex : Session.exchange _ _ _ _ c = e,
        talk s.timeouts.response 0 (lines input) c = d at htells
      cases htells with
      | @ok x t h =>
        rw [hstart] at hc hex h
        exact hx o c.peer c.now x t ho hc hex h
      | error halt =>
        obtain ⟨rfl, hl, -, hsilent⟩ := Session.exchange_error hex
        have hp := Session.peer?_of_opening (s := s.session) rfl ho
        rw [hc] at hp
        rw [hstart] at hsilent
        exact ⟨rfl, .inr ⟨hl, c.peer, hp, hsilent⟩⟩
      | excused h => exact h.elim

/-- A session has no end only if it stalls. -/
theorem stalls_of_run {halt : Halt} (h : s.run input network now = .error halt) :
    halt = .endless ∧ s.session.Stalls (scenario (texts (lines input))) network 0 now := by
  have hsettles : s.Settles input network now fun _ ↦ True :=
    settles_of_opening (fun _ _ _ _ ↦ trivial) fun _ _ _ _ _ _ _ _ _ ↦ trivial
  rw [Settles, h] at hsettles
  cases halt with
  | endless => exact ⟨rfl, hsettles⟩
  | spanOverflow | instantOverflow | zeroDivisor => exact hsettles.elim

/-- What holds of each transcript that a session can leave behind holds of the one it leaves. -/
theorem settles_of_run {p : Transcript → Prop}
    (h : ∀ t, s.run input network now = .ok t → p t) : s.Settles input network now p := by
  unfold Settles
  cases ht : s.run input network now with
  | error halt =>
    obtain ⟨rfl, hstalls⟩ := stalls_of_run ht
    exact hstalls
  | ok t => exact h t ht

/-! ## What is left behind -/

/-- The transcript of a session of `texts`, behind which `fin` stands, with a peer. -/
structure Transcribed (texts : List String) (fin : Finish) (limit : Option Span) (peer : Peer)
    (t : Transcript) : Prop where
  /-- The texts are written in order, each only after the response to the one before. -/
  alternating : Traffic.Alternating (texts.map .text) (peer.frames (Traffic.written t.traffic))
    t.traffic
  /-- The responses are the first data frames of the peer. -/
  responses_prefix : Traffic.responses t.traffic <+: peer.frames (Traffic.written t.traffic)
  length_le : (Traffic.responses t.traffic).length ≤ texts.length
  quit : fin = .quit → (Traffic.responses t.traffic).length = texts.length →
    t.result = .ok texts.length ∧
      t.output = banner ++ dialogue (Traffic.responses t.traffic) ++ prompt ++ farewell
  exhausted : fin = .exhausted → (Traffic.responses t.traffic).length = texts.length →
    t.result = .ok texts.length ∧
      t.output = banner ++ dialogue (Traffic.responses t.traffic) ++ prompt
  malformed : ∀ e, fin = .malformed e → (Traffic.responses t.traffic).length = texts.length →
    t.result = .error (malformedLine e) ∧
      t.output = banner ++ dialogue (Traffic.responses t.traffic) ++ prompt
  /-- A text without a response breaks the session, for a cause that the peer gives. -/
  broken : (Traffic.responses t.traffic).length < texts.length →
    ∃ (cause : Fault) (c : Connection), c.peer = peer ∧ c.traffic = t.traffic ∧
      c.Broke limit none cause ∧ t.result = .error cause ∧
      t.output = banner ++ dialogue (Traffic.responses t.traffic) ++ prompt

/-- A session that tells of an exchange of its texts with a peer leaves such a transcript. -/
theorem transcribed_of_tells {texts : List String} {fin : Finish} {limit : Option Span}
    {peer : Peer} {start : Nat} {x : Session.Exchange} {t : Talk} (requested : Bool)
    (hx : Session.exchange limit none 0 (scenario texts).steps (.start peer start) = .ok x)
    (h : Tells fin 0 (.start peer start) x t) :
    Transcribed texts fin limit peer
      ⟨banner ++ t.printed, t.result, t.connection.traffic, requested⟩ := by
  obtain ⟨hconnection, traffic, htraffic, hprinted, hresult⟩ := h
  obtain rfl : x.connection.traffic = traffic := htraffic
  obtain ⟨m, hm, -, hlog, hframes⟩ := Session.exchange_reachable hx
  have hrecorded := Session.recorded_of_start hx
  have hlength : (scenario texts).steps.length = texts.length := List.length_map ..
  have halternating := hm.alternating
  have hprefix := hm.orderly.responses_prefix
  rw [hframes, hlog] at halternating hprefix
  rw [payloads_scenario] at halternating
  have hle := hrecorded.length_responses_le
  have hunbroken := hrecorded.fault_eq_none_iff
  rw [hlength] at hle hunbroken
  rw [Nat.zero_add] at hresult
  rw [hconnection, hprinted, hresult]
  refine ⟨halternating, hprefix, hle, ?_, ?_, ?_, ?_⟩
  · rintro rfl hall
    rw [hunbroken.mpr hall]
    refine ⟨congrArg _ hall, ?_⟩
    rw [String.append_assoc, String.append_assoc]
    rfl
  · rintro rfl hall
    rw [hunbroken.mpr hall]
    exact ⟨congrArg _ hall, (String.append_assoc ..).symm⟩
  · rintro e rfl hall
    rw [hunbroken.mpr hall]
    exact ⟨rfl, (String.append_assoc ..).symm⟩
  · intro hlt
    cases hf : x.fault with
    | none => exact absurd (hunbroken.mp hf) (Nat.ne_of_lt hlt)
    | some cause =>
      have hbroke := Session.exchange_broke hx (Connection.level_start peer start) hf
      refine ⟨cause, x.connection, Session.exchange_peer hx, rfl, hbroke, ?_, ?_⟩
      · cases fin <;> rfl
      · cases fin <;> exact (String.append_assoc ..).symm

/-- A session has a number of responses as its result exactly if all texts are answered and the
input ends or a quit word is read. -/
theorem Transcribed.result_eq_ok_iff {texts : List String} {fin : Finish} {limit : Option Span}
    {peer : Peer} {t : Transcript} (h : Transcribed texts fin limit peer t) :
    (∃ count, t.result = .ok count) ↔
      (Traffic.responses t.traffic).length = texts.length ∧ (fin = .quit ∨ fin = .exhausted) := by
  constructor
  · rintro ⟨count, hcount⟩
    have hall : (Traffic.responses t.traffic).length = texts.length := by
      refine Nat.le_antisymm h.length_le (Nat.le_of_not_lt fun hlt ↦ ?_)
      obtain ⟨cause, c, -, -, -, hresult, -⟩ := h.broken hlt
      cases hcount.symm.trans hresult
    refine ⟨hall, ?_⟩
    cases fin with
    | quit => exact .inl rfl
    | exhausted => exact .inr rfl
    | malformed e => cases hcount.symm.trans (h.malformed e rfl hall).1
  · rintro ⟨hall, rfl | rfl⟩
    · exact ⟨_, (h.quit rfl hall).1⟩
    · exact ⟨_, (h.exhausted rfl hall).1⟩

/-- The connection is opened, all texts are answered, and the input ends or a quit word is read. -/
def Succeeds (s : Interactive) (input : List UInt8) (network : Network) (now : Nat) : Prop :=
  (∃ o c, s.opening network now = .ok o ∧ o.result = .ok c) ∧
    ∃ t, s.run input network now = .ok t ∧
      (Traffic.responses t.traffic).length = (texts (lines input)).length ∧
      (finish (lines input) = .quit ∨ finish (lines input) = .exhausted)

/-- A session has a number of responses as its result exactly if it succeeds. -/
theorem result_eq_ok_iff_succeeds {t : Transcript} (ht : s.run input network now = .ok t) :
    (∃ count, t.result = .ok count) ↔ s.Succeeds input network now := by
  have hsettles : s.Settles input network now fun t ↦ (∃ count, t.result = .ok count) ↔
      (∃ o c, s.opening network now = .ok o ∧ o.result = .ok c) ∧
        (Traffic.responses t.traffic).length = (texts (lines input)).length ∧
        (finish (lines input) = .quit ∨ finish (lines input) = .exhausted) := by
    refine settles_of_opening ?_ ?_
    · intro o cause ho hc
      refine iff_of_false nofun ?_
      rintro ⟨⟨o', c, ho', hc'⟩, -⟩
      cases ho.symm.trans ho'
      cases hc.symm.trans hc'
    · intro o peer start x t ho hc hx ht
      rw [(transcribed_of_tells o.requested hx ht).result_eq_ok_iff]
      exact (and_iff_right ⟨o, _, ho, hc⟩).symm
  rw [hsettles.of_run ht, Succeeds]
  refine and_congr_right fun _ ↦ ⟨fun h ↦ ⟨t, ht, h⟩, ?_⟩
  rintro ⟨t', ht', h⟩
  cases ht.symm.trans ht'
  exact h

/-- An interactive session leaves nothing but the fault if its connection cannot be opened, and
otherwise the transcript of its texts with the peer, whatever its input is and whatever the peer
does. -/
theorem session_transcribed (s : Interactive) (input : List UInt8) (network : Network)
    (now : Nat) :
    s.Settles input network now fun t ↦
      (∀ o cause, s.opening network now = .ok o → o.result = .error cause →
        t.result = .error cause ∧ t.output = "" ∧ t.traffic = []) ∧
      ∀ o c, s.opening network now = .ok o → o.result = .ok c →
        Transcribed (texts (lines input)) (finish (lines input)) s.timeouts.response c.peer t := by
  refine settles_of_opening ?_ ?_
  · intro o cause ho hc
    refine ⟨?_, ?_⟩
    · intro o' cause' ho' hc'
      cases ho.symm.trans ho'
      cases hc.symm.trans hc'
      exact ⟨rfl, rfl, rfl⟩
    · intro o' c ho' hc'
      cases ho.symm.trans ho'
      cases hc.symm.trans hc'
  · intro o peer start x t ho hc hx ht
    refine ⟨?_, ?_⟩
    · intro o' cause ho' hc'
      cases ho.symm.trans ho'
      cases hc.symm.trans hc'
    · intro o' c ho' hc'
      cases ho.symm.trans ho'
      cases hc.symm.trans hc'
      exact transcribed_of_tells o.requested hx ht

/-- A text, a blank line and a quit word in capitals. -/
example :
    (fun t ↦ (t.output, t.result)) <$> (mk ⟨"127.0.0.1", 8765, "/", .before "> "⟩ .standard).run
      [0x68, 0x69, 0x0A, 0x0A, 0x51, 0x0A] (.ofAnswers [.opened (.replying (.before "> "))]) 0 =
    .ok (banner ++ "You: Server: > hi\n\nYou: Server: > \n\nYou: Closing connection...\n",
      .ok 2) := by
  rfl

end Lockstep.Interactive

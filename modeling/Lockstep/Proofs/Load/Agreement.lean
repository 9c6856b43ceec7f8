import Lockstep.Proofs.Load.Accounting

/-!
# Client and server agree

Against a server, a session at one of its routes that looks for what the transform of the route
makes of its messages is without a flaw, and so is a load run, all of whose sessions do. What is
needed is that the client can ask for the route at all, that no wait is given up before the answer
comes, and that there is a report.
-/

namespace Lockstep

/-- All messages of all connections have the response that was looked for. -/
structure Report.Complete (r : Report) (connections messages : Nat) : Prop where
  succeeded : r.count .succeeded = connections
  sent : r.totalSent = connections * messages
  received : r.totalReceived = connections * messages
  matched : r.totalMatched = connections * messages
  allSucceeded : r.allSucceeded = true

/-- Where the figures agree with each other, one success of all connections makes them complete. -/
theorem Report.Accounted.complete {r : Report} {connections messages : Nat}
    (h : r.Accounted connections messages) (hall : r.allSucceeded = true) :
    r.Complete connections messages := by
  have hmatched := h.allSucceeded_iff_matched.mp hall
  have hreceived := h.allSucceeded_iff_received.mp hall
  have hsent : r.totalSent = connections * messages :=
    Nat.le_antisymm h.sent_le (hmatched ▸ h.matched_le_sent)
  have hcount : r.count .succeeded = r.totalConnections := by
    rw [allSucceeded, Bool.and_eq_true, decide_eq_true_eq, decide_eq_true_eq] at hall
    exact hall.2
  exact ⟨hcount.trans h.total, hsent, hreceived, hmatched, hall⟩

namespace LoadPlan

variable {p : LoadPlan} {endpoint : Endpoint} {network : Network} {draw : Nat → Scenario.Draw}
  {now : Nat} {delays : Set Nat}

/-- What holds of the report of a load run without a flaw is that it is complete. -/
theorem Flawless.run_follows (h : p.Flawless endpoint network draw now delays)
    (hv : p.validate = .ok ()) :
    Report.Follows (p.attempts endpoint network draw now)
      (fun r ↦ r.Complete p.connections p.messages)
      (Course.report <$> p.run endpoint network draw now) := by
  obtain ⟨hn, hk⟩ := validate_eq_ok.mp hv
  refine LoadPlan.run_follows hk h.task_ne_endless fun r hr ↦ ?_
  have haccounted : r.Accounted p.connections p.messages :=
    Report.accounted_of_coherent hn hk (hr ▸ ids_attempts hk) (hr ▸ coherent_attempts hk)
  refine haccounted.complete (Report.allSucceeded_iff.mpr ⟨?_, ?_⟩)
  · rw [haccounted.total]
    exact hn
  · intro a ha
    rw [hr] at ha
    exact (h.of_mem a ha).succeeded

/-- A load run without a flaw has no report if it waited for more than a span, or if its messages
are a multiple of 2^32. -/
theorem Flawless.run_ne_ok (h : p.Flawless endpoint network draw now delays)
    (hv : p.validate = .ok ())
    (hbad : 0x10000000000000000 * 1000000000 ≤
        total ((p.attempts endpoint network draw now).map Attempt.waited) ∨
      0x100000000 ∣ p.connections * p.messages) (c : Course) :
    p.run endpoint network draw now ≠ .ok c := by
  intro hrun
  obtain ⟨hn, hk⟩ := validate_eq_ok.mp hv
  have hfollows := h.run_follows hv
  rw [hrun] at hfollows
  obtain ⟨hwaited, hdivisor⟩ := hfollows.of_ok.1
  obtain hbad | hbad := hbad
  · exact Nat.not_lt_of_le hbad hwaited
  · rw [h.answered_eq] at hdivisor
    exact Nat.ne_of_gt (Nat.mul_pos hn hk) (hdivisor hbad)

end LoadPlan

/-! ## Agreement -/

/-- A server with any routes besides the standard ones serves a session at each route that the
client can ask for, and a load run at it: if no wait is given up before the answer comes, no message
of them lacks the response that was looked for, and the load run has a report that says so, if its
time is a span and its messages are no multiple of 2^32. -/
theorem client_server_agree (routes : List (String × Transform)) (e : Endpoint) (t : Transform)
    (network : Network) (delays : Set Nat) (now : Nat)
    (hroute : (Server.standard.withRoutes routes).route? e.path = some t) (hplain : e.Plain)
    (hauthority : Request.Authority.check e.authority.toList = .ok ())
    (hchars : e.path.toList.all Request.isPathChar = true)
    (hlength : e.uri.utf8ByteSize ≤ Request.longest)
    (hnetwork : network.Serves (Server.standard.withRoutes routes) delays) :
    (∀ (s : Session) (scenario : Scenario) (index : Nat), s.endpoint = e → scenario.Suits t →
      Session.OnClock s.attemptTimeout now →
      ∃ r, s.conduct scenario network index now = .ok r ∧
        (r.attempt.Flawless scenario.length delays ∨ r.attempt.GaveUp delays)) ∧
    (∀ (p : LoadPlan) (draw : Nat → Scenario.Draw), p.validate = .ok () → e.transform = t →
      Session.OnClock p.attemptTimeout now →
      (∀ id ∈ p.ids, ∀ r, p.task e network draw now id = .ok r → ¬ r.attempt.GaveUp delays) →
      total ((p.attempts e network draw now).map Attempt.waited) <
        0x10000000000000000 * 1000000000 →
      ¬ 0x100000000 ∣ p.connections * p.messages →
      ∃ c, p.run e network draw now = .ok c ∧ c.report.Complete p.connections p.messages) := by
  have hrequest : Request.ofUri e.uri = .ok ⟨e.authority, e.path, none⟩ :=
    hplain.ofUri_eq_ok.mpr ⟨rfl, hlength, hauthority, hchars⟩
  constructor
  · rintro s scenario index rfl hsuits hclock
    exact Session.conduct_served index hnetwork hrequest (hplain.resolve hroute) hsuits hclock
  · rintro p draw hv rfl hclock hpatient hwaited hcount
    have hflawless :=
      LoadPlan.flawless_of_serves hnetwork hrequest (hplain.resolve hroute) hclock hpatient
    obtain ⟨r, hr, hcomplete⟩ := (hflawless.run_follows hv).exists_ok ⟨hwaited, by
      rw [hflawless.answered_eq]
      exact fun hdvd ↦ absurd hdvd hcount⟩
    obtain ⟨c, hc, rfl⟩ := Halt.map_eq_ok.mp hr
    exact ⟨c, hc, hcomplete⟩

/-- The standard load run at a route with a template, and the echo scenario at it. -/
theorem client_server_agree_shout :
    let e : Endpoint := ⟨"127.0.0.1", 8765, "/shout", .template "\x7b\x7d!"⟩
    let server := Server.standard.withRoutes [("/shout", .template "\x7b\x7d!")]
    (∃ r,
      (⟨1, e, .standard, none⟩ : Session).conduct (.echo e.transform) server.network 0 0 = .ok r ∧
      r.attempt.Flawless 5 {0}) ∧
    ∃ c, LoadPlan.standard.run e server.network (fun _ _ _ ↦ 0) 0 = .ok c ∧
      c.report.Complete 10 5 := by
  intro e server
  have hroute : server.route? e.path = some (.template "\x7b\x7d!") := by decide
  have hplain : e.Plain :=
    ⟨by decide, String.startsWith_string_iff.mpr (by decide), by decide⟩
  obtain ⟨hsession, hload⟩ := client_server_agree [("/shout", .template "\x7b\x7d!")] e _
    server.network {0} 0 hroute hplain (by decide) (by decide) (by decide) server.network_serves
  constructor
  · obtain ⟨r, hr, h⟩ := hsession ⟨1, e, .standard, none⟩ (.echo e.transform) 0 rfl
      (Scenario.echo_suits _) nofun
    exact ⟨r, hr, h.resolve_right (Attempt.not_gaveUp_zero _)⟩
  · have hpatient : ∀ id ∈ LoadPlan.standard.ids, ∀ r,
        LoadPlan.standard.task e server.network (fun _ _ _ ↦ 0) 0 id = .ok r →
        ¬ r.attempt.GaveUp {0} := fun _ _ r _ ↦ r.attempt.not_gaveUp_zero
    have hflawless : LoadPlan.standard.Flawless e server.network (fun _ _ _ ↦ 0) 0 {0} :=
      LoadPlan.flawless_of_serves server.network_serves
        (hplain.ofUri_eq_ok.mpr ⟨rfl, by decide, by decide, by decide⟩)
        (hplain.resolve hroute) nofun hpatient
    refine hload LoadPlan.standard _ rfl rfl nofun hpatient ?_ (by decide)
    rw [hflawless.waited_eq]
    decide

/-! ## Where they cannot agree -/

namespace Endpoint

/-- A route whose path is a slash and `n` letters. -/
def long (n : Nat) : Endpoint :=
  ⟨"127.0.0.1", 8765, String.ofList ('/' :: List.replicate n 'a'), .identity⟩

variable {n : Nat}

theorem toList_path_long : (long n).path.toList = '/' :: List.replicate n 'a' :=
  String.toList_ofList

theorem mem_path_long {c : Char} (hc : c ∈ (long n).path.toList) : c = '/' ∨ c = 'a' := by
  rw [toList_path_long, List.mem_cons, List.mem_replicate] at hc
  exact hc.imp_right And.right

theorem long_plain (n : Nat) : (long n).Plain where
  host := by
    change "127.0.0.1".toList.all Request.isHostPart = true
    decide
  rooted := by
    rw [String.startsWith_string_iff, toList_path_long]
    exact List.prefix_append ['/'] _
  path := by
    rw [List.all_eq_true]
    intro c hc
    obtain rfl | rfl := mem_path_long hc <;> rfl

theorem isPathChar_long (n : Nat) : (long n).path.toList.all Request.isPathChar = true := by
  rw [List.all_eq_true]
  intro c hc
  obtain rfl | rfl := mem_path_long hc <;> rfl

/-- The client cannot ask for a path that is too long. -/
theorem ofUri_long (hn : Request.longest ≤ n) : Request.ofUri (long n).uri = .error .tooLong := by
  have hsize := length_le_utf8ByteSize (long n).uri
  have hpath : (long n).path.toList.length = n + 1 := by
    rw [toList_path_long, List.length_cons, List.length_replicate]
  rw [toList_uri, List.length_cons, List.length_cons, List.length_cons, List.length_cons,
    List.length_cons, List.length_append, hpath] at hsize
  exact if_pos (by omega)

/-- An attempt at such a path comes to its end without a request. -/
theorem conduct_long (hn : Request.longest ≤ n) (scenario : Scenario) (network : Network) :
    (⟨1, long n, .standard, none⟩ : Session).conduct scenario network 0 0 =
      .ok ⟨(⟨1, long n, .standard, none⟩ : Session).unopened scenario (.socket (.uri .tooLong)),
        [], 0, false⟩ := by
  have hopening : (⟨1, long n, .standard, none⟩ : Session).opening network 0 0 none =
      .ok ⟨.error (.socket (.uri .tooLong)), 0, false⟩ := by
    rw [Session.opening, Network.connect, ofUri_long hn]
  exact Session.conduct_of_unopened rfl hopening rfl

theorem route?_long (n : Nat) :
    (Server.standard.withRoute (long n).path .identity).route? (long n).path = some .identity :=
  if_pos rfl

theorem check_long (n : Nat) : Request.Authority.check (long n).authority.toList = .ok () := by
  change Request.Authority.check root.authority.toList = .ok ()
  decide

end Endpoint

/-- There are limits to the agreement of client and server: a route that the client cannot ask for
since its URI is too long, a deadline that the clock cannot show, round trips that are too long for
a span together, and a count of messages that is a multiple of 2^32. -/
theorem client_server_disagree :
    ((Server.standard.withRoute (Endpoint.long 65534).path .identity).route?
          (Endpoint.long 65534).path = some .identity ∧
      (Endpoint.long 65534).Plain ∧
      Request.Authority.check (Endpoint.long 65534).authority.toList = .ok () ∧
      (Endpoint.long 65534).path.toList.all Request.isPathChar = true ∧
      ∃ r, (⟨1, .long 65534, .standard, none⟩ : Session).conduct (.echo .identity)
          (Server.standard.withRoute (Endpoint.long 65534).path .identity).network 0 0 = .ok r ∧
        r.attempt.fault = some (.socket (.uri .tooLong)) ∧ r.attempt.succeeded = false) ∧
    (⟨1, .root, .standard, some (.clamp (0x10000000000000000 * 1000000000))⟩ : Session).conduct
        (.echo .identity) Server.standard.network 0 0 = .error .instantOverflow ∧
    (∀ c, LoadPlan.run ⟨1, 2, 0, none, .both none⟩ .root
        (Server.standard.delayed (0x10000000000000000 * 1000000000)) (fun _ _ _ ↦ 0) 0 ≠ .ok c) ∧
    ∀ c, LoadPlan.run ⟨1, 0x100000000, 0, none, .standard⟩ .root Server.standard.network
      (fun _ _ _ ↦ 0) 0 ≠ .ok c := by
  refine ⟨⟨Endpoint.route?_long _, Endpoint.long_plain _, Endpoint.check_long _,
    Endpoint.isPathChar_long _, _, Endpoint.conduct_long (Nat.le_refl _) .., rfl, rfl⟩, rfl, ?_, ?_⟩
  · have hpatient : ∃ r, LoadPlan.task ⟨1, 2, 0, none, .both none⟩ .root
        (Server.standard.delayed (0x10000000000000000 * 1000000000)) (fun _ _ _ ↦ 0) 0 1 = .ok r ∧
        r.attempt.fault = none := ⟨_, rfl, rfl⟩
    have hflawless : LoadPlan.Flawless ⟨1, 2, 0, none, .both none⟩ .root
        (Server.standard.delayed (0x10000000000000000 * 1000000000)) (fun _ _ _ ↦ 0) 0
        {0x10000000000000000 * 1000000000} := by
      refine LoadPlan.flawless_of_serves (Server.delayed_serves _ _) Endpoint.ofUri_root rfl nofun
        ?_
      intro id hid r hr
      obtain rfl : id = 1 := List.mem_singleton.mp hid
      obtain ⟨r', hr', hfault⟩ := hpatient
      cases hr.symm.trans hr'
      rintro ⟨cause, hcause, -⟩
      cases hfault.symm.trans hcause
    refine hflawless.run_ne_ok rfl (.inl ?_)
    rw [hflawless.waited_eq]
    decide
  · have hflawless : LoadPlan.Flawless ⟨1, 0x100000000, 0, none, .standard⟩ .root
        Server.standard.network (fun _ _ _ ↦ 0) 0 {0} := LoadPlan.flawless_of_unlimited _ 0 rfl
    exact hflawless.run_ne_ok rfl (.inr (by decide))

end Lockstep

import Lockstep.Program
import Lockstep.Proofs.Server.Service
import Lockstep.Proofs.Suite.Course

/-!
# The server and the client of one set of flags

The same flags describe a server and the suite that is run against it. They agree if the flags give
the path of each route as a request spells it: rooted, and without a query or a fragment. The client
roots the path of the chat route, and a request leaves out the query and the fragment; the server
takes the flags at their word, so a route whose path is spelt otherwise is never met.
-/

namespace Lockstep

/-! ## Suites against a server -/

/-- The client can ask for the endpoint, and the server has a route for it with its transform. -/
def Server.Offers (server : Server) (e : Endpoint) : Prop :=
  ∃ request, Request.ofUri e.uri = .ok request ∧ server.resolve request = .ok e.transform

namespace Suite

variable {server : Server} {network : Network} {delays : Set Nat}

theorem succeeded_eq_false {a : Attempt} {cause : Fault} (h : a.fault = some cause) :
    a.succeeded = false := by
  rw [Attempt.succeeded, Attempt.status, h]
  dsimp only
  split <;> rfl

theorem isRefused_of_gaveUp {cause : Fault} (h : cause.GaveUp delays) :
    cause.isRefused = false := by
  obtain ⟨d, -, l, -, rfl | rfl⟩ := h <;> rfl

theorem refusal?_of_served {a : Attempt} {count : Nat}
    (h : a.Flawless count delays ∨ a.GaveUp delays) : refusal? a = none := by
  refine refusal?_eq_none fun cause hcause ↦ ?_
  obtain h | ⟨cause', hcause', h⟩ := h
  · cases h.fault.symm.trans hcause
  · cases hcause'.symm.trans hcause
    exact isRefused_of_gaveUp h

/-- A session that was not refused is followed by the others. -/
theorem inOrder_cons {s : Session} {scenario : Scenario} {rest : List (Session × Scenario)}
    {index now : Nat} {r : Session.Record} (hr : s.conduct scenario network index now = .ok r)
    (hrefusal : refusal? r.attempt = none) :
    inOrder network index now ((s, scenario) :: rest) =
      (fun later ↦ { later with records := r :: later.records }) <$>
        inOrder network (index + if r.requested then 1 else 0) r.finished rest := by
  rw [inOrder, hr, Halt.ok_bind, hrefusal]
  rfl

/-- Each of a list of sessions is at a route of the server that answers as its scenario looks for.
-/
def Offered (server : Server) (sessions : List (Session × Scenario)) : Prop :=
  ∀ x ∈ sessions, server.Offers x.1.endpoint ∧ x.2.Suits x.1.endpoint.transform ∧
    x.1.attemptTimeout = none

/-- Sessions in a row, each at a route of the server, all take place. -/
theorem inOrder_served (hnetwork : network.Serves server delays) (index now : Nat)
    {sessions : List (Session × Scenario)} (h : Offered server sessions) :
    ∃ c, inOrder network index now sessions = .ok c ∧ c.refusal = none ∧
      ∀ a ∈ c.attempts, a.succeeded = true ∨ a.GaveUp delays := by
  induction sessions generalizing index now with
  | nil => exact ⟨⟨[], none⟩, rfl, rfl, fun _ ha ↦ absurd ha List.not_mem_nil⟩
  | cons x rest ih =>
    obtain ⟨s, scenario⟩ := x
    obtain ⟨⟨⟨request, hrequest, hroute⟩, hsuits, hlimit⟩, hrest⟩ := List.forall_mem_cons.mp h
    have hclock : Session.OnClock s.attemptTimeout now := by
      rw [hlimit]
      exact nofun
    obtain ⟨r, hr, hattempt⟩ :=
      Session.conduct_served index hnetwork hrequest hroute hsuits hclock
    obtain ⟨later, hlater, hnone, hall⟩ :=
      ih (index + if r.requested then 1 else 0) r.finished hrest
    refine ⟨{ later with records := r :: later.records }, ?_, hnone, ?_⟩
    · rw [inOrder_cons hr (refusal?_of_served hattempt), hlater]
      rfl
    · intro a ha
      rcases List.mem_cons.mp ha with rfl | ha
      · exact hattempt.imp_left Attempt.Flawless.succeeded
      · exact hall a ha

/-- A suite at two routes of a server makes both attempts, and each of them succeeds unless it gives
up a wait. -/
theorem run_served (s : Suite) (hnetwork : network.Serves server delays) (now : Nat)
    (hecho : server.Offers s.echo) (hchat : server.Offers s.chat) :
    ∃ c, s.run network now = .ok c ∧ c.refusal = none ∧
      ∀ a ∈ c.attempts, a.succeeded = true ∨ a.GaveUp delays := by
  refine inOrder_served hnetwork 0 now ?_
  intro x hx
  rcases List.mem_cons.mp hx with rfl | hx
  · exact ⟨hecho, Scenario.echo_suits _, rfl⟩
  · rw [List.mem_singleton.mp hx]
    exact ⟨hchat, Scenario.chat_suits _, rfl⟩

/-- A suite whose chat route the server does not have fails in its second attempt. -/
theorem run_unmet (s : Suite) {request : Request} (hnetwork : network.Serves server delays)
    (now : Nat) (hecho : server.Offers s.echo) (hrequest : Request.ofUri s.chat.uri = .ok request)
    (hroute : server.resolve request = .error (.http Server.refusalStatus)) :
    ∃ c, s.run network now = .ok c ∧ c.refusal = none ∧ ∃ a ∈ c.attempts, a.succeeded = false := by
  obtain ⟨echoRequest, hechoRequest, hechoRoute⟩ := hecho
  obtain ⟨r, hr, hattempt⟩ :
      ∃ r, Session.conduct ⟨1, s.echo, s.timeouts, none⟩ _ _ 0 now = .ok r ∧ _ :=
    Session.conduct_served 0 hnetwork hechoRequest hechoRoute (Scenario.echo_suits _) nofun
  obtain ⟨r', cause, hr', hfault, hcause⟩ :
      ∃ r' cause, Session.conduct ⟨2, s.chat, s.timeouts, none⟩ (.chat s.chat.transform) _ _ _ =
        .ok r' ∧ r'.attempt.fault = some cause ∧ _ :=
    Session.conduct_unmet (0 + if r.requested then 1 else 0) r.finished _ hnetwork hrequest hroute
      nofun
  have hrefusal : refusal? r'.attempt = none := by
    refine refusal?_eq_none fun cause' hcause' ↦ ?_
    cases hfault.symm.trans hcause'
    obtain rfl | h := hcause
    · rfl
    · exact isRefused_of_gaveUp h
  refine ⟨⟨[r, r'], none⟩, ?_, rfl, r'.attempt, ?_, succeeded_eq_false hfault⟩
  · rw [run, sessions, inOrder_cons hr (refusal?_of_served hattempt), inOrder_cons hr' hrefusal]
    rfl
  · exact List.mem_map_of_mem (List.mem_cons_of_mem r (List.mem_singleton_self r'))

end Suite

/-! ## Paths of endpoints -/

namespace Flags

variable {f : Flags} {echo : Endpoint}

/-- The path of the echo route is rooted, however the flags give it. -/
theorem rooted_of_echoEndpoint (h : f.echoEndpoint = .ok echo) :
    echo.path.startsWith "/" = true := by
  unfold echoEndpoint at h
  split at h
  · rename_i url _
    unfold Endpoint.ofUrl at h
    split at h
    · cases h
    · cases h
    · cases h
      exact Endpoint.startsWith_rooted _
  · cases h
    exact Endpoint.startsWith_rooted _

theorem transform_of_echoEndpoint (h : f.echoEndpoint = .ok echo) :
    echo.transform = f.echoTransform := by
  unfold echoEndpoint at h
  split at h
  · rename_i url _
    unfold Endpoint.ofUrl at h
    split at h
    · cases h
    · cases h
    · cases h
      rfl
  · cases h
    rfl

end Flags

namespace Program

variable {f : Flags} {echo : Endpoint}

theorem run_serve {w : World} (hecho : f.echoEndpoint = .ok echo)
    (hfree : w.network.occupied echo.port = false) :
    run { f with serve := true } w = .ok (.serving (server f echo)) := by
  have hecho' : ({ f with serve := true } : Flags).echoEndpoint = .ok echo := hecho
  unfold run
  rw [hecho']
  dsimp only
  rw [if_pos rfl, serve, hfree]
  rfl

theorem run_suite {w : World} (hecho : f.echoEndpoint = .ok echo) (hserve : f.serve = false)
    (hinteractive : f.interactive = none) (hmulti : f.multi = false) :
    run f w = .ended <$> suite f echo w := by
  unfold run
  rw [hecho]
  dsimp only
  rw [hserve, hinteractive, hmulti]
  rfl

/-- What the program makes of a suite whose sessions all took place. -/
theorem exit_suite {w : World} {c : Suite.Course}
    (hc : Suite.run ⟨echo, f.chatEndpoint echo, f.timeouts⟩ w.network w.now = .ok c)
    (hrefusal : c.refusal = none) :
    ∃ d, suite f echo w = .ok d ∧
      d.exit = if ∀ a ∈ c.attempts, a.succeeded = true then 0 else 1 := by
  have hreport : c.report = .ok ⟨c.attempts⟩ := by
    rw [Suite.Course.report, hrefusal]
  have hpassed : (⟨c.attempts⟩ : SuiteReport).passed = true ↔
      ∀ a ∈ c.attempts, a.succeeded = true := List.all_eq_true
  unfold suite
  rw [hc, Halt.ok_bind, hreport]
  refine ⟨_, rfl, ?_⟩
  rw [Course.exit]
  dsimp only
  by_cases hall : ∀ a ∈ c.attempts, a.succeeded = true
  · rw [hpassed.mpr hall, if_pos hall]
  · rw [Bool.eq_false_iff.mpr (mt hpassed.mp hall), if_neg hall]

/-- The flags spell the paths of both routes as requests do, and the host has no part of a path. -/
structure Spelled (f : Flags) (echo : Endpoint) : Prop where
  host : echo.host.toList.all Request.isHostPart = true
  echoPath : echo.path.toList.all Request.isPathPart = true
  chatPath : f.chatPath.toList.all Request.isPathPart = true
  rooted : f.chatPath.startsWith "/" = true
  distinct : echo.path ≠ f.chatPath

namespace Spelled

theorem path_chat (h : Spelled f echo) : (f.chatEndpoint echo).path = f.chatPath :=
  Endpoint.rooted_of_startsWith h.rooted

theorem echo_plain (h : Spelled f echo) (hecho : f.echoEndpoint = .ok echo) : echo.Plain :=
  ⟨h.host, Flags.rooted_of_echoEndpoint hecho, h.echoPath⟩

theorem chat_plain (h : Spelled f echo) : (f.chatEndpoint echo).Plain := by
  refine ⟨h.host, ?_, ?_⟩
  · rw [h.path_chat]
    exact h.rooted
  · rw [h.path_chat]
    exact h.chatPath

theorem route?_echo (h : Spelled f echo) (hecho : f.echoEndpoint = .ok echo) :
    (server f echo).route? echo.path = some f.echoTransform := by
  rw [server, Server.route?_withRoute, if_neg h.distinct, Server.route?_withRoute, if_pos rfl,
    Flags.transform_of_echoEndpoint hecho]

theorem route?_chat (f : Flags) (echo : Endpoint) :
    (server f echo).route? f.chatPath = some f.chatTransform := if_pos rfl

end Spelled

/-- The server of some flags answers the client of the same flags at both routes with their
transforms, and the suite passes against it unless it gives up a wait, if the flags spell the paths
as requests do. -/
theorem modes_agree (f : Flags) (echo : Endpoint) (request chatRequest : Request)
    (hecho : f.echoEndpoint = .ok echo) (hspelled : Spelled f echo)
    (hrequest : Request.ofUri echo.uri = .ok request)
    (hchatRequest : Request.ofUri (f.chatEndpoint echo).uri = .ok chatRequest) :
    (∀ w : World, w.network.occupied echo.port = false →
      run { f with serve := true } w = .ok (.serving (server f echo))) ∧
    (server f echo).answer request = .opened (.replying f.echoTransform) ∧
    (server f echo).answer chatRequest = .opened (.replying f.chatTransform) ∧
    (f.serve = false → f.interactive = none → f.multi = false → ∀ (w : World) (delays : Set Nat),
      w.network.Serves (server f echo) delays →
      ∃ c, Suite.run ⟨echo, f.chatEndpoint echo, f.timeouts⟩ w.network w.now = .ok c ∧
        ((∃ a ∈ c.attempts, a.GaveUp delays) ∨ ∃ d, run f w = .ok (.ended d) ∧ d.exit = 0)) := by
  -- Both requests ask for the paths as they are, and under these the server has its routes.
  obtain ⟨rfl, -⟩ := (hspelled.echo_plain hecho).ofUri_eq_ok.mp hrequest
  obtain ⟨rfl, -⟩ := hspelled.chat_plain.ofUri_eq_ok.mp hchatRequest
  have hroute := (hspelled.echo_plain hecho).resolve (hspelled.route?_echo hecho)
  have hchatRoute : (server f echo).resolve _ = .ok f.chatTransform :=
    hspelled.chat_plain.resolve (by
      rw [hspelled.path_chat]
      exact Spelled.route?_chat f echo)
  refine ⟨fun w hfree ↦ run_serve hecho hfree, ?_, ?_, ?_⟩
  · rw [Server.answer, hroute]
  · rw [Server.answer, hchatRoute]
  · intro hserve hinteractive hmulti w delays hnetwork
    have hoffers : (server f echo).Offers echo :=
      ⟨_, hrequest, by rw [Flags.transform_of_echoEndpoint hecho]; exact hroute⟩
    obtain ⟨c, hc, hrefusal, hall⟩ := Suite.run_served
      ⟨echo, f.chatEndpoint echo, f.timeouts⟩ hnetwork w.now hoffers ⟨_, hchatRequest, hchatRoute⟩
    refine ⟨c, hc, ?_⟩
    by_cases hgave : ∃ a ∈ c.attempts, a.GaveUp delays
    · exact .inl hgave
    · have hsucceeded : ∀ a ∈ c.attempts, a.succeeded = true := fun a ha ↦
        (hall a ha).resolve_right fun h ↦ hgave ⟨a, ha, h⟩
      obtain ⟨d, hd, hexit⟩ := exit_suite hc hrefusal
      rw [if_pos hsucceeded] at hexit
      refine .inr ⟨d, ?_, hexit⟩
      rw [run_suite hecho hserve hinteractive hmulti, hd]
      rfl

/-- The echo and the chat route of other paths than the standard ones. -/
theorem modes_agree_talk :
    let f : Flags := { Flags.standard with path := "/say", chatPath := "/talk" }
    let echo : Endpoint := ⟨"localhost", 8765, "/say", .identity⟩
    let w : World := ⟨[], (server f echo).network, fun _ _ _ ↦ 0, 0⟩
    run { f with serve := true } w = .ok (.serving (server f echo)) ∧
      ∃ d, run f w = .ok (.ended d) ∧ d.exit = 0 := by
  intro f echo w
  have hecho : f.echoEndpoint = .ok echo := by
    change Except.ok (Endpoint.new "localhost" 8765 "/say" .identity) = _
    rw [Endpoint.new, Endpoint.rooted_of_startsWith (String.startsWith_string_iff.mpr (by decide))]
  have hspelled : Spelled f echo :=
    ⟨by decide, by decide, by decide, String.startsWith_string_iff.mpr (by decide), by decide⟩
  have hrequest := (hspelled.echo_plain hecho).ofUri_eq_ok.mpr
    ⟨rfl, by decide, by decide, by decide⟩
  have hchat : f.chatEndpoint echo = ⟨"localhost", 8765, "/talk", f.chatTransform⟩ := by
    change Endpoint.mk _ _ (Endpoint.rooted "/talk") _ = _
    rw [Endpoint.rooted_of_startsWith hspelled.rooted]
  have hchatRequest :
      Request.ofUri (f.chatEndpoint echo).uri = .ok ⟨"localhost:8765", "/talk", none⟩ := by
    rw [hchat]
    change Request.ofUri (⟨"localhost", 8765, "/talk", .identity⟩ : Endpoint).uri =
      .ok ⟨"localhost:8765", "/talk", none⟩
    rw [Request.ofUri, if_neg (by decide)]
    rfl
  obtain ⟨hrun, -, -, hsuite⟩ := modes_agree f echo _ _ hecho hspelled hrequest hchatRequest
  refine ⟨hrun w rfl, ?_⟩
  obtain ⟨c, -, ⟨a, -, ha⟩ | hd⟩ := hsuite rfl rfl rfl w {0} (Server.network_serves _)
  · exact absurd ha a.not_gaveUp_zero
  · exact hd

/-! ## Where they disagree -/

/-- A chat route that the server does not have under the path that the client asks for is refused,
and the suite fails. -/
theorem chat_unmet {chatRequest : Request} {w : World} {delays : Set Nat}
    (hecho : f.echoEndpoint = .ok echo) (hoffers : (server f echo).Offers echo)
    (hrequest : Request.ofUri (f.chatEndpoint echo).uri = .ok chatRequest)
    (hroute : (server f echo).resolve chatRequest = .error (.http Server.refusalStatus))
    (hserve : f.serve = false) (hinteractive : f.interactive = none) (hmulti : f.multi = false)
    (hnetwork : w.network.Serves (server f echo) delays) :
    (server f echo).answer chatRequest = .failed (.http Server.refusalStatus) ∧
      ∃ d, run f w = .ok (.ended d) ∧ d.exit = 1 := by
  obtain ⟨c, hc, hrefusal, a, ha, hfailed⟩ := Suite.run_unmet
    ⟨echo, f.chatEndpoint echo, f.timeouts⟩ hnetwork w.now hoffers hrequest hroute
  obtain ⟨d, hd, hexit⟩ := exit_suite hc hrefusal
  refine ⟨?_, d, ?_, ?_⟩
  · rw [Server.answer, hroute]
  · rw [run_suite hecho hserve hinteractive hmulti, hd]
    rfl
  · rw [hexit, if_neg]
    intro hall
    rw [hall a ha] at hfailed
    cases hfailed

/-- Where the flags spell a path otherwise, server and client disagree: the client roots the path of
the chat route and the server does not; a request leaves out a query and the server does not; and of
two routes with one path the server has only the last. -/
theorem modes_disagree :
    (let f : Flags := { Flags.standard with chatPath := "room" }
     let echo : Endpoint := ⟨"localhost", 8765, "/", .identity⟩
     let chatRequest : Request := ⟨"localhost:8765", "/room", none⟩
     let w : World := ⟨[], (server f echo).network, fun _ _ _ ↦ 0, 0⟩
     f.echoEndpoint = .ok echo ∧ Request.ofUri (f.chatEndpoint echo).uri = .ok chatRequest ∧
       run { f with serve := true } w = .ok (.serving (server f echo)) ∧
       (server f echo).answer chatRequest = .failed (.http 404) ∧
       ∃ d, run f w = .ok (.ended d) ∧ d.exit = 1) ∧
    (let f : Flags := { Flags.standard with path := "/say?loud" }
     let echo : Endpoint := ⟨"localhost", 8765, "/say?loud", .identity⟩
     f.echoEndpoint = .ok echo ∧
       Request.ofUri echo.uri = .ok ⟨"localhost:8765", "/say", some "loud"⟩ ∧
       (server f echo).answer ⟨"localhost:8765", "/say", some "loud"⟩ = .failed (.http 404)) ∧
    (let f : Flags := { Flags.standard with path := "/chat" }
     let echo : Endpoint := ⟨"localhost", 8765, "/chat", .identity⟩
     f.echoEndpoint = .ok echo ∧ echo ≠ f.chatEndpoint echo ∧
       Request.ofUri echo.uri = .ok ⟨"localhost:8765", "/chat", none⟩ ∧
       (server f echo).answer ⟨"localhost:8765", "/chat", none⟩ =
         .opened (.replying (.before "Chat response: "))) := by
  have hnew : ∀ path t, path.startsWith "/" = true →
      Endpoint.new "localhost" 8765 path t = ⟨"localhost", 8765, path, t⟩ := by
    intro path t h
    rw [Endpoint.new, Endpoint.rooted_of_startsWith h]
  have hroot : "/".startsWith "/" = true := String.startsWith_string_iff.mpr (by decide)
  refine ⟨?_, ?_, ?_⟩
  · intro f echo chatRequest w
    have hecho : f.echoEndpoint = .ok echo := congrArg _ (hnew "/" _ hroot)
    have hchat : f.chatEndpoint echo = ⟨"localhost", 8765, "/room", f.chatTransform⟩ := by
      change Endpoint.mk _ _ (Endpoint.rooted "room") _ = _
      rw [Endpoint.rooted_of_not_startsWith (mt String.startsWith_string_iff.mp (by decide))]
      rfl
    have hrequest : Request.ofUri (f.chatEndpoint echo).uri = .ok chatRequest := by
      rw [hchat]
      change Request.ofUri (⟨"localhost", 8765, "/room", .identity⟩ : Endpoint).uri =
        .ok ⟨"localhost:8765", "/room", none⟩
      rw [Request.ofUri, if_neg (by decide)]
      rfl
    have hoffers : (server f echo).Offers echo := by
      refine ⟨⟨"localhost:8765", "/", none⟩, ?_, rfl⟩
      change Request.ofUri (⟨"localhost", 8765, "/", .identity⟩ : Endpoint).uri =
        .ok ⟨"localhost:8765", "/", none⟩
      rw [Request.ofUri, if_neg (by decide)]
      rfl
    have hnetwork : w.network.Serves (server f echo) {0} := Server.network_serves _
    have hroute : (server f echo).resolve chatRequest = .error (.http Server.refusalStatus) :=
      Server.resolve_of_route?_eq_none (by decide) rfl
    obtain ⟨hanswer, hrun⟩ := chat_unmet hecho hoffers hrequest hroute rfl rfl rfl hnetwork
    exact ⟨hecho, hrequest, run_serve hecho rfl, hanswer, hrun⟩
  · intro f echo
    refine ⟨congrArg _ (hnew "/say?loud" _ (String.startsWith_string_iff.mpr (by decide))), ?_, rfl⟩
    change Request.ofUri (⟨"localhost", 8765, "/say?loud", .identity⟩ : Endpoint).uri =
      .ok ⟨"localhost:8765", "/say", some "loud"⟩
    rw [Request.ofUri, if_neg (by decide)]
    rfl
  · intro f echo
    refine ⟨congrArg _ (hnew "/chat" _ (String.startsWith_string_iff.mpr (by decide))), ?_, ?_, rfl⟩
    · intro heq
      cases congrArg Endpoint.transform heq
    · change Request.ofUri (⟨"localhost", 8765, "/chat", .identity⟩ : Endpoint).uri =
        .ok ⟨"localhost:8765", "/chat", none⟩
      rw [Request.ofUri, if_neg (by decide)]
      rfl

end Program

end Lockstep

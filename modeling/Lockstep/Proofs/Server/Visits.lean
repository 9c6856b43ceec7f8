import Lockstep.Proofs.Transform
import Lockstep.Server
import Mathlib.Logic.Function.Basic
import Mathlib.Logic.Relation

/-!
# Visits to a server

A client that a server has accepted sends messages when it likes, the server answers them when it
gets to them, and the client reads the answers when it likes. A `Visit` says how far all this is.
Clients go by names, and what is done by them and for them is interleaved in any order: in a step of
the whole (`Visits.Step`) some client connects, or its visit goes on by a step of its own.

Everything turns on one equation, which each step of a visit preserves (`Visit.Step.faithful`): the
data frames that were received, those on their way back and what the transform makes of those not
read yet are, in a row, what the transform makes of all that were sent. As a step leaves every visit
but one alone, the visit of a client goes as it would if there were no other
(`Visits.Steps.alone`), and as it can go on alone it can go on among the others
(`Visits.steps_of_own`).
-/

namespace Lockstep

namespace Message

/-- The payloads of the data frames among messages. -/
def payloads (ms : List Message) : List Payload := ms.filterMap payload?

theorem payloads_append (ms ms' : List Message) :
    payloads (ms ++ ms') = payloads ms ++ payloads ms' :=
  List.filterMap_append

end Message

open Message (payloads payloads_append)

/-- A data frame is answered by one data frame, and nothing else is answered by a data frame. -/
theorem Server.payloads_reply? (t : Transform) (m : Message) :
    payloads (reply? t m).toList = (payloads [m]).map t.apply := by
  cases m <;> rfl

/-- Whether a client is still there. -/
inductive Presence where
  | joined
  /-- It has sent a close frame and reads on. -/
  | closing
  | gone
deriving DecidableEq

/-- How far the visit of a client is. -/
structure Visit where
  /-- The path the client asked for. -/
  path : String
  /-- The transform of the route that was found for it. -/
  transform : Transform
  presence : Presence
  sent : List Message
  /-- What the server has not read yet. -/
  unread : List Message
  /-- What the client has not read yet. -/
  pending : List Message
  received : List Message

namespace Visit

/-- Nothing has been sent yet. -/
def start (path : String) (t : Transform) : Visit := ⟨path, t, .joined, [], [], [], []⟩

/-- The client sends a message. -/
def say (v : Visit) (m : Message) : Visit :=
  { v with sent := v.sent ++ [m], unread := v.unread ++ [m] }

/-- The client is there no longer, or not for long. -/
def leave (v : Visit) (p : Presence) : Visit := { v with presence := p }

/-- The server has read a message and answers it. -/
def answer (v : Visit) (m : Message) (unread : List Message) : Visit :=
  { v with unread, pending := v.pending ++ (Server.reply? v.transform m).toList }

/-- The client has read a message. -/
def hear (v : Visit) (m : Message) (pending : List Message) : Visit :=
  { v with pending, received := v.received ++ [m] }

/-- A step of the client or of the server. Of a client that has left, the server need not read what
it has sent. -/
inductive Step : Visit → Visit → Prop
  | send {v : Visit} {m : Message} (hv : v.presence = .joined) (hm : ∀ r, m ≠ .close r) :
      Step v (v.say m)
  | close {v : Visit} (r : Option CloseReason) (hv : v.presence = .joined) :
      Step v ((v.say (.close r)).leave .closing)
  /-- The client drops the connection or breaks it off. -/
  | drop {v : Visit} : Step v (v.leave .gone)
  | answer {v : Visit} {m : Message} {rest : List Message} (h : v.unread = m :: rest) :
      Step v (v.answer m rest)
  /-- Of pings in quick succession the server need not answer all. -/
  | overlook {v : Visit} {b : List UInt8} {rest : List Message} (h : v.unread = .ping b :: rest) :
      Step v { v with unread := rest }
  | hear {v : Visit} {m : Message} {rest : List Message} (hv : v.presence ≠ .gone)
      (h : v.pending = m :: rest) : Step v (v.hear m rest)

/-- What was received, what is on its way back and what will be on its way back are, as far as they
are data frames, what the transform makes of the data frames that were sent. -/
def Faithful (v : Visit) : Prop :=
  payloads v.received ++ payloads v.pending ++ (payloads v.unread).map v.transform.apply =
    (payloads v.sent).map v.transform.apply

variable {v w : Visit}

/-! ## One visit -/

theorem faithful_start (path : String) (t : Transform) : (start path t).Faithful := rfl

theorem Faithful.say (h : v.Faithful) (m : Message) : (v.say m).Faithful := by
  unfold Faithful at h ⊢
  dsimp only [Visit.say]
  rw [payloads_append, payloads_append, List.map_append, List.map_append, ← h]
  simp only [List.append_assoc]

theorem Faithful.answer (h : v.Faithful) {m : Message} {rest : List Message}
    (hunread : v.unread = m :: rest) : (v.answer m rest).Faithful := by
  unfold Faithful at h ⊢
  rw [hunread, ← List.singleton_append, payloads_append, List.map_append] at h
  dsimp only [Visit.answer]
  rw [payloads_append, Server.payloads_reply?, ← h]
  simp only [List.append_assoc]

theorem Faithful.hear (h : v.Faithful) {m : Message} {rest : List Message}
    (hpending : v.pending = m :: rest) : (v.hear m rest).Faithful := by
  unfold Faithful at h ⊢
  rw [hpending, ← List.singleton_append, payloads_append] at h
  dsimp only [Visit.hear]
  rw [payloads_append, ← h]
  simp only [List.append_assoc]

/-- Each step leaves every data frame accounted for. -/
theorem Step.faithful (hs : Step v w) (h : v.Faithful) : w.Faithful := by
  cases hs with
  | send => exact h.say _
  | close => exact h.say _
  | drop => exact h
  | answer hunread => exact h.answer hunread
  | overlook hunread =>
    unfold Faithful at h
    rw [hunread] at h
    exact h
  | hear _ hpending => exact h.hear hpending

/-- The route of a visit is settled when it begins. -/
theorem Step.route (hs : Step v w) : w.path = v.path ∧ w.transform = v.transform := by
  cases hs <;> exact ⟨rfl, rfl⟩

/-- Nothing is on its way either way between the server and a client that is there. -/
structure Idle (v : Visit) (t : Transform) : Prop where
  transform : v.transform = t
  presence : v.presence = .joined
  unread : v.unread = []
  pending : v.pending = []

/-- When all but one message has been read, and all answers, that message can be read and then what
is the answer to it. -/
theorem exists_read {m : Message} (hunread : v.unread = [m]) (hpending : v.pending = [])
    (hv : v.presence ≠ .gone) :
    ∃ w, Relation.ReflTransGen Step v w ∧ w.transform = v.transform ∧ w.presence = v.presence ∧
      w.unread = [] ∧ w.pending = [] ∧ w.sent = v.sent ∧
      w.received = v.received ++ (Server.reply? v.transform m).toList := by
  have hanswer : Step v (v.answer m []) := .answer hunread
  have hback : (v.answer m []).pending = (Server.reply? v.transform m).toList := by
    change v.pending ++ _ = _
    rw [hpending, List.nil_append]
  cases hreply : Server.reply? v.transform m with
  | none =>
    rw [hreply] at hback
    exact ⟨v.answer m [], .single hanswer, rfl, rfl, rfl, hback, rfl, (List.append_nil _).symm⟩
  | some reply =>
    rw [hreply] at hback
    exact ⟨(v.answer m []).hear reply [], .tail (.single hanswer) (.hear hv hback), rfl, rfl, rfl,
      rfl, rfl, rfl⟩

/-- A message that is sent on an idle visit can be answered before anything else happens. -/
theorem Idle.exists_exchanged {t : Transform} (h : v.Idle t) {m : Message}
    (hm : ∀ r, m ≠ .close r) :
    ∃ w, Relation.ReflTransGen Step v w ∧ w.Idle t ∧ w.sent = v.sent ++ [m] ∧
      w.received = v.received ++ (Server.reply? t m).toList := by
  obtain ⟨w, hs, htransform, hpresence, hunread, hpending, hsent, hreceived⟩ :=
    exists_read (v := v.say m) (m := m) (congrArg (· ++ [m]) h.unread) h.pending
      (h.presence.trans_ne nofun)
  refine ⟨w, .head (.send h.presence hm) hs, ⟨htransform.trans h.transform,
    hpresence.trans h.presence, hunread, hpending⟩, hsent, ?_⟩
  rw [hreceived]
  exact h.transform ▸ rfl

/-- So can a close. -/
theorem Idle.exists_closed {t : Transform} (h : v.Idle t) (r : Option CloseReason) :
    ∃ w, Relation.ReflTransGen Step v w ∧ w.presence = .closing ∧
      w.sent = v.sent ++ [.close r] ∧
      w.received = v.received ++ (Server.reply? t (.close r)).toList := by
  obtain ⟨w, hs, -, hpresence, -, -, hsent, hreceived⟩ :=
    exists_read (v := (v.say (.close r)).leave .closing) (m := .close r)
      (congrArg (· ++ [Message.close r]) h.unread) h.pending nofun
  exact ⟨w, .head (.close r h.presence) hs, hpresence, hsent, hreceived⟩

/-- What holds of a visit throughout. -/
structure Sound (server : Server) (v : Visit) : Prop where
  route : server.route? v.path = some v.transform
  faithful : v.Faithful

theorem sound_start {server : Server} {path : String} {t : Transform}
    (h : server.route? path = some t) : (start path t).Sound server :=
  ⟨h, faithful_start path t⟩

theorem Step.sound {server : Server} (hs : Step v w) (h : v.Sound server) : w.Sound server := by
  refine ⟨?_, hs.faithful h.faithful⟩
  rw [hs.route.1, hs.route.2]
  exact h.route

end Visit

/-! ## The visits of all clients -/

/-- The visits to a server, by the names of the clients. -/
abbrev Visits := String → Option Visit

namespace Visits

variable {server : Server} {σ σ' : Visits} {name : String}

/-- There are no visits. -/
def none : Visits := fun _ ↦ Option.none

/-- A step of one client: it connects, and an older visit is over, or its visit goes on. -/
inductive Own (server : Server) : Option Visit → Option Visit → Prop
  | connect {o : Option Visit} {uri : String} {request : Request} {t : Transform}
      (hr : Request.ofUri uri = .ok request) (ht : server.resolve request = .ok t) :
      Own server o (some (.start request.path t))
  | go {v w : Visit} (hs : v.Step w) : Own server (some v) (some w)

/-- A step of the whole: some client goes on. -/
inductive Step (server : Server) (σ : Visits) : Visits → Prop
  | own {name : String} {o : Option Visit} (h : Own server (σ name) o) :
      Step server σ (Function.update σ name o)

/-- Any number of steps. -/
abbrev Steps (server : Server) : Visits → Visits → Prop := Relation.ReflTransGen (Step server)

/-- What the visits can come to that no one has begun. -/
abbrev Reachable (server : Server) : Visits → Prop := Steps server none

theorem Own.sound {o o' : Option Visit} (h : Own server o o')
    (ho : ∀ v, o = some v → v.Sound server) : ∀ v, o' = some v → v.Sound server := by
  rintro v rfl
  cases h with
  | connect hr ht => exact Visit.sound_start (Server.resolve_eq_ok.mp ht).2
  | go hs => exact hs.sound (ho _ rfl)

/-! ## One client among others -/

/-- A step of the whole is a step of a client, or leaves its visit alone. -/
theorem Step.own_or_eq (h : Step server σ σ') (name : String) :
    Own server (σ name) (σ' name) ∨ σ' name = σ name := by
  obtain ⟨hown⟩ := h
  rename_i other o
  by_cases heq : name = other
  · subst heq
    rw [Function.update_self]
    exact .inl hown
  · exact .inr (Function.update_of_ne heq ..)

/-- The visit of a client goes on as it would if there were no other. -/
theorem Steps.alone (h : Steps server σ σ') (name : String) :
    Relation.ReflTransGen (Own server) (σ name) (σ' name) := by
  induction h with
  | refl => exact .refl
  | tail _ hs ih =>
    obtain hown | heq := hs.own_or_eq name
    · exact ih.tail hown
    · rwa [heq]

/-- What a client can come to alone it can come to among others, who stand still. -/
theorem steps_of_own {o o' : Option Visit} (h : Relation.ReflTransGen (Own server) o o')
    (ho : σ name = o) : Steps server σ (Function.update σ name o') := by
  induction h with
  | refl =>
    rw [← ho, Function.update_eq_self]
  | @tail p q _ hs ih =>
    have hstep : Step server (Function.update σ name p)
        (Function.update (Function.update σ name p) name q) :=
      .own (by rwa [Function.update_self])
    rw [Function.update_idem] at hstep
    exact ih.tail hstep

theorem Reachable.sound (h : Reachable server σ) {v : Visit} (hv : σ name = some v) :
    v.Sound server := by
  have hsound : ∀ o, Relation.ReflTransGen (Own server) Option.none o →
      ∀ v, o = some v → v.Sound server := by
    intro o ho
    induction ho with
    | refl => nofun
    | tail _ hs ih => exact hs.sound ih
  exact hsound _ (Steps.alone h name) v hv

end Visits

end Lockstep

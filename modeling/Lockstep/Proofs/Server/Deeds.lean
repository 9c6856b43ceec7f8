import Lockstep.Proofs.Server.Visits
import Lockstep.Server.Clients

/-!
# Deeds in a row

When clients do one thing after the other, and each waits for its answer, a deed touches no session
but that of its client, and depends on no other (`Clients.exists_touches`). So what a client meets
is what it would meet if the deeds of all others were left out (`Clients.meetingsOf_run`), and while
it keeps its connection its data frames are answered by the transform of its route.

Deeds in a row are one of the ways in which visits can be interleaved (`Clients.exists_unfolds`): a
deed is any number of steps of the visit of its client.
-/

namespace Lockstep

open Message (payloads payloads_append)

/-! ## What is sent and what is met -/

/-- The messages that a client sends by what it does. -/
def Act.messages : Act → List Message
  | send p | sendReset p => [.data p]
  | ping b => [.ping b]
  | pong b => [.pong b]
  | close r => [.close r]
  | drop => []

namespace Deed

def messages : Deed → List Message
  | connect _ => []
  | act a => a.messages

/-- The client has its connection afterwards if it had it before. -/
def Keeps : Deed → Prop
  | act (.send _) | act (.ping _) | act (.pong _) => True
  | _ => False

end Deed

/-- The messages that a client meets. -/
def Meeting.messages : Meeting → List Message
  | reply m => [m]
  | closed ms => ms
  | _ => []

namespace Clients

variable {cs cs' : Clients} {server : Server} {barrier : Option SocketFault} {name other : String}
  {deed : Deed} {deeds : List (String × Deed)} {t : Transform}

/-- The deeds of one client. -/
def deedsOf (name : String) (deeds : List (String × Deed)) : List (String × Deed) :=
  deeds.filter (·.1 = name)

/-- What one client met when these were the deeds and the meetings of all. -/
def meetingsOf (name : String) (deeds : List (String × Deed)) (meetings : List Meeting) :
    List Meeting :=
  ((deeds.zip meetings).filter (·.1.1 = name)).map Prod.snd

/-- The messages that one client sent. -/
def said (name : String) (deeds : List (String × Deed)) : List Message :=
  (deedsOf name deeds).flatMap (·.2.messages)

/-- The messages that one client met. -/
def heard (name : String) (deeds : List (String × Deed)) (meetings : List Meeting) : List Message :=
  (meetingsOf name deeds meetings).flatMap Meeting.messages

/-! ## One client among others -/

/-- What a deed does to the sessions: nothing, or the session of the client begins or ends. -/
inductive Touches (name : String) : (Clients → Clients) → Prop
  | keep : Touches name id
  | join (t : Transform) : Touches name (·.withSession name t)
  | leave : Touches name (·.without name)

theorem Touches.lookup_of_ne {u : Clients → Clients} (h : Touches name u) (hne : other ≠ name)
    (cs : Clients) : (u cs).lookup other = cs.lookup other := by
  cases h with
  | keep => rfl
  | join t => exact lookup_withSession_of_ne cs t hne
  | leave => exact lookup_without_of_ne cs hne

/-- A deed touches no session but that of its client, and what it does and what the client meets
depend on that session alone. -/
theorem exists_touches (server : Server) (barrier : Option SocketFault) (cs : Clients)
    (name : String) (deed : Deed) :
    ∃ u meeting, Touches name u ∧ ∀ cs' : Clients, cs'.lookup name = cs.lookup name →
      cs'.step server barrier name deed = (u cs', meeting) := by
  cases deed with
  | connect uri =>
    change ∃ u meeting, _ ∧ ∀ cs' : Clients, _ → cs'.connect server barrier name uri = _
    unfold connect
    split
    · exact ⟨_, _, .keep, fun _ _ ↦ rfl⟩
    · exact ⟨_, _, .keep, fun _ _ ↦ rfl⟩
    · split
      · exact ⟨_, _, .join _, fun _ _ ↦ rfl⟩
      · exact ⟨_, _, .keep, fun _ _ ↦ rfl⟩
      · exact ⟨_, _, .keep, fun _ _ ↦ rfl⟩
  | act a =>
    unfold step
    dsimp only
    cases cs.lookup name with
    | none => exact ⟨_, _, .keep, fun _ hcs ↦ by rw [hcs]; rfl⟩
    | some t =>
      cases a with
      | send | ping | pong => exact ⟨_, _, .keep, fun _ hcs ↦ by rw [hcs]; rfl⟩
      | close | drop | sendReset => exact ⟨_, _, .leave, fun _ hcs ↦ by rw [hcs]; rfl⟩

/-- What one client does is nothing to the session of another. -/
theorem lookup_step_of_ne (hne : other ≠ name) :
    (cs.step server barrier name deed).1.lookup other = cs.lookup other := by
  obtain ⟨u, meeting, hu, hstep⟩ := exists_touches server barrier cs name deed
  rw [hstep cs rfl]
  exact hu.lookup_of_ne hne cs

theorem meetingsOf_cons_self (deeds : List (String × Deed)) (meeting : Meeting)
    (meetings : List Meeting) :
    meetingsOf name ((name, deed) :: deeds) (meeting :: meetings) =
      meeting :: meetingsOf name deeds meetings := by
  unfold meetingsOf
  rw [List.zip_cons_cons, List.filter_cons_of_pos (by simp), List.map_cons]

theorem meetingsOf_cons_of_ne (hne : other ≠ name) (deeds : List (String × Deed))
    (meeting : Meeting) (meetings : List Meeting) :
    meetingsOf name ((other, deed) :: deeds) (meeting :: meetings) =
      meetingsOf name deeds meetings := by
  unfold meetingsOf
  rw [List.zip_cons_cons, List.filter_cons_of_neg (by simpa using hne)]

theorem deedsOf_cons_self (deeds : List (String × Deed)) :
    deedsOf name ((name, deed) :: deeds) = (name, deed) :: deedsOf name deeds :=
  List.filter_cons_of_pos (by simp)

theorem deedsOf_cons_of_ne (hne : other ≠ name) (deeds : List (String × Deed)) :
    deedsOf name ((other, deed) :: deeds) = deedsOf name deeds :=
  List.filter_cons_of_neg (by simpa using hne)

theorem said_cons_self (deeds : List (String × Deed)) :
    said name ((name, deed) :: deeds) = deed.messages ++ said name deeds := by
  rw [said, deedsOf_cons_self, List.flatMap_cons, said]

theorem said_cons_of_ne (hne : other ≠ name) (deeds : List (String × Deed)) :
    said name ((other, deed) :: deeds) = said name deeds := by
  rw [said, deedsOf_cons_of_ne hne, said]

theorem heard_cons_self (deeds : List (String × Deed)) (meeting : Meeting)
    (meetings : List Meeting) :
    heard name ((name, deed) :: deeds) (meeting :: meetings) =
      meeting.messages ++ heard name deeds meetings := by
  rw [heard, meetingsOf_cons_self, List.flatMap_cons, heard]

theorem heard_cons_of_ne (hne : other ≠ name) (deeds : List (String × Deed)) (meeting : Meeting)
    (meetings : List Meeting) :
    heard name ((other, deed) :: deeds) (meeting :: meetings) = heard name deeds meetings := by
  rw [heard, meetingsOf_cons_of_ne hne, heard]

/-- A client that keeps its connection has the transform of its route for each data frame. -/
theorem step_of_keeps (server : Server) (barrier : Option SocketFault)
    (hcs : cs.lookup name = some t) (hkeeps : deed.Keeps) :
    ∃ meeting, cs.step server barrier name deed = (cs, meeting) ∧
      payloads meeting.messages = (payloads deed.messages).map t.apply := by
  cases deed with
  | connect uri => exact hkeeps.elim
  | act a =>
    unfold step
    rw [hcs]
    cases a with
    | send | ping | pong => exact ⟨_, rfl, rfl⟩
    | close | drop | sendReset => exact hkeeps.elim

/-- A client with a session is on an idle visit, and one without a session has left. -/
inductive Tallied : Option Transform → Option Visit → Prop
  | idle {v : Visit} {t : Transform} (h : v.Idle t) : Tallied (some t) (some v)
  | away {o : Option Visit} (h : ∀ v, o = some v → v.presence ≠ .joined) : Tallied none o

/-- What a client does on an idle visit and meets there are steps of the visit. -/
theorem exists_steps_act (hcs : cs.lookup name = some t) {v : Visit} (h : v.Idle t) (a : Act) :
    ∃ w, Relation.ReflTransGen Visit.Step v w ∧
      Tallied ((cs.act name t a).1.lookup name) (some w) ∧ w.sent = v.sent ++ a.messages ∧
      w.received = v.received ++ (cs.act name t a).2.messages := by
  have hkeep {m : Message} (hm : ∀ r, m ≠ .close r) :
      ∃ w, Relation.ReflTransGen Visit.Step v w ∧ Tallied (cs.lookup name) (some w) ∧
        w.sent = v.sent ++ [m] ∧ w.received = v.received ++ (Server.reply? t m).toList := by
    obtain ⟨w, hs, hw, hlog⟩ := h.exists_exchanged hm
    exact ⟨w, hs, hcs ▸ .idle hw, hlog⟩
  have hleave {w : Visit} (hw : w.presence ≠ .joined) :
      Tallied ((cs.without name).lookup name) (some w) := by
    rw [lookup_without]
    refine .away ?_
    rintro v hv
    cases hv
    exact hw
  cases a with
  | send p => exact hkeep (m := .data p) nofun
  | ping b => exact hkeep (m := .ping b) nofun
  | pong b => exact hkeep (m := .pong b) nofun
  | close r =>
    obtain ⟨w, hs, hpresence, hlog⟩ := h.exists_closed r
    exact ⟨w, hs, hleave (hpresence.trans_ne nofun), hlog⟩
  | drop =>
    exact ⟨v.leave .gone, .single .drop, hleave nofun, (List.append_nil _).symm,
      (List.append_nil _).symm⟩
  | sendReset p =>
    have hsend : Visit.Step v (v.say (.data p)) := .send h.presence nofun
    exact ⟨(v.say (.data p)).leave .gone, .tail (.single hsend) .drop, hleave nofun, rfl,
      (List.append_nil _).symm⟩

/-- A client that connects begins a visit, or goes on as before. -/
theorem exists_own_connect {o : Option Visit} (h : Tallied (cs.lookup name) o) (uri : String) :
    ∃ o', Relation.ReflTransGen (Visits.Own server) o o' ∧
      Tallied ((cs.connect server none name uri).1.lookup name) o' := by
  unfold connect
  cases hr : Request.ofUri uri with
  | error e => exact ⟨o, .refl, h⟩
  | ok request =>
    dsimp only
    split
    · rename_i t ht
      refine ⟨_, .single (.connect hr ht), ?_⟩
      rw [lookup_withSession]
      exact .idle ⟨rfl, rfl, rfl, rfl⟩
    · exact ⟨o, .refl, h⟩
    · exact ⟨o, .refl, h⟩

/-- A deed of a client is any number of steps of its own. If it keeps its connection, its visit has
grown by what it has sent and met. -/
theorem exists_own_step {o : Option Visit} (h : Tallied (cs.lookup name) o) (deed : Deed) :
    ∃ o', Relation.ReflTransGen (Visits.Own server) o o' ∧
      Tallied ((cs.step server none name deed).1.lookup name) o' ∧
      ∀ t v, cs.lookup name = some t → o = some v → deed.Keeps →
        ∃ w, o' = some w ∧ w.sent = v.sent ++ deed.messages ∧
          w.received = v.received ++ (cs.step server none name deed).2.messages := by
  cases deed with
  | connect uri =>
    obtain ⟨o', hs, ho'⟩ := exists_own_connect h uri
    exact ⟨o', hs, ho', fun _ _ _ _ hkeeps ↦ hkeeps.elim⟩
  | act a =>
    unfold step
    cases hcs : cs.lookup name with
    | none => exact ⟨o, .refl, h, nofun⟩
    | some t =>
      rw [hcs] at h
      obtain ⟨hidle⟩ := h
      rename_i v
      obtain ⟨w, hs, hw, hsent, hreceived⟩ := exists_steps_act hcs hidle a
      refine ⟨some w, hs.lift some fun _ _ hstep ↦ .go hstep, hw, ?_⟩
      rintro t v - hv -
      cases hv
      exact ⟨w, rfl, hsent, hreceived⟩

/-- The sessions after deeds in a row. -/
def after (server : Server) (barrier : Option SocketFault) (cs : Clients)
    (deeds : List (String × Deed)) : Clients :=
  deeds.foldl (fun cs d ↦ (cs.step server barrier d.1 d.2).1) cs

/-- What was met in a row can be read off the visits, which have gone from `σ` to `σ'`. -/
structure Unfolds (server : Server) (cs : Clients) (deeds : List (String × Deed))
    (σ σ' : Visits) : Prop where
  steps : Visits.Steps server σ σ'
  tallied : ∀ name, Tallied ((after server none cs deeds).lookup name) (σ' name)
  /-- The visit of a client that keeps its connection has grown by what it has sent and met. -/
  grown : ∀ name t v, cs.lookup name = some t → σ name = some v →
    (∀ deed, (name, deed) ∈ deeds → deed.Keeps) →
    ∃ w, σ' name = some w ∧ w.sent = v.sent ++ said name deeds ∧
      w.received = v.received ++ heard name deeds (run server none cs deeds)

/-- Deeds in a row are steps of visits that are interleaved. -/
theorem exists_unfolds (server : Server) {σ : Visits}
    (h : ∀ name, Tallied (cs.lookup name) (σ name)) (deeds : List (String × Deed)) :
    ∃ σ', Unfolds server cs deeds σ σ' := by
  induction deeds generalizing cs σ with
  | nil =>
    exact ⟨σ, .refl, h, fun name t v _ hv _ ↦
      ⟨v, hv, (List.append_nil _).symm, (List.append_nil _).symm⟩⟩
  | cons d rest ih =>
    obtain ⟨other, deed⟩ := d
    obtain ⟨o, hown, ho, hgrown⟩ := exists_own_step (h other) deed
    have htallied : ∀ name, Tallied ((cs.step server none other deed).1.lookup name)
        (Function.update σ other o name) := by
      intro name
      by_cases hname : name = other
      · subst hname
        rwa [Function.update_self]
      · rw [Function.update_of_ne hname, lookup_step_of_ne hname]
        exact h name
    obtain ⟨σ', hs, hlast, hrest⟩ := ih htallied
    refine ⟨σ', (Visits.steps_of_own hown rfl).trans hs, hlast, ?_⟩
    intro name t v hcs hv hkeeps
    have hkeeps' : ∀ deed, (name, deed) ∈ rest → deed.Keeps :=
      fun deed hd ↦ hkeeps deed (List.mem_cons_of_mem _ hd)
    rw [run]
    dsimp only
    by_cases hname : other = name
    · subst hname
      have hkeep := hkeeps deed List.mem_cons_self
      obtain ⟨v', hv', hsent, hreceived⟩ := hgrown t v hcs hv hkeep
      obtain ⟨meeting, hstep, -⟩ := step_of_keeps server none hcs hkeep
      rw [hstep] at hrest hreceived ⊢
      obtain ⟨w, hw, hsent', hreceived'⟩ :=
        hrest other t v' hcs (by rw [Function.update_self, hv']) hkeeps'
      refine ⟨w, hw, ?_, ?_⟩
      · rw [hsent', hsent, said_cons_self, List.append_assoc]
      · rw [hreceived', hreceived, heard_cons_self, List.append_assoc]
    · have hne : name ≠ other := Ne.symm hname
      rw [said_cons_of_ne hname, heard_cons_of_ne hname]
      exact hrest name t v ((lookup_step_of_ne hne).trans hcs)
        (by rw [Function.update_of_ne hne, hv]) hkeeps'

/-- No one has a session, and no one has begun a visit. -/
theorem tallied_nil (name : String) : Tallied (([] : Clients).lookup name) (Visits.none name) :=
  .away nofun

/-- What deeds in a row come to is among what visits can come to that no one has begun. -/
theorem exists_reachable (server : Server) (deeds : List (String × Deed)) :
    ∃ σ, Visits.Reachable server σ ∧
      ∀ name, Tallied ((after server none [] deeds).lookup name) (σ name) := by
  obtain ⟨σ, h⟩ := exists_unfolds server tallied_nil deeds
  exact ⟨σ, h.steps, h.tallied⟩

end Clients

end Lockstep

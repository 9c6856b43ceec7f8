import Lockstep.Proofs.Connection
import Mathlib.Data.Set.Insert

/-!
# Heartbeats

Pings and pongs among the arrivals at a client. A read passes over them, so that all they can do is
to take time. `Interspersed late` relates arrivals, and what they come from, to the same with
heartbeats put in at any places: each comes within the time that passes anyway before the next
arrival, or it makes what follows it late, by one of the times in `late`. With `{0}` for these times
no heartbeat takes any time of its own, and then nothing that a client does with a connection tells
the two apart. Otherwise waits may be given up that would not be.
-/

namespace Lockstep

/-- The message is a ping or a pong. -/
def Message.isHeartbeat : Message → Bool
  | ping _ | pong _ => true
  | data _ | close _ => false

/-! ## Late arrivals -/

/-- `t'` is the time `t`, or later if anything but zero is in `late`. -/
structure Postponed (late : Set Nat) (t t' : Nat) : Prop where
  le : t ≤ t'
  eq : late ⊆ {0} → t = t'

namespace Postponed

variable {late : Set Nat} {t t' u u' : Nat}

theorem refl (late : Set Nat) (t : Nat) : Postponed late t t := ⟨Nat.le_refl t, fun _ ↦ rfl⟩

theorem add (h : Postponed late t t') (hu : Postponed late u u') :
    Postponed late (t + u) (t' + u') :=
  ⟨Nat.add_le_add h.le hu.le, fun hl ↦ by rw [h.eq hl, hu.eq hl]⟩

theorem of_mem (h : t ∈ late) : Postponed late 0 t := ⟨Nat.zero_le t, fun hl ↦ (hl h).symm⟩

/-- Of a limit that ends at a fixed time, less is left the later it is. -/
theorem sub_left (h : Postponed late t t') (u : Nat) : Postponed late (u - t') (u - t) :=
  ⟨Nat.sub_le_sub_left h.le u, fun hl ↦ by rw [h.eq hl]⟩

end Postponed

namespace Arrival

/-- The second are the first arrivals with heartbeats among them. -/
inductive Interspersed (late : Set Nat) : List Arrival → List Arrival → Prop
  | nil : Interspersed late [] []
  | cons {as bs : List Arrival} (a : Arrival) (h : Interspersed late as bs) :
      Interspersed late (a :: as) (a :: bs)
  /-- A heartbeat makes what follows it late. -/
  | insert {as bs : List Arrival} {m : Message} {delay : Nat} (hm : m.isHeartbeat = true)
      (hd : delay ∈ late) (h : Interspersed late as bs) :
      Interspersed late as (⟨delay, .message m⟩ :: bs)
  /-- A heartbeat comes while the next arrival is on its way. -/
  | split {as bs : List Arrival} {m : Message} {delay left : Nat} {e : Event}
      (hm : m.isHeartbeat = true) (h : Interspersed late (⟨left, e⟩ :: as) bs) :
      Interspersed late (⟨delay + left, e⟩ :: as) (⟨delay, .message m⟩ :: bs)

variable {late : Set Nat} {as bs as' bs' : List Arrival}

theorem Interspersed.refl (late : Set Nat) (as : List Arrival) : Interspersed late as as := by
  induction as with
  | nil => exact .nil
  | cons a as ih => exact .cons a ih

theorem Interspersed.append (h : Interspersed late as bs) (h' : Interspersed late as' bs') :
    Interspersed late (as ++ as') (bs ++ bs') := by
  induction h with
  | nil => exact h'
  | cons a _ ih => exact .cons a ih
  | insert hm hd _ ih => exact .insert hm hd ih
  | split hm _ ih => exact .split hm ih

end Arrival

/-! ## Reading -/

/-- A read passes over a heartbeat. -/
theorem nextPayload?_heartbeat {m : Message} (hm : m.isHeartbeat = true) (waited delay : Nat)
    (as : List Arrival) :
    nextPayload? waited (⟨delay, .message m⟩ :: as) = nextPayload? (waited + delay) as := by
  cases m with
  | ping b => rfl
  | pong b => rfl
  | data p => cases hm
  | close r => cases hm

/-- It makes no difference which part of the way of an arrival has been waited for already. -/
theorem nextPayload?_split (waited delay left : Nat) (e : Event) (as : List Arrival) :
    nextPayload? waited (⟨delay + left, e⟩ :: as) =
      nextPayload? (waited + delay) (⟨left, e⟩ :: as) := by
  obtain (p | b | b | r) | cause := e <;> simp only [nextPayload?, Nat.add_assoc]

/-- What a read takes from an inbox: how long it took, what it ends with, and what is left. -/
structure Taken (late : Set Nat) (a b : Nat × Except Fault Payload × List Arrival) : Prop where
  took : Postponed late a.1 b.1
  result : b.2.1 = a.2.1
  left : Arrival.Interspersed late a.2.2 b.2.2

/-- A read ends with the same whether or not there are heartbeats. -/
theorem nextPayload?_interspersed {late : Set Nat} {as bs : List Arrival} {waited waited' : Nat}
    (h : Arrival.Interspersed late as bs) (hw : Postponed late waited waited') :
    Option.Rel (Taken late) (nextPayload? waited as) (nextPayload? waited' bs) := by
  -- On how the heartbeats lie among the arrivals; the times waited so far grow on the way.
  induction h generalizing waited waited' with
  | nil => exact .none
  | cons a h ih =>
    have ht := hw.add (.refl late a.delay)
    obtain ⟨delay, (p | b | b | r) | cause⟩ := a
    · exact .some ⟨ht, rfl, h⟩
    · exact ih ht
    · exact ih ht
    · exact .some ⟨ht, rfl, h⟩
    · exact .some ⟨ht, rfl, h⟩
  | insert hm hd _ ih =>
    rw [nextPayload?_heartbeat hm]
    exact ih (hw.add (.of_mem hd))
  | split hm _ ih =>
    rw [nextPayload?_heartbeat hm, nextPayload?_split]
    exact ih (hw.add (.refl ..))

/-! ## Connections -/

/-- The second peer is the first with heartbeats among what it puts on the wire. -/
structure Peer.Interspersed (late : Set Nat) (p q : Peer) : Prop where
  greeting : Arrival.Interspersed late p.greeting q.greeting
  reaction : ∀ received, Arrival.Interspersed late (p.reaction received) (q.reaction received)
  writeFault : q.writeFault = p.writeFault

/-- The limit on a wait is the same, or less if it is late; and there is one if there was. -/
def Tightened (late : Set Nat) : Option Span → Option Span → Prop :=
  Option.Rel fun l l' ↦ Postponed late l'.nanoseconds l.nanoseconds

theorem Tightened.refl (late : Set Nat) (limit : Option Span) : Tightened late limit limit := by
  cases limit with
  | none => exact .none
  | some l => exact .some (.refl ..)

theorem budget_tightened {late : Set Nat} {now now' : Nat} (h : Postponed late now now')
    (limit : Option Span) (deadline : Option Deadline) :
    Tightened late (budget limit deadline now) (budget limit deadline now') := by
  cases deadline with
  | none =>
    cases limit with
    | none => exact .none
    | some l => exact .some (.refl ..)
  | some d =>
    have hd := h.sub_left d.nanoseconds
    cases limit with
    | none => exact .some hd
    | some l =>
      refine .some ⟨?_, fun hl ↦ by rw [h.eq hl]⟩
      have hle : (d.remaining now').nanoseconds ≤ (d.remaining now).nanoseconds := hd.le
      unfold Span.min
      split <;> split <;> omega

/-- A wait for a data frame ends in the same way whether or not there are heartbeats, unless it is
given up since they are late. -/
theorem within_postponed {late : Set Nat} {limit limit' : Option Span}
    {next next' : Option (Nat × Except Fault Payload × List Arrival)}
    (h : Option.Rel (Taken late) next next') (hl : Tightened late limit limit') :
    (∃ a b, Taken late a b ∧ Wait.within limit next = .ready a.1 a.2 ∧
        Wait.within limit' next' = .ready b.1 b.2) ∨
      (∃ l, Wait.within limit next = .expired l ∧ Wait.within limit' next' = .expired l) ∨
      (Wait.within limit next = .endless ∧ Wait.within limit' next' = .endless) ∨
      ¬ late ⊆ {0} ∧ limit ≠ none ∧ ∃ l, Wait.within limit' next' = .expired l := by
  cases hl with
  | none =>
    cases h with
    | none => exact .inr (.inr (.inl ⟨rfl, rfl⟩))
    | some ht => exact .inl ⟨_, _, ht, rfl, rfl⟩
  | @some l l' hl =>
    by_cases hlate : late ⊆ {0}
    · obtain rfl : l' = l := Span.ext (hl.eq hlate)
      cases h with
      | none => exact .inr (.inl ⟨_, rfl, rfl⟩)
      | @some a b ht =>
        simp only [Wait.within, ← ht.took.eq hlate]
        split
        · exact .inl ⟨a, b, ht, rfl, by rw [ht.took.eq hlate]⟩
        · exact .inr (.inl ⟨_, rfl, rfl⟩)
    · cases h with
      | none => exact .inr (.inr (.inr ⟨hlate, nofun, _, rfl⟩))
      | @some a b ht =>
        by_cases hb : b.1 ≤ l'.nanoseconds
        · -- In time after the heartbeats, and so all the more without them.
          have ha : a.1 ≤ l.nanoseconds := ht.took.le.trans (hb.trans hl.le)
          exact .inl ⟨a, b, ht, if_pos ha, if_pos hb⟩
        · exact .inr (.inr (.inr ⟨hlate, nofun, _, if_neg hb⟩))

namespace Connection

variable {late : Set Nat} {c c' : Connection} {limit limit' : Option Span}

/-- The second connection is the first with heartbeats among what is and will be on the wire. -/
structure Interspersed (late : Set Nat) (c c' : Connection) : Prop where
  peer : c.peer.Interspersed late c'.peer
  inbox : Arrival.Interspersed late c.inbox c'.inbox
  traffic : c'.traffic = c.traffic
  now : Postponed late c.now c'.now

theorem Interspersed.start {p q : Peer} (h : p.Interspersed late q) (now : Nat) :
    (start p now).Interspersed late (start q now) := ⟨h, h.greeting, rfl, .refl ..⟩

/-- Heartbeats make no difference to a write. -/
theorem Interspersed.send (h : c.Interspersed late c') (p : Payload) :
    (c'.send p).fault = (c.send p).fault ∧
      (c.send p).connection.Interspersed late (c'.send p).connection := by
  have hsent : c'.sent = c.sent := congrArg Traffic.written h.traffic
  rw [Connection.send, Connection.send, h.peer.writeFault, hsent]
  cases c.peer.writeFault c.sent with
  | some cause => exact ⟨rfl, h.peer, h.inbox, congrArg (· ++ _) h.traffic, h.now⟩
  | none =>
    exact ⟨rfl, h.peer, h.inbox.append (h.peer.reaction _), congrArg (· ++ _) h.traffic, h.now⟩

/-- The second response is the first, after a wait in which there were heartbeats. -/
structure Response.Interspersed (late : Set Nat) (r r' : Response) : Prop where
  result : r'.result = r.result
  took : Postponed late r.took r'.took
  connection : r.connection.Interspersed late r'.connection

/-- Heartbeats make no difference to what a wait for a response ends with, unless it is given up
since they are late. -/
theorem Interspersed.receive (h : c.Interspersed late c') (hl : Tightened late limit limit') :
    Halt.Alike (Response.Interspersed late)
      (fun r' ↦ ¬ late ⊆ {0} ∧ limit ≠ none ∧ ∃ l, r'.result = .error (.responseTimeout l))
      (c.receive limit) (c'.receive limit') := by
  have hwait := within_postponed (nextPayload?_interspersed h.inbox (.refl late 0)) hl
  have noted (t : Traffic) : (c'.note t).traffic = (c.note t).traffic :=
    congrArg (· ++ _) h.traffic
  unfold Connection.receive
  obtain ⟨a, b, ht, ha, hb⟩ | ⟨l, ha, hb⟩ | ⟨ha, hb⟩ | ⟨hlate, hlim, l, hb⟩ := hwait
  · obtain ⟨took, result, rest⟩ := a
    obtain ⟨took', _, rest'⟩ := b
    obtain ⟨htook, rfl, hrest⟩ := ht
    rw [ha, hb]
    exact .ok ⟨rfl, htook, h.peer, hrest, noted _, h.now.add htook⟩
  · rw [ha, hb]
    exact .ok ⟨rfl, .refl .., h.peer, h.inbox, noted _, h.now.add (.refl ..)⟩
  · rw [ha, hb]
    exact .error _
  · rw [hb]
    exact .excused ⟨hlate, hlim, l, rfl⟩

end Connection

end Lockstep

import Lockstep.Proofs.Peer.Output
import Mathlib.Data.List.Induction
import Mathlib.Data.List.InsertIdx
import Mathlib.Data.Set.Insert

/-!
# Interjections

A peer that answers every data frame and sends one data frame besides, just before one of its
answers. From there on the data frame at each position is the answer to the message before the one
at that position.
-/

namespace List

variable {α : Type*}

theorem insertIdx_append_of_le (l more : List α) (x : α) {j : Nat} (h : j ≤ l.length) :
    (l ++ more).insertIdx j x = l.insertIdx j x ++ more := by
  induction l generalizing j with
  | nil =>
    obtain rfl : j = 0 := Nat.le_zero.mp h
    rfl
  | cons a l ih =>
    cases j with
    | zero => rfl
    | succ j =>
      rw [cons_append, insertIdx_succ_cons, insertIdx_succ_cons, cons_append,
        ih (Nat.le_of_succ_le_succ h)]

theorem prefix_insertIdx_append (l more : List α) (x : α) {j : Nat} (h : l.length ≤ j) :
    l <+: (l ++ more).insertIdx j x := by
  rw [prefix_iff_eq_take, take_insertIdx_eq_take_of_le _ _ _ _ h, take_left]

end List

namespace Lockstep

/-- A data frame that comes after one of the `delays`. -/
def Arrival.IsFrame (a : Arrival) (delays : Set Nat) : Prop :=
  ∃ d ∈ delays, ∃ p, a = ⟨d, .message (.data p)⟩

namespace Peer

variable {p : Peer} {t : Transform} {j : Nat} {extra : Payload} {delays : Set Nat}

/-- The peer takes every data frame, sends nothing but data frames, each after one of the `delays`,
and has always sent at least as many of them as it has received. -/
structure KeepsUp (p : Peer) (delays : Set Nat) : Prop where
  writeFault : ∀ received, p.writeFault received = none
  output : ∀ received, ∀ a ∈ p.output received, a.IsFrame delays
  length_le : ∀ received, received.length ≤ (p.output received).length

/-- The peer answers each data frame with what `t` makes of it, after one of the `delays`, and sends
nothing else but the data frame `extra`. That comes just before the answer to message `j`: once the
peer has received that message at the latest, and not before it has answered all those before. -/
structure Interjects (p : Peer) (t : Transform) (j : Nat) (extra : Payload) (delays : Set Nat) :
    Prop where
  writeFault : ∀ received, p.writeFault received = none
  output : ∀ received, ∀ a ∈ p.output received, a.IsFrame delays
  frames : ∀ received, p.frames received = (received.map t.apply).insertIdx j extra ∨
    received.length = j ∧ p.frames received = received.map t.apply

/-- A peer that interjects answers all the same. -/
theorem Interjects.keepsUp (h : p.Interjects t j extra delays) : p.KeepsUp delays where
  writeFault := h.writeFault
  output := h.output
  length_le received := by
    have hframes : (p.frames received).length ≤ (p.output received).length :=
      List.length_filterMap_le ..
    refine Nat.le_trans ?_ hframes
    rcases h.frames received with he | ⟨-, he⟩
    · rw [he, List.length_insertIdx, List.length_map]
      split <;> omega
    · rw [he, List.length_map]

/-- All that the peer sends to one that writes the first of these messages is the first of the
answers to all of them, with the extra data frame before the one to message `j`. -/
theorem Interjects.frames_prefix (h : p.Interjects t j extra delays)
    {written messages : List Payload} (hw : written <+: messages) :
    p.frames written <+: (messages.map t.apply).insertIdx j extra := by
  obtain ⟨left, rfl⟩ := hw
  rw [List.map_append]
  have hlength : (written.map t.apply).length = written.length := List.length_map _
  rcases h.frames written with he | ⟨hj, he⟩
  · rw [he]
    by_cases hj : j ≤ written.length
    · rw [List.insertIdx_append_of_le _ _ _ (hlength ▸ hj)]
      exact List.prefix_append ..
    · have hlt : (written.map t.apply).length < j := by omega
      rw [List.insertIdx_of_length_lt hlt]
      exact List.prefix_insertIdx_append _ _ _ (Nat.le_of_lt hlt)
  · rw [he]
    exact List.prefix_insertIdx_append _ _ _ (by omega)

/-! ## Peers that interject -/

theorem output_nil (p : Peer) : p.output [] = p.greeting := List.append_nil _

theorem frames_concat (p : Peer) (received : List Payload) (q : Payload) :
    p.frames (received ++ [q]) =
      p.frames received ++ (p.reaction (received ++ [q])).filterMap Arrival.payload? := by
  rw [frames, output_concat, List.filterMap_append, frames]

/-- What a peer sends, it sends when the connection opens or once it has received something. -/
theorem mem_output {received : List Payload} {a : Arrival} (h : a ∈ p.output received) :
    a ∈ p.greeting ∨ ∃ received, a ∈ p.reaction received := by
  induction received using List.reverseRecOn with
  | nil =>
    rw [output_nil] at h
    exact .inl h
  | append_singleton received q ih =>
    rw [output_concat, List.mem_append] at h
    exact h.elim ih fun h ↦ .inr ⟨_, h⟩

theorem reaction_replying (t : Transform) (received : List Payload) (q : Payload) :
    (replying t).reaction (received ++ [q]) = [.data (t.apply q)] := by
  unfold replying
  dsimp only
  rw [List.getLast?_concat]
  rfl

theorem isFrame_of_mem_replying {received : List Payload} {a : Arrival}
    (h : a ∈ (replying t).reaction received) : a.IsFrame {0} := by
  obtain ⟨q, -, rfl⟩ := Option.map_eq_some_iff.mp (Option.mem_toList.mp h)
  exact ⟨0, rfl, _, rfl⟩

/-- Sends `extra` with the answer to message `j`, just before it. -/
def interjecting (t : Transform) (j : Nat) (extra : Payload) : Peer where
  greeting := []
  reaction received :=
    (if received.length = j + 1 then [.data extra] else []) ++ (replying t).reaction received
  writeFault _ := none

theorem frames_interjecting (t : Transform) (j : Nat) (extra : Payload) (received : List Payload) :
    (interjecting t j extra).frames received =
      if received.length ≤ j then received.map t.apply
      else (received.map t.apply).insertIdx j extra := by
  induction received using List.reverseRecOn with
  | nil => rfl
  | append_singleton received q ih =>
    have hreaction : ((interjecting t j extra).reaction (received ++ [q])).filterMap
        Arrival.payload? = (if received.length = j then [extra] else []) ++ [t.apply q] := by
      unfold interjecting
      dsimp only
      rw [reaction_replying, List.length_append, List.length_singleton]
      by_cases hj : received.length = j
      · rw [if_pos hj, if_pos (congrArg Nat.succ hj)]
        rfl
      · rw [if_neg hj, if_neg fun he ↦ hj (Nat.succ.inj he)]
        rfl
    have hlength : (received.map t.apply).length = received.length := List.length_map _
    rw [frames_concat, ih, hreaction, List.map_append, List.map_singleton, List.length_append,
      List.length_singleton]
    rcases Nat.lt_trichotomy received.length j with hlt | rfl | hgt
    · rw [if_pos (Nat.le_of_lt hlt), if_neg (Nat.ne_of_lt hlt), if_pos (Nat.succ_le_of_lt hlt),
        List.nil_append]
    · -- This is the answer to message `j`, and the peer has not yet interjected.
      rw [if_pos (Nat.le_refl _), if_pos rfl, if_neg (Nat.not_succ_le_self _),
        List.insertIdx_append_of_le _ _ _ (Nat.le_of_eq hlength.symm), ← hlength,
        List.insertIdx_length_self, List.append_assoc]
    · rw [if_neg (by omega), if_neg (by omega), if_neg (by omega), List.nil_append,
        List.insertIdx_append_of_le _ _ _ (by omega)]

theorem interjecting_interjects (t : Transform) (j : Nat) (extra : Payload) :
    (interjecting t j extra).Interjects t j extra {0} where
  writeFault _ := rfl
  output received a ha := by
    obtain ha | ⟨received, ha⟩ := mem_output ha
    · cases ha
    rcases List.mem_append.mp ha with ha | ha
    · split at ha
      · obtain rfl := List.mem_singleton.mp ha
        exact ⟨0, rfl, _, rfl⟩
      · cases ha
    · exact isFrame_of_mem_replying ha
  frames received := by
    rw [frames_interjecting]
    rcases Nat.lt_trichotomy received.length j with hlt | he | hgt
    · left
      rw [if_pos (Nat.le_of_lt hlt), List.insertIdx_of_length_lt (by rwa [List.length_map])]
    · right
      exact ⟨he, if_pos (Nat.le_of_eq he)⟩
    · left
      rw [if_neg (Nat.not_le_of_gt hgt)]

/-- The data frame with which a connection opens comes before the answer to the first message. -/
theorem greeting_interjects (t : Transform) (extra : Payload) :
    { replying t with greeting := [.data extra] }.Interjects t 0 extra {0} where
  writeFault _ := rfl
  output received a ha := by
    obtain ha | ⟨received, ha⟩ := mem_output ha
    · obtain rfl := List.mem_singleton.mp ha
      exact ⟨0, rfl, _, rfl⟩
    · exact isFrame_of_mem_replying ha
  frames received := by
    left
    induction received using List.reverseRecOn with
    | nil => rfl
    | append_singleton received q ih =>
      rw [frames_concat, ih]
      dsimp only
      rw [reaction_replying, List.map_append, List.insertIdx_zero, List.insertIdx_zero]
      rfl

end Peer

end Lockstep

import Lockstep.Text.Pieces

/-!
# Pieces joined and taken apart

Pieces without a separator, joined by separators, fall into the same pieces again.
-/

namespace Lockstep.Text

variable {isSeparator : Char → Bool} {separator c : Char} {p s : List Char}
  {ps : List (List Char)}

/-! ## Taking apart -/

theorem pieces_of_none (hp : ∀ c ∈ p, isSeparator c = false) : pieces isSeparator p = [p] := by
  induction p with
  | nil => rfl
  | cons c p ih =>
    obtain ⟨hc, hp⟩ := List.forall_mem_cons.mp hp
    rw [pieces, if_neg (Bool.not_eq_true _ ▸ hc), ih hp]

/-- Texts with a separator between them fall into the pieces of both. -/
theorem pieces_append (hseparator : isSeparator separator = true) (s rest : List Char) :
    pieces isSeparator (s ++ separator :: rest) =
      pieces isSeparator s ++ pieces isSeparator rest := by
  induction s with
  | nil => exact if_pos hseparator
  | cons c s ih =>
    rw [List.cons_append, pieces, pieces, ih]
    split
    · rfl
    · cases h : pieces isSeparator s with
      | nil => exact absurd h (pieces_ne_nil isSeparator s)
      | cons q qs => rfl

theorem pieces_append_cons (hp : ∀ c ∈ p, isSeparator c = false)
    (hseparator : isSeparator separator = true) (rest : List Char) :
    pieces isSeparator (p ++ separator :: rest) = p :: pieces isSeparator rest := by
  rw [pieces_append hseparator, pieces_of_none hp, List.singleton_append]

/-- There is one piece more than there are separators. -/
theorem length_pieces (s : List Char) :
    (pieces isSeparator s).length = s.countP isSeparator + 1 := by
  induction s with
  | nil => rfl
  | cons c s ih =>
    rw [pieces, List.countP_cons]
    split
    · rw [List.length_cons, ih]
    · cases h : pieces isSeparator s with
      | nil => exact absurd h (pieces_ne_nil isSeparator s)
      | cons q qs => rw [← ih, h, List.length_cons, List.length_cons, Nat.add_zero]

/-- The pieces hold what the text holds between its separators. -/
theorem mem_of_mem_pieces (hp : p ∈ pieces isSeparator s) (hc : c ∈ p) :
    c ∈ s ∧ isSeparator c = false := by
  induction s generalizing p with
  | nil =>
    obtain rfl := List.mem_singleton.mp hp
    cases hc
  | cons d s ih =>
    rw [pieces] at hp
    split at hp
    · rcases List.mem_cons.mp hp with rfl | hp
      · cases hc
      · obtain ⟨hmem, hnone⟩ := ih hp hc
        exact ⟨List.mem_cons_of_mem _ hmem, hnone⟩
    · rename_i hd
      replace hd := Bool.not_eq_true _ ▸ hd
      split at hp
      · rename_i q qs hpieces
        rcases List.mem_cons.mp hp with rfl | hp
        · rcases List.mem_cons.mp hc with rfl | hc
          · exact ⟨List.mem_cons_self, hd⟩
          · obtain ⟨hmem, hnone⟩ := ih (hpieces ▸ List.mem_cons_self) hc
            exact ⟨List.mem_cons_of_mem _ hmem, hnone⟩
        · obtain ⟨hmem, hnone⟩ := ih (hpieces ▸ List.mem_cons_of_mem _ hp) hc
          exact ⟨List.mem_cons_of_mem _ hmem, hnone⟩
      · obtain rfl := List.mem_singleton.mp hp
        obtain rfl := List.mem_singleton.mp hc
        exact ⟨List.mem_cons_self, hd⟩

/-! ## Joining -/

theorem join_cons (hne : ps ≠ []) (p : List Char) :
    join separator (p :: ps) = p ++ separator :: join separator ps := by
  cases ps with
  | nil => exact absurd rfl hne
  | cons q qs => rfl

theorem mem_join (hc : c ∈ join separator ps) : c = separator ∨ ∃ p ∈ ps, c ∈ p := by
  induction ps with
  | nil => cases hc
  | cons p ps ih =>
    cases ps with
    | nil => exact .inr ⟨p, List.mem_cons_self, hc⟩
    | cons q qs =>
      rw [join_cons (List.cons_ne_nil q qs), List.mem_append, List.mem_cons] at hc
      rcases hc with hc | hc | hc
      · exact .inr ⟨p, List.mem_cons_self, hc⟩
      · exact .inl hc
      · rcases ih hc with h | ⟨p', hp', hc⟩
        · exact .inl h
        · exact .inr ⟨p', List.mem_cons_of_mem _ hp', hc⟩

theorem pieces_join (hne : ps ≠ []) (hps : ∀ p ∈ ps, ∀ c ∈ p, isSeparator c = false)
    (hseparator : isSeparator separator = true) :
    pieces isSeparator (join separator ps) = ps := by
  induction ps with
  | nil => exact absurd rfl hne
  | cons p ps ih =>
    obtain ⟨hp, hps⟩ := List.forall_mem_cons.mp hps
    cases ps with
    | nil => exact pieces_of_none hp
    | cons q qs =>
      rw [join_cons (List.cons_ne_nil q qs), pieces_append_cons hp hseparator,
        ih (List.cons_ne_nil q qs) hps]

theorem pieces_join_append (hne : ps ≠ []) (hps : ∀ p ∈ ps, ∀ c ∈ p, isSeparator c = false)
    (hseparator : isSeparator separator = true) (rest : List Char) :
    pieces isSeparator (join separator ps ++ separator :: rest) =
      ps ++ pieces isSeparator rest := by
  induction ps with
  | nil => exact absurd rfl hne
  | cons p ps ih =>
    obtain ⟨hp, hps⟩ := List.forall_mem_cons.mp hps
    cases ps with
    | nil => exact pieces_append_cons hp hseparator rest
    | cons q qs =>
      rw [join_cons (List.cons_ne_nil q qs), List.append_assoc, List.cons_append,
        pieces_append_cons hp hseparator, ih (List.cons_ne_nil q qs) hps]
      rfl

/-! ## Reading piece by piece -/

theorem mapM_eq_some_iff {α β : Type} {f : α → Option β} {xs : List α} {ys : List β} :
    xs.mapM f = some ys ↔ xs.map f = ys.map some := by
  induction xs generalizing ys with
  | nil => cases ys <;> simp
  | cons x xs ih =>
    rw [List.mapM_cons, List.map_cons, Option.bind_eq_bind, Option.bind_eq_some_iff]
    constructor
    · rintro ⟨y, hy, hys⟩
      obtain ⟨zs, hzs, h⟩ := Option.bind_eq_some_iff.mp hys
      cases h
      rw [hy, ih.mp hzs, List.map_cons]
    · intro h
      obtain ⟨y, zs, rfl, hy, hzs⟩ := List.map_eq_cons_iff.mp h.symm
      exact ⟨y, hy.symm, Option.bind_eq_some_iff.mpr ⟨zs, ih.mpr hzs.symm, rfl⟩⟩

end Lockstep.Text

import Lockstep.Proofs.Text.Pieces
import Lockstep.Url.Path

/-!
# Paths read back

Percent-encoding leaves alone what it has written, and a path has no segments of dots left. So a
path that was written is read segment by segment as it stands.
-/

namespace Lockstep

/-! ## Percent-encoding -/

namespace Percent

variable {special s : List Char} {c : Char}

/-- Encoding leaves the character as it is. -/
def IsKept (special : List Char) (c : Char) : Prop :=
  0x20 ≤ c.toNat ∧ c.toNat < 0x7F ∧ c ∉ special

instance (special : List Char) (c : Char) : Decidable (IsKept special c) :=
  inferInstanceAs (Decidable (_ ∧ _ ∧ _))

theorem IsKept.ne (h : IsKept special c) {d : Char} (hd : d ∈ special) : c ≠ d := by
  rintro rfl
  exact h.2.2 hd

theorem IsKept.lt (h : IsKept special c) (hspace : ' ' ∈ special) : 0x20 < c.toNat := by
  refine Nat.lt_of_le_of_ne h.1 fun heq ↦ h.ne hspace ?_
  exact Char.toNat_inj.mp heq.symm

theorem encodeChar_of_isKept (h : IsKept special c) : encodeChar special c = [c] := by
  obtain ⟨hlow, hhigh, hspecial⟩ := h
  refine if_neg ?_
  rintro (hlow' | hhigh' | hspecial')
  · omega
  · omega
  · exact hspecial hspecial'

theorem encode_of_isKept (h : ∀ c ∈ s, IsKept special c) : encode special s = s := by
  induction s with
  | nil => rfl
  | cons c s ih =>
    obtain ⟨hc, hs⟩ := List.forall_mem_cons.mp h
    rw [encode, List.flatMap_cons, encodeChar_of_isKept hc]
    exact congrArg (c :: ·) (ih hs)

/-- Whatever is not kept is written as percent signs and digits. -/
theorem mem_encode (h : c ∈ encode special s) :
    (c ∈ s ∧ IsKept special c) ∨ c = '%' ∨ ∃ n < 16, c = upperDigit n := by
  obtain ⟨d, hd, h⟩ := List.mem_flatMap.mp h
  unfold encodeChar at h
  split at h
  · obtain ⟨b, -, h⟩ := List.mem_flatMap.mp h
    have hb := b.toNat_lt
    simp only [encodeOctet, List.mem_cons, List.not_mem_nil, or_false] at h
    rcases h with rfl | rfl | rfl
    · exact .inr (.inl rfl)
    · exact .inr (.inr ⟨_, by omega, rfl⟩)
    · exact .inr (.inr ⟨_, Nat.mod_lt _ (by decide), rfl⟩)
  · rename_i hkept
    obtain rfl := List.mem_singleton.mp h
    exact .inl ⟨hd, by omega, by omega, fun hspecial ↦ hkept (.inr (.inr hspecial))⟩

end Percent

namespace Path

open Percent

variable {s last : List Char} {closed : List (List Char)} {c : Char}

/-! ## Segments -/

def isSlash (c : Char) : Bool := c = '/' || c = '\\'

/-- The segment is left in a path as it stands, if it is not one of dots. -/
def IsPlain (s : List Char) : Prop := ∀ c ∈ s, IsKept special c ∧ isSlash c = false

theorem isPlain_upperDigit : ∀ n < 16,
    IsKept special (upperDigit n) ∧ isSlash (upperDigit n) = false := by decide

theorem isPlain_encode (h : ∀ c ∈ s, isSlash c = false) : IsPlain (encode special s) := by
  intro c hc
  rcases mem_encode hc with ⟨hmem, hkept⟩ | rfl | ⟨n, hn, rfl⟩
  · exact ⟨hkept, h c hmem⟩
  · decide
  · exact isPlain_upperDigit n hn

/-- A segment of a path that was read. -/
structure IsSettled (s : List Char) : Prop where
  plain : IsPlain s
  single : isSingleDot s = false
  double : isDoubleDot s = false

theorem isSettled_nil : IsSettled [] := ⟨nofun, by decide, by decide⟩

theorem ascend_subset (closed : List (List Char)) : ascend closed ⊆ closed := by
  fun_cases ascend closed with
  | case1 => exact List.Subset.refl []
  | case2 s rest => exact List.Subset.refl (s :: rest)
  | case3 s rest => exact List.subset_cons_self s rest

theorem isSettled_close (hclosed : ∀ p ∈ closed, IsSettled p) (hs : IsPlain s) :
    ∀ p ∈ close closed s, IsSettled p := by
  unfold close
  split
  · exact fun p hp ↦ hclosed p (ascend_subset closed hp)
  split
  · exact hclosed
  · exact List.forall_mem_cons.mpr
      ⟨⟨hs, Bool.eq_false_iff.mpr ‹_›, Bool.eq_false_iff.mpr ‹_›⟩, hclosed⟩

theorem exists_finish (hclosed : ∀ p ∈ closed, IsSettled p) (hs : IsPlain s) :
    ∃ closed' last, finish closed s = text closed' last ∧ ∀ p ∈ last :: closed', IsSettled p := by
  unfold finish
  split
  · exact ⟨_, _, rfl, List.forall_mem_cons.mpr
      ⟨isSettled_nil, fun p hp ↦ hclosed p (ascend_subset closed hp)⟩⟩
  split
  · exact ⟨_, _, rfl, List.forall_mem_cons.mpr ⟨isSettled_nil, hclosed⟩⟩
  · exact ⟨_, _, rfl, List.forall_mem_cons.mpr
      ⟨⟨hs, Bool.eq_false_iff.mpr ‹_›, Bool.eq_false_iff.mpr ‹_›⟩, hclosed⟩⟩

/-! ## Paths -/

/-- A path consists of settled segments. -/
theorem exists_ofSegments {segments : List (List Char)} (hclosed : ∀ p ∈ closed, IsSettled p)
    (hsegments : ∀ p ∈ segments, IsPlain p) :
    ∃ closed' last, ofSegments closed segments = text closed' last ∧
      ∀ p ∈ last :: closed', IsSettled p := by
  fun_induction ofSegments closed segments with
  | case1 closed => exact exists_finish hclosed nofun
  | case2 closed s => exact exists_finish hclosed (hsegments s List.mem_cons_self)
  | case3 closed s rest hne ih =>
    obtain ⟨hs, hrest⟩ := List.forall_mem_cons.mp hsegments
    exact ih (isSettled_close hclosed hs) hrest

/-- Settled segments are read as they stand. -/
theorem ofSegments_of_isSettled {segments : List (List Char)} (closed : List (List Char))
    (hlast : IsSettled last) (hsegments : ∀ p ∈ segments, IsSettled p) :
    ofSegments closed (segments ++ [last]) = text (segments.reverse ++ closed) last := by
  induction segments generalizing closed with
  | nil =>
    rw [List.nil_append, ofSegments, finish, if_neg (by rw [hlast.double]; decide),
      if_neg (by rw [hlast.single]; decide)]
    rfl
  | cons s segments ih =>
    obtain ⟨hs, hsegments⟩ := List.forall_mem_cons.mp hsegments
    rw [List.cons_append, ofSegments, close, if_neg (by rw [hs.double]; decide),
      if_neg (by rw [hs.single]; decide), ih _ hsegments, List.reverse_cons, List.append_assoc]
    · rfl
    · exact fun h ↦ List.append_ne_nil_of_right_ne_nil segments (List.cons_ne_nil last []) h

/-- The pieces of a path after its first slash are its segments. -/
theorem pieces_text {segments : List (List Char)} (hlast : IsPlain last)
    (hsegments : ∀ p ∈ segments, IsPlain p) :
    Text.pieces isSlash (segments.flatMap (· ++ ['/']) ++ last) = segments ++ [last] := by
  induction segments with
  | nil => exact Text.pieces_of_none fun c hc ↦ (hlast c hc).2
  | cons s segments ih =>
    obtain ⟨hs, hsegments⟩ := List.forall_mem_cons.mp hsegments
    rw [List.flatMap_cons, List.append_assoc, List.append_assoc, List.singleton_append,
      Text.pieces_append_cons (fun c hc ↦ (hs c hc).2) (by decide), ih hsegments]
    rfl

/-- The characters of a path are slashes and what encoding keeps. -/
theorem isKept_of_mem_text (h : ∀ p ∈ last :: closed, IsSettled p) (hc : c ∈ text closed last) :
    IsKept special c := by
  have hslash : IsKept special '/' := by decide
  obtain ⟨hlast, hclosed⟩ := List.forall_mem_cons.mp h
  rcases List.mem_cons.mp hc with rfl | hc
  · exact hslash
  rcases List.mem_append.mp hc with hc | hc
  · obtain ⟨p, hp, hc⟩ := List.mem_flatMap.mp hc
    rcases List.mem_append.mp hc with hc | hc
    · exact ((hclosed p (List.mem_reverse.mp hp)).plain c hc).1
    · rw [List.mem_singleton.mp hc]
      exact hslash
  · exact (hlast.plain c hc).1

/-- A path of settled segments is read as it stands. -/
theorem ofSegments_text (h : ∀ p ∈ last :: closed, IsSettled p) :
    ofSegments [] ((Text.pieces isSlash (text closed last).tail).map (encode special)) =
      text closed last := by
  obtain ⟨hlast, hclosed⟩ := List.forall_mem_cons.mp h
  have hreverse : ∀ p ∈ closed.reverse, IsSettled p := fun p hp ↦ hclosed p (List.mem_reverse.mp hp)
  have hencode : (closed.reverse ++ [last]).map (encode special) = closed.reverse ++ [last] := by
    refine (List.map_congr_left fun p hp ↦ encode_of_isKept fun c hc ↦ ?_).trans (List.map_id' _)
    rcases List.mem_append.mp hp with hp | hp
    · exact ((hreverse p hp).plain c hc).1
    · rw [List.mem_singleton.mp hp] at hc
      exact (hlast.plain c hc).1
  rw [text, List.tail_cons, pieces_text hlast.plain fun p hp ↦ (hreverse p hp).plain, hencode,
    ofSegments_of_isSettled [] hlast hreverse, List.reverse_reverse, List.append_nil]
  rfl

end Path

end Lockstep

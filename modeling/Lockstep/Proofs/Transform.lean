import Lockstep.Transform
import Mathlib.Data.String.Basic

/-!
# What a transform tells of a text

A template takes a text in by its placeholder. One without a placeholder answers every text with
itself; all other transforms carry the text, and so answer different texts differently.
-/

namespace Lockstep

namespace Transform

/-! ## Filling a template -/

/-- What stands in a template for the text. -/
def placeholder : List Char := ['{', '}']

variable {pattern : List Char}

theorem fill_placeholder (s back : List Char) : fill s (placeholder ++ back) = s ++ fill s back :=
  rfl

theorem fill_cons {c : Char} (h : ¬ placeholder <+: c :: pattern) (s : List Char) :
    fill s (c :: pattern) = c :: fill s pattern := by
  rw [fill]
  rintro back rfl rfl
  exact h ⟨back, rfl⟩

/-- A pattern without a placeholder stays as it is. -/
theorem fill_eq_self (h : ¬ placeholder <:+: pattern) (s : List Char) :
    fill s pattern = pattern := by
  induction pattern with
  | nil => rfl
  | cons c rest ih =>
    rw [List.infix_cons_iff, not_or] at h
    rw [fill_cons h.1, ih h.2]

/-- Two patterns in a row are filled one by one, unless a placeholder can lie across the join. -/
theorem fill_append {back : List Char} (h : ∀ rest, back ≠ '}' :: rest) (s : List Char) :
    fill s (pattern ++ back) = fill s pattern ++ fill s back := by
  induction pattern using fill.induct with
  | case1 rest ih =>
    change s ++ fill s (rest ++ back) = s ++ fill s rest ++ fill s back
    rw [ih, List.append_assoc]
  | case2 c rest hne ih =>
    rw [List.cons_append, fill.eq_2 _ _ _ hne, fill.eq_2, ih, List.cons_append]
    -- The last character of the first pattern could open a placeholder that the second one closes.
    intro later hc hjoin
    cases rest with
    | nil => exact h later hjoin
    | cons d rest =>
      obtain ⟨rfl, -⟩ := List.cons.inj hjoin
      exact hne rest hc rfl
  | case3 => rfl

/-- A pattern with a placeholder has a first one, where a text is placed before all others. -/
theorem exists_first (h : placeholder <:+: pattern) :
    ∃ front back, ∀ s, fill s pattern = front ++ (s ++ fill s back) := by
  induction pattern with
  | nil => cases List.infix_nil.mp h
  | cons c rest ih =>
    by_cases hfirst : placeholder <+: c :: rest
    · obtain ⟨back, hback⟩ := hfirst
      refine ⟨[], back, fun s ↦ ?_⟩
      rw [← hback]
      exact fill_placeholder s back
    · obtain ⟨front, back, hfill⟩ := ih ((List.infix_cons_iff.mp h).resolve_left hfirst)
      refine ⟨c :: front, back, fun s ↦ ?_⟩
      rw [fill_cons hfirst, hfill]
      rfl

/-- The longer the text, the longer is the pattern with it. -/
theorem length_fill_mono {s s' : List Char} (h : s.length ≤ s'.length) (pattern : List Char) :
    (fill s pattern).length ≤ (fill s' pattern).length := by
  induction pattern using fill.induct with
  | case1 back ih =>
    have hfill (s : List Char) : fill s ('{' :: '}' :: back) = s ++ fill s back := rfl
    rw [hfill, hfill, List.length_append, List.length_append]
    exact Nat.add_le_add h ih
  | case2 c rest hne ih =>
    rw [fill.eq_2 _ _ _ hne, fill.eq_2 _ _ _ hne]
    exact Nat.succ_le_succ ih
  | case3 => exact Nat.le_refl _

/-- Different texts fill a pattern with a placeholder differently. -/
theorem fill_injective (h : placeholder <:+: pattern) : Function.Injective (fill · pattern) := by
  obtain ⟨front, back, hfill⟩ := exists_first h
  have key {s s' : List Char} (hle : s.length ≤ s'.length)
      (he : fill s pattern = fill s' pattern) : s = s' := by
    rw [hfill, hfill] at he
    have htail : s ++ fill s back = s' ++ fill s' back := List.append_cancel_left he
    -- Behind the first placeholder nothing gets shorter, so the texts there have one length.
    have hmono := length_fill_mono hle back
    have hlength := congrArg List.length htail
    rw [List.length_append, List.length_append] at hlength
    exact (List.append_inj htail (by omega)).1
  intro s s' he
  rcases Nat.le_total s.length s'.length with hle | hle
  · exact key hle he
  · exact (key hle he.symm).symm

/-! ## Answers -/

/-- The answer has the kind of the data frame. -/
@[simp] theorem kind_apply (t : Transform) (p : Payload) : (t.apply p).kind = p.kind := by
  cases t <;> cases p <;> rfl

/-- The transform carries what it is applied to into the answer. -/
def Carries : Transform → Prop
  | identity | before _ => True
  | template pattern => placeholder <:+: pattern.toList

/-- A transform that carries a text answers different texts differently. -/
theorem Carries.injective {t : Transform} (h : t.Carries) :
    Function.Injective fun s : String ↦ t.apply (.text s) := by
  intro s s' he
  cases t with
  | identity => exact Payload.text.inj he
  | before l =>
    have he : l ++ s = l ++ s' := Payload.text.inj he
    rwa [String.append_right_inj] at he
  | template pattern =>
    have he := String.ofList_injective (Payload.text.inj he)
    exact String.toList_injective (fill_injective h he)

/-- A transform that does not is a template, which answers all texts with itself. -/
theorem exists_template {t : Transform} (h : ¬ t.Carries) :
    ∃ pattern, t = template pattern ∧ ∀ s, t.apply (.text s) = .text pattern := by
  cases t with
  | identity | before l => exact absurd trivial h
  | template pattern =>
    refine ⟨pattern, rfl, fun s ↦ ?_⟩
    rw [apply, fill_eq_self h, String.ofList_toList]

end Transform

end Lockstep

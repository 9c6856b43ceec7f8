import Lockstep.Number.Digits
import Mathlib.Algebra.Group.Nat.Defs

/-!
# Numbers read back

The digits of a number, in any base up to 16, are read as that number.
-/

namespace Lockstep.Digits

variable {base value n : Nat} {c : Char} {s : List Char}

/-! ## One digit -/

theorem digit?_digitChar : ∀ d < 16, digit? (Nat.digitChar d) = some d := by decide

/-- What is written of a number are digits. -/
theorem exists_of_mem_toDigits (hbase : 1 < base) (h : c ∈ Nat.toDigits base n) :
    ∃ d < base, c = Nat.digitChar d := by
  induction n using Nat.base_induction base hbase with
  | single d hd =>
    rw [Nat.toDigits_of_lt_base hd, List.mem_singleton] at h
    exact ⟨d, hd, h⟩
  | digit m d hd hm ih =>
    rw [← Nat.toDigits_append_toDigits hbase hm hd, List.mem_append] at h
    rcases h with h | h
    · exact ih h
    · rw [Nat.toDigits_of_lt_base hd, List.mem_singleton] at h
      exact ⟨d, hd, h⟩

/-- No number is written with a character that is no digit. -/
theorem ne_of_mem_toDigits (hlow : 1 < base) (hhigh : base ≤ 16) {other : Char}
    (hother : digit? other = none) (h : c ∈ Nat.toDigits base n) : c ≠ other := by
  obtain ⟨d, hd, rfl⟩ := exists_of_mem_toDigits hlow h
  rintro rfl
  rw [digit?_digitChar d (Nat.lt_of_lt_of_le hd hhigh)] at hother
  cases hother

/-- The digits below ten are those of decimal numbers. -/
theorem isDigit_of_digit? {d : Nat} (h : digit? c = some d) (hd : d < 10) :
    c.isDigit = true ∧ c.toNat - '0'.toNat = d := by
  unfold digit? at h
  split at h
  · exact ⟨‹_›, Option.some.inj h⟩
  split at h
  · cases h
    omega
  split at h
  · cases h
    omega
  · cases h

/-! ## All digits -/

theorem readFrom?_append (base value : Nat) (s s' : List Char) :
    readFrom? base value (s ++ s') = (readFrom? base value s).bind (readFrom? base · s') := by
  induction s generalizing value with
  | nil => rfl
  | cons c s ih =>
    rw [List.cons_append, readFrom?, readFrom?]
    cases digit? c with
    | none => rfl
    | some d =>
      change (if _ then _ else _) = Option.bind (if _ then _ else _) _
      split
      · exact ih _
      · rfl

theorem readFrom?_digitChar (hbase : base ≤ 16) {d : Nat} (hd : d < base) :
    readFrom? base value [Nat.digitChar d] = some (value * base + d) := by
  rw [readFrom?, digit?_digitChar d (Nat.lt_of_lt_of_le hd hbase)]
  exact if_pos hd

theorem readFrom?_toDigits (hlow : 1 < base) (hhigh : base ≤ 16) (n : Nat) :
    readFrom? base 0 (Nat.toDigits base n) = some n := by
  induction n using Nat.base_induction base hlow with
  | single d hd => rw [Nat.toDigits_of_lt_base hd, readFrom?_digitChar hhigh hd, Nat.zero_mul,
      Nat.zero_add]
  | digit m d hd hm ih =>
    rw [← Nat.toDigits_append_toDigits hlow hm hd, readFrom?_append, ih, Option.bind_some,
      Nat.toDigits_of_lt_base hd, readFrom?_digitChar hhigh hd, Nat.mul_comm]

theorem read?_toDigits (hlow : 1 < base) (hhigh : base ≤ 16) (n : Nat) :
    read? base (Nat.toDigits base n) = some n := by
  rw [read?, if_neg Nat.toDigits_ne_nil, readFrom?_toDigits hlow hhigh]

/-- Digits do not make a number smaller. -/
theorem le_of_readFrom? (hbase : 0 < base) (h : readFrom? base value s = some n) : value ≤ n := by
  induction s generalizing value with
  | nil =>
    cases h
    exact Nat.le_refl _
  | cons c s ih =>
    obtain ⟨d, -, h⟩ := Option.bind_eq_some_iff.mp h
    split at h
    · calc value ≤ value * base := Nat.le_mul_of_pos_right value hbase
        _ ≤ value * base + d := Nat.le_add_right ..
        _ ≤ n := ih h
    · cases h

theorem lt_of_readFrom? (h : readFrom? base value s = some n) :
    n < (value + 1) * base ^ s.length := by
  induction s generalizing value with
  | nil =>
    cases h
    simp
  | cons c s ih =>
    obtain ⟨d, -, h⟩ := Option.bind_eq_some_iff.mp h
    split at h
    · rename_i hd
      calc n < (value * base + d + 1) * base ^ s.length := ih h
        _ ≤ ((value + 1) * base) * base ^ s.length :=
          Nat.mul_le_mul_right _ (by rw [Nat.add_mul]; omega)
        _ = (value + 1) * base ^ (s.length + 1) := by rw [Nat.mul_assoc, Nat.pow_succ']
    · cases h

/-- So many digits make up a number below the power of the base. -/
theorem lt_of_read? (h : read? base s = some n) : n < base ^ s.length := by
  unfold read? at h
  split at h
  · cases h
  · have := lt_of_readFrom? h
    rwa [Nat.zero_add, Nat.one_mul] at this

/-- A number ends before the first character that is no digit. -/
theorem toDigits_append_inj (hlow : 1 < base) (hhigh : base ≤ 16) (hc : digit? c = none)
    {n' : Nat} {s' : List Char}
    (h : Nat.toDigits base n ++ c :: s = Nat.toDigits base n' ++ c :: s') :
    n = n' ∧ s = s' := by
  have hdigits (m : Nat) : ∀ d ∈ Nat.toDigits base m, decide (d ≠ c) = true := fun d hd ↦
    decide_eq_true (ne_of_mem_toDigits hlow hhigh hc hd)
  have hnumber := congrArg (List.takeWhile (· ≠ c)) h
  rw [List.takeWhile_append_of_pos (hdigits n), List.takeWhile_append_of_pos (hdigits n'),
    List.takeWhile_cons_of_neg (by simp), List.takeWhile_cons_of_neg (by simp), List.append_nil,
    List.append_nil] at hnumber
  rw [hnumber] at h
  have hread := read?_toDigits hlow hhigh n
  rw [hnumber, read?_toDigits hlow hhigh, Option.some.injEq] at hread
  exact ⟨hread.symm, (List.cons.inj (List.append_cancel_left h)).2⟩

end Lockstep.Digits

/-!
# Computations without a value

The reasons for which a computation of this library ends without a value, or does not end.
-/

namespace Lockstep

inductive Halt where
  /-- A sum of time spans is 2^64 seconds or more. -/
  | spanOverflow
  /-- A point in time lies beyond the range of the clock. -/
  | instantOverflow
  /-- A time span is divided by zero. -/
  | zeroDivisor
  /-- The computation waits, without a limit, for something that never comes. -/
  | endless
deriving DecidableEq, Repr

namespace Halt

def message : Halt → String
  | spanOverflow => "overflow when adding time spans"
  | instantOverflow => "overflow when adding duration to instant"
  | zeroDivisor => "division of a time span by zero"
  | endless => "never finished"

/-! ## Computations in a row -/

variable {α β : Type} {x : Except Halt α} {f : α → Except Halt β}

theorem ok_bind (a : α) (f : α → Except Halt β) : Except.ok a >>= f = f a := rfl

theorem error_bind (halt : Halt) (f : α → Except Halt β) :
    Except.error halt >>= f = .error halt := rfl

/-- A value is that of the second computation, after a value of the first. -/
theorem bind_eq_ok {ε : Type} {x : Except ε α} {f : α → Except ε β} {b : β} :
    x >>= f = .ok b ↔ ∃ a, x = .ok a ∧ f a = .ok b := by
  constructor
  · intro h
    cases x with
    | error e => cases h
    | ok a => exact ⟨a, rfl, h⟩
  · rintro ⟨a, rfl, h⟩
    exact h

theorem bind_eq_error {halt : Halt} :
    x >>= f = .error halt ↔ x = .error halt ∨ ∃ a, x = .ok a ∧ f a = .error halt := by
  constructor
  · intro h
    cases x with
    | error e => cases h; exact .inl rfl
    | ok a => exact .inr ⟨a, rfl, h⟩
  · rintro (rfl | ⟨a, rfl, h⟩)
    · rfl
    · exact h

theorem map_eq_ok {ε : Type} {x : Except ε α} {f : α → β} {b : β} :
    f <$> x = .ok b ↔ ∃ a, x = .ok a ∧ f a = b := by
  constructor
  · intro h
    cases x with
    | error halt => cases h
    | ok a => exact ⟨a, rfl, Except.ok.inj h⟩
  · rintro ⟨a, rfl, rfl⟩
    rfl

theorem map_eq_error {f : α → β} {halt : Halt} : f <$> x = .error halt ↔ x = .error halt := by
  constructor
  · intro h
    cases x with
    | error halt => cases h; rfl
    | ok a => cases h
  · rintro rfl
    rfl

/-! ## Computations side by side -/

/-- Both computations come to a value, and the values are related, or neither does, for one reason.
The second may come instead to a value that is an excuse. -/
inductive Alike (R : α → β → Prop) (excuse : β → Prop) : Except Halt α → Except Halt β → Prop
  | ok {a : α} {b : β} (h : R a b) : Alike R excuse (.ok a) (.ok b)
  | error (halt : Halt) : Alike R excuse (.error halt) (.error halt)
  | excused {x : Except Halt α} {b : β} (h : excuse b) : Alike R excuse x (.ok b)

variable {γ δ : Type} {R : α → β → Prop} {excuse : β → Prop} {y : Except Halt β}
  {S : γ → δ → Prop} {excuse' : δ → Prop} {g : α → Except Halt γ} {k : β → Except Halt δ}

/-- Computations in a row are alike if they are so one by one, and an excuse lasts. -/
theorem Alike.bind (h : Alike R excuse x y) (hok : ∀ a b, R a b → Alike S excuse' (g a) (k b))
    (hexcuse : ∀ b, excuse b → ∃ d, k b = .ok d ∧ excuse' d) :
    Alike S excuse' (x >>= g) (y >>= k) := by
  cases h with
  | ok h => exact hok _ _ h
  | error halt => exact .error halt
  | excused h =>
    obtain ⟨d, hd, he⟩ := hexcuse _ h
    rw [ok_bind, hd]
    exact .excused he

theorem Alike.map {g : α → γ} {k : β → δ} (h : Alike R excuse x y)
    (hok : ∀ a b, R a b → S (g a) (k b)) (hexcuse : ∀ b, excuse b → excuse' (k b)) :
    Alike S excuse' (g <$> x) (k <$> y) := by
  cases h with
  | ok h => exact .ok (hok _ _ h)
  | error halt => exact .error halt
  | excused h => exact .excused (hexcuse _ h)

/-- Where there is no excuse, a value of the first computation has a related one of the second. -/
theorem Alike.exists_right {a : α} (h : Alike R excuse x y) (hexcuse : ∀ b, ¬ excuse b)
    (hx : x = .ok a) : ∃ b, y = .ok b ∧ R a b := by
  cases h with
  | ok h => cases hx; exact ⟨_, rfl, h⟩
  | error halt => cases hx
  | excused h => exact absurd h (hexcuse _)

/-- Where there is no excuse, a value of the second computation has a related one of the first. -/
theorem Alike.exists_left {b : β} (h : Alike R excuse x y) (hexcuse : ∀ b, ¬ excuse b)
    (hy : y = .ok b) : ∃ a, x = .ok a ∧ R a b := by
  cases h with
  | ok h => cases hy; exact ⟨_, rfl, h⟩
  | error halt => cases hy
  | excused h => exact absurd h (hexcuse _)

/-- Computations that begin with the same are alike if they go on alike from each value of it. -/
theorem Alike.bind_same (x : Except Halt α) {k : α → Except Halt δ}
    (h : ∀ a, Alike S excuse' (g a) (k a)) : Alike S excuse' (x >>= g) (x >>= k) := by
  cases x with
  | ok a => exact h a
  | error halt => exact .error halt

/-- Computations that are alike come to the same where there is no excuse. -/
theorem Alike.eq {x y : Except Halt α} {excuse : α → Prop} (h : Alike (· = ·) excuse x y)
    (hexcuse : ∀ a, ¬ excuse a) : x = y := by
  cases h with
  | ok h => rw [h]
  | error halt => rfl
  | excused h => exact absurd h (hexcuse _)

end Halt

end Lockstep

/-!
# Sums of counts
-/

namespace Lockstep

/-- The sum of the numbers in a list. -/
def total : List Nat → Nat
  | [] => 0
  | n :: rest => n + total rest

@[simp] theorem total_nil : total [] = 0 := rfl

@[simp] theorem total_cons (n : Nat) (rest : List Nat) : total (n :: rest) = n + total rest := rfl

@[simp] theorem total_append (a b : List Nat) : total (a ++ b) = total a + total b := by
  induction a with
  | nil => simp
  | cons n rest ih => simp [ih, Nat.add_assoc]

/-- The order of the numbers does not matter. -/
theorem total_perm {a b : List Nat} (h : a.Perm b) : total a = total b := by
  induction h with
  | nil => rfl
  | cons n _ ih => simp [ih]
  | swap m n rest => simp only [total_cons]; omega
  | trans _ _ ih₁ ih₂ => exact ih₁.trans ih₂

end Lockstep

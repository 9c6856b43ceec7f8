/-!
# Pieces between separators
-/

namespace Lockstep.Text

/-- The pieces of a text before, between and after its separators. There is one more than there
are separators. -/
def pieces (isSeparator : Char → Bool) : List Char → List (List Char)
  | [] => [[]]
  | c :: rest =>
    if isSeparator c then [] :: pieces isSeparator rest
    else match pieces isSeparator rest with
      | p :: ps => (c :: p) :: ps
      | [] => [[c]]

theorem pieces_ne_nil (isSeparator : Char → Bool) (s : List Char) :
    pieces isSeparator s ≠ [] := by
  cases s with
  | nil => simp [pieces]
  | cons c rest => unfold pieces; split <;> (try split) <;> simp

/-- The pieces with one separator between each two. -/
def join (separator : Char) : List (List Char) → List Char
  | [] => []
  | [p] => p
  | p :: ps => p ++ separator :: join separator ps

end Lockstep.Text

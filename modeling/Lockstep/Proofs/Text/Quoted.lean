import Lockstep.Proofs.Number.Digits
import Lockstep.Text.Quoted
import Mathlib.Logic.Function.Basic

/-!
# Quoted text read back

What stands for a character within quotes can be told from what stands after it: an escape begins
with a backslash and ends with its letter or its brace, and a character that stands for itself is
neither a backslash nor a quote. So the quoted form determines the text.
-/

namespace Lockstep.Quoted

/-! ## Reading -/

/-- The character that a backslash and a letter stand for. -/
def ofLetter? : Char → Option Char
  | '0' => some '\x00'
  | 't' => some '\t'
  | 'r' => some '\r'
  | 'n' => some '\n'
  | '"' => some '"'
  | '\\' => some '\\'
  | _ => none

/-- The character at the front of what is written within quotes, and what is written after it. -/
def read? : List Char → Option (Char × List Char)
  | [] => none
  | '"' :: _ => none
  | '\\' :: 'u' :: '{' :: s =>
    (Digits.read? 16 (s.takeWhile (· ≠ '}'))).map fun n ↦
      (Char.ofNat n, (s.dropWhile (· ≠ '}')).tail)
  | '\\' :: letter :: s => (ofLetter? letter).map (·, s)
  | c :: s => some (c, s)

theorem read?_code (c : Char) (rest : List Char) :
    read? (['\\', 'u', '{'] ++ Nat.toDigits 16 c.toNat ++ ['}'] ++ rest) = some (c, rest) := by
  have hdigits : ∀ d ∈ Nat.toDigits 16 c.toNat, decide (d ≠ '}') = true := fun d hd ↦
    decide_eq_true (Digits.ne_of_mem_toDigits (by decide) (by decide) (by decide) hd)
  have hfront : ['\\', 'u', '{'] ++ Nat.toDigits 16 c.toNat ++ ['}'] ++ rest =
      '\\' :: 'u' :: '{' :: (Nat.toDigits 16 c.toNat ++ '}' :: rest) := by
    rw [List.append_assoc, List.append_assoc]
    rfl
  rw [hfront, read?, List.takeWhile_append_of_pos hdigits, List.dropWhile_append_of_pos hdigits,
    List.takeWhile_cons_of_neg (by simp), List.dropWhile_cons_of_neg (by simp), List.append_nil,
    Digits.read?_toDigits (by decide) (by decide), Option.map_some, Char.ofNat_toNat,
    List.tail_cons]

theorem read?_plain {c : Char} (hquote : c ≠ '"') (hbackslash : c ≠ '\\') (rest : List Char) :
    read? (c :: rest) = some (c, rest) := by
  unfold read?
  split
  · contradiction
  · exact absurd (List.cons.inj ‹_›).1 hquote
  · exact absurd (List.cons.inj ‹_›).1 hbackslash
  · exact absurd (List.cons.inj ‹_›).1 hbackslash
  · cases ‹c :: rest = _›
    rfl

/-- Each character is read back, whatever is written after it. -/
theorem read?_escape (c : Char) (rest : List Char) :
    read? (escape c ++ rest) = some (c, rest) := by
  unfold escape
  split
  · subst c; rfl
  split
  · subst c; rfl
  split
  · subst c; rfl
  split
  · subst c; rfl
  split
  · subst c; rfl
  split
  · subst c; rfl
  split
  · exact read?_plain ‹_› ‹_› rest
  · exact read?_code c rest

/-! ## Texts -/

/-- The quoted form of a text determines it. -/
theorem encode_injective : Function.Injective encode := by
  intro s s' h
  replace h : s.flatMap escape ++ ['"'] = s'.flatMap escape ++ ['"'] := (List.cons.inj h).2
  have hend : read? ['"'] = none := rfl
  induction s generalizing s' with
  | nil =>
    cases s' with
    | nil => rfl
    | cons c' s' =>
      rw [List.flatMap_nil, List.nil_append, List.flatMap_cons, List.append_assoc] at h
      rw [h, read?_escape] at hend
      cases hend
  | cons c s ih =>
    rw [List.flatMap_cons, List.append_assoc] at h
    cases s' with
    | nil =>
      rw [List.flatMap_nil, List.nil_append] at h
      rw [← h, read?_escape] at hend
      cases hend
    | cons c' s' =>
      have hread := congrArg read? h
      rw [List.flatMap_cons, List.append_assoc, read?_escape, read?_escape] at hread
      obtain ⟨rfl, hrest⟩ := Prod.mk.inj (Option.some.inj hread)
      rw [ih hrest]

end Lockstep.Quoted

import Lockstep.Number.Fixed
import Lockstep.Proofs.Number.Digits
import Lockstep.Proofs.Text.Pieces
import Lockstep.Text.Quoted

/-!
# Lines

The lines of a text are its pieces between line breaks. What is written of numbers has no control
character, whatever the number, nor has a quoted text, whatever is quoted. So neither breaks the
line on which it stands.
-/

namespace Lockstep.Text

/-! ## Lines -/

/-- The lines of a text: what stands before, between and after its line breaks. -/
def lines (s : String) : List String := (pieces (· == '\n') s.toList).map String.ofList

theorem lines_append (s rest : String) : lines (s ++ "\n" ++ rest) = lines s ++ lines rest := by
  have hchars : (s ++ "\n" ++ rest).toList = s.toList ++ '\n' :: rest.toList := by
    rw [String.append_assoc, String.toList_append, String.toList_append]
    rfl
  rw [lines, hchars, pieces_append rfl, List.map_append, lines, lines]

/-- A text without a line break is one line. -/
theorem lines_eq_singleton {s : String} (h : '\n' ∉ s.toList) : lines s = [s] := by
  have hnone : ∀ c ∈ s.toList, (c == '\n') = false := fun c hc ↦
    beq_false_of_ne fun he ↦ h (he ▸ hc)
  rw [lines, pieces_of_none hnone, List.map_singleton, String.ofList_toList]

theorem length_lines (s : String) : (lines s).length = s.toList.count '\n' + 1 := by
  rw [lines, List.length_map, length_pieces, List.count]

/-! ## Control characters -/

variable {c : Char}

/-- The character moves what stands after it, as a line break does, or changes how it is shown. -/
def IsControl (c : Char) : Prop := c.toNat < 0x20

instance : DecidablePred IsControl := fun c ↦ inferInstanceAs (Decidable (c.toNat < 0x20))

theorem not_mem_append {s t : String} :
    c ∉ (s ++ t).toList ↔ c ∉ s.toList ∧ c ∉ t.toList := by
  rw [String.toList_append, List.mem_append, not_or]

theorem IsControl.not_mem {s : List Char} (hc : IsControl c)
    (hs : s.all (0x20 ≤ ·.toNat) = true) : c ∉ s := fun hmem ↦
  Nat.not_lt_of_le (of_decide_eq_true (List.all_eq_true.mp hs c hmem)) hc

theorem IsControl.ne_digitChar (hc : IsControl c) {d : Nat} (hd : d < 16) :
    c ≠ Nat.digitChar d := by
  have hdigits : ∀ d < 16, ¬ IsControl (Nat.digitChar d) := by decide
  rintro rfl
  exact hdigits d hd hc

/-- No number is written with a control character. -/
theorem IsControl.not_mem_toDigits (hc : IsControl c) {base : Nat} (hlow : 1 < base)
    (hhigh : base ≤ 16) (n : Nat) : c ∉ Nat.toDigits base n := by
  intro hmem
  obtain ⟨d, hd, he⟩ := Digits.exists_of_mem_toDigits hlow hmem
  exact hc.ne_digitChar (Nat.lt_of_lt_of_le hd hhigh) he

theorem IsControl.not_mem_toString (hc : IsControl c) (n : Nat) : c ∉ (toString n).toList := by
  rw [Nat.toString_eq_ofList_toDigits, String.toList_ofList]
  exact hc.not_mem_toDigits (by decide) (by decide) n

theorem IsControl.not_mem_padded (hc : IsControl c) (width n : Nat) :
    c ∉ (Fixed.padded width n).toList := by
  rw [Fixed.padded, String.toList_ofList, List.mem_append, not_or]
  refine ⟨fun hmem ↦ ?_, hc.not_mem_toDigits (by decide) (by decide) n⟩
  exact hc.not_mem (s := ['0']) (by decide) (List.mem_singleton.mpr (List.eq_of_mem_replicate hmem))

theorem IsControl.not_mem_decimal (hc : IsControl c) (places n : Nat) :
    c ∉ (Fixed.decimal places n).toList := by
  unfold Fixed.decimal
  dsimp only
  rw [not_mem_append, not_mem_append]
  exact ⟨⟨hc.not_mem_toString _, hc.not_mem (by decide)⟩, hc.not_mem_padded _ _⟩

theorem IsControl.not_mem_fixed (hc : IsControl c) (places : Nat) (x : Float) :
    c ∉ (Fixed.text places x).toList := hc.not_mem_decimal places _

theorem IsControl.isPrintable (hc : IsControl c) : isPrintable c = false := by
  rw [Text.isPrintable, if_pos (Nat.lt_trans hc (by decide))]
  exact decide_eq_false (Nat.not_le_of_lt hc)

/-- What stands for a character within quotes is no control character, even if that one is. -/
theorem IsControl.not_mem_escape (hc : IsControl c) (d : Char) : c ∉ Quoted.escape d := by
  unfold Quoted.escape
  iterate 6
    split
    · exact hc.not_mem (by decide)
  split
  · rename_i hd
    intro hmem
    rw [← List.mem_singleton.mp hmem, hc.isPrintable] at hd
    cases hd
  · rw [List.mem_append, List.mem_append, not_or, not_or]
    exact ⟨⟨hc.not_mem (by decide), hc.not_mem_toDigits (by decide) (by decide) _⟩,
      hc.not_mem (by decide)⟩

theorem IsControl.not_mem_encode (hc : IsControl c) (s : List Char) : c ∉ Quoted.encode s := by
  intro hmem
  rw [Quoted.encode, List.cons_append, List.mem_cons, List.mem_append, List.mem_flatMap] at hmem
  rcases hmem with rfl | ⟨d, -, hmem⟩ | hmem
  · exact absurd hc (by decide)
  · exact hc.not_mem_escape d hmem
  · exact hc.not_mem (by decide) hmem

end Lockstep.Text

import Lockstep.Proofs.Text.Lossy
import Lockstep.Proofs.Transform

/-!
# A literal before the payload, and the same as a template

A literal with a placeholder behind it is a template that does what the literal does when it is put
before a payload, if the literal has no placeholder of its own. A brace at its end makes no
difference: the placeholder behind it does not shift. The two forms part on octets that are not
UTF-8, which a template reads as text.

All of it is read off `fill_append_placeholder`.
-/

namespace Lockstep

namespace Transform

variable {p : String} {s : List Char} {b : List UInt8}

/-! ## A placeholder at the end -/

theorem fill_append_placeholder (s pattern : List Char) :
    fill s (pattern ++ placeholder) = fill s pattern ++ s := by
  rw [fill_append (by rintro rest ⟨⟩)]
  exact congrArg (_ ++ ·) (List.append_nil s)

/-- Exactly the patterns without a placeholder stay as they are, whatever they are filled with. -/
theorem fill_eq_self_iff {pattern : List Char} :
    (∀ s, fill s pattern = pattern) ↔ ¬ placeholder <:+: pattern := by
  refine ⟨fun h hp ↦ ?_, fill_eq_self⟩
  cases fill_injective hp ((h []).trans (h placeholder).symm)

/-- The transform that puts `p` before a payload, as a template. -/
def asTemplate (p : String) : Transform := template (p ++ "{}")

theorem toList_append_placeholder (p : String) : (p ++ "{}").toList = p.toList ++ placeholder :=
  String.toList_append

theorem asTemplate_text (p s : String) :
    (asTemplate p).apply (.text s) =
      .text (String.ofList (fill s.toList p.toList ++ s.toList)) := by
  rw [asTemplate, apply, toList_append_placeholder, fill_append_placeholder]

theorem asTemplate_binary (p : String) (b : List UInt8) :
    (asTemplate p).apply (.binary b) =
      .binary (Utf8.encode (fill (Utf8.lossy b) p.toList ++ Utf8.lossy b)) := by
  rw [asTemplate, apply, toList_append_placeholder, fill_append_placeholder]

/-! ## Where the forms agree -/

theorem before_text_eq_iff {s : String} :
    (before p).apply (.text s) = (asTemplate p).apply (.text s) ↔
      fill s.toList p.toList = p.toList := by
  rw [asTemplate_text, apply, Payload.text.injEq, ← String.toList_inj, String.toList_append,
    String.toList_ofList, List.append_left_inj, eq_comm]

theorem before_encode_eq_iff :
    (before p).apply (.binary (Utf8.encode s)) = (asTemplate p).apply (.binary (Utf8.encode s)) ↔
      fill s p.toList = p.toList := by
  rw [asTemplate_binary, apply, Payload.binary.injEq, Utf8.lossy_encode, ← Utf8.encode_append,
    Utf8.encode_injective.eq_iff, List.append_left_inj, eq_comm]

/-- On octets that are not UTF-8 the forms differ: a template answers with UTF-8, and octets before
which a text is put remain what they are. -/
theorem before_binary_ne (h : ¬ b.toByteArray.IsValidUTF8) :
    (before p).apply (.binary b) ≠ (asTemplate p).apply (.binary b) := by
  intro he
  rw [asTemplate_binary, apply, Payload.binary.injEq] at he
  have hread := congrArg Utf8.lossy he
  rw [Utf8.lossy_encode_append, Utf8.lossy_encode, List.append_left_inj] at hread
  rw [← hread, Utf8.encode_append, List.append_cancel_left_eq] at he
  exact h (Utf8.isValidUTF8_iff.mpr he.symm)

/-- A literal before the payload and the template of it with a placeholder at its end answer all
texts alike exactly if there is no placeholder in the literal, and likewise all octets that are
UTF-8. They answer no other octets alike: the literal keeps them, and the template mends them. -/
theorem before_agrees_asTemplate (p : String) :
    ((∀ s, (before p).apply (.text s) = (template (p ++ "{}")).apply (.text s)) ↔
      ¬ placeholder <:+: p.toList) ∧
    ((∀ b, b.toByteArray.IsValidUTF8 →
        (before p).apply (.binary b) = (template (p ++ "{}")).apply (.binary b)) ↔
      ¬ placeholder <:+: p.toList) ∧
    ∀ b, ¬ b.toByteArray.IsValidUTF8 →
      (before p).apply (.binary b) ≠ (template (p ++ "{}")).apply (.binary b) ∧
      (before p).apply (.binary b) = .binary (Utf8.encode p.toList ++ b) ∧
      ∃ s, Utf8.Mended b s ∧ Utf8.replacement ∈ s ∧
        (template (p ++ "{}")).apply (.binary b) =
          .binary (Utf8.encode (fill s p.toList ++ s)) := by
  refine ⟨?_, ?_, fun b hb ↦ ⟨before_binary_ne hb, rfl, Utf8.lossy b, Utf8.mended_lossy b,
    Utf8.replacement_mem_lossy hb, asTemplate_binary p b⟩⟩
  · rw [← fill_eq_self_iff]
    constructor
    · intro h s
      have hs := before_text_eq_iff.mp (h (String.ofList s))
      rwa [String.toList_ofList] at hs
    · exact fun h s ↦ before_text_eq_iff.mpr (h s.toList)
  · rw [← fill_eq_self_iff]
    constructor
    · exact fun h s ↦ before_encode_eq_iff.mp (h _ (Utf8.isValidUTF8_encode s))
    · intro h b hb
      rw [← Utf8.isValidUTF8_iff.mp hb]
      exact before_encode_eq_iff.mpr (h _)

/-- A brace at the end of the literal opens no placeholder. -/
example : (template "\x7b{}").apply (.text "\x7d") = .text "{}" := by decide

end Transform

end Lockstep

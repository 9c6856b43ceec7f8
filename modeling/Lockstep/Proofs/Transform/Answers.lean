import Lockstep.Proofs.Text.Utf8
import Lockstep.Proofs.Transform

/-!
# Which answers are the same, and what octets are answered

Two data frames have one answer only if a template loses what distinguishes them: by having no
placeholder, or by reading octets as text. Octets that encode a text are answered by those that
encode the answer to the text. Of other octets a template answers the text that is read from them,
and the other transforms keep every single one.
-/

namespace Lockstep

namespace Transform

variable {t : Transform} {p q : Payload} {s s' : String} {b b' : List UInt8}

/-! ## Which answers are the same -/

theorem not_carries_iff :
    ¬ t.Carries ↔ ∃ pattern, t = template pattern ∧ ¬ placeholder <:+: pattern.toList := by
  constructor
  · intro h
    obtain ⟨pattern, rfl, -⟩ := exists_template h
    exact ⟨pattern, rfl, h⟩
  · rintro ⟨pattern, rfl, h⟩
    exact h

theorem apply_text_eq_iff :
    t.apply (.text s) = t.apply (.text s') ↔ s = s' ∨ ¬ t.Carries := by
  constructor
  · intro h
    by_cases ht : t.Carries
    · exact .inl (ht.injective h)
    · exact .inr ht
  · rintro (rfl | ht)
    · rfl
    · obtain ⟨pattern, -, htext⟩ := exists_template ht
      rw [htext, htext]

theorem fill_eq_iff {pattern s s' : List Char} :
    fill s pattern = fill s' pattern ↔ s = s' ∨ ¬ placeholder <:+: pattern := by
  constructor
  · intro h
    by_cases hp : placeholder <:+: pattern
    · exact .inl (fill_injective hp h)
    · exact .inr hp
  · rintro (rfl | hp)
    · rfl
    · rw [fill_eq_self hp, fill_eq_self hp]

/-- A template tells octets apart by the texts that are read from them. -/
theorem template_binary_eq_iff {pattern : String} :
    (template pattern).apply (.binary b) = (template pattern).apply (.binary b') ↔
      Utf8.lossy b = Utf8.lossy b' ∨ ¬ placeholder <:+: pattern.toList := by
  rw [apply, apply, Payload.binary.injEq, Utf8.encode_injective.eq_iff, fill_eq_iff]

theorem apply_binary_eq_iff :
    t.apply (.binary b) = t.apply (.binary b') ↔ b = b' ∨ ¬ t.Carries ∨
      (∃ pattern, t = template pattern) ∧ Utf8.lossy b = Utf8.lossy b' := by
  cases t with
  | identity => simp [apply, Carries]
  | before l => simp [apply, Carries]
  | template pattern =>
    rw [template_binary_eq_iff]
    constructor
    · rintro (h | h)
      · exact .inr (.inr ⟨⟨pattern, rfl⟩, h⟩)
      · exact .inr (.inl h)
    · rintro (rfl | h | ⟨-, h⟩)
      · exact .inl rfl
      · exact .inr h
      · exact .inl h

/-- Two data frames have one answer exactly if they are the same, or a template without a
placeholder answers two of one kind, or a template answers octets from which one text is read. So
the transforms that carry texts, and no others, answer different texts differently. An answer has
the kind of the data frame. -/
theorem answers_distinguish (t : Transform) :
    (∀ p q, t.apply p = t.apply q ↔ p = q ∨
      (∃ pattern, t = template pattern ∧ ¬ placeholder <:+: pattern.toList ∧ p.kind = q.kind) ∨
      ∃ pattern b b', t = template pattern ∧ p = .binary b ∧ q = .binary b' ∧
        Utf8.lossy b = Utf8.lossy b') ∧
      ((Function.Injective fun s : String ↦ t.apply (.text s)) ↔ t.Carries) ∧
      ∀ p, (t.apply p).kind = p.kind := by
  refine ⟨fun p q ↦ ⟨fun h ↦ ?_, ?_⟩, ⟨fun h ↦ ?_, Carries.injective⟩, t.kind_apply⟩
  · have hkind : p.kind = q.kind := by rw [← t.kind_apply p, h, t.kind_apply]
    cases p with
    | text s =>
      cases q with
      | text s' =>
        rcases apply_text_eq_iff.mp h with rfl | ht
        · exact .inl rfl
        · obtain ⟨pattern, rfl, hp⟩ := not_carries_iff.mp ht
          exact .inr (.inl ⟨pattern, rfl, hp, rfl⟩)
      | binary b' => cases hkind
    | binary b =>
      cases q with
      | text s' => cases hkind
      | binary b' =>
        rcases apply_binary_eq_iff.mp h with rfl | ht | ⟨⟨pattern, rfl⟩, hlossy⟩
        · exact .inl rfl
        · obtain ⟨pattern, rfl, hp⟩ := not_carries_iff.mp ht
          exact .inr (.inl ⟨pattern, rfl, hp, rfl⟩)
        · exact .inr (.inr ⟨pattern, b, b', rfl, rfl, rfl, hlossy⟩)
  · rintro (rfl | ⟨pattern, rfl, hp, hkind⟩ | ⟨pattern, b, b', rfl, rfl, rfl, hlossy⟩)
    · rfl
    · cases p with
      | text s =>
        cases q with
        | text s' => exact apply_text_eq_iff.mpr (.inr hp)
        | binary b' => cases hkind
      | binary b =>
        cases q with
        | text s' => cases hkind
        | binary b' => exact template_binary_eq_iff.mpr (.inr hp)
    · exact template_binary_eq_iff.mpr (.inl hlossy)
  · by_contra ht
    have hsame : t.apply (.text "a") = t.apply (.text "b") := apply_text_eq_iff.mpr (.inr ht)
    exact absurd (h hsame) (by decide)

/-- A template answers octets that begin no character alike. -/
example : (template "<{}>").apply (.binary [0xFE]) = (template "<{}>").apply (.binary [0xFF]) := by
  decide

/-! ## What octets are answered -/

/-- Octets that encode a text are answered by those that encode its answer. -/
theorem exists_answer (t : Transform) (s : String) :
    ∃ answer, t.apply (.text s) = .text answer ∧
      t.apply (.binary (Utf8.encode s.toList)) = .binary (Utf8.encode answer.toList) := by
  cases t with
  | identity => exact ⟨s, rfl, rfl⟩
  | before l =>
    refine ⟨l ++ s, rfl, ?_⟩
    rw [apply, String.toList_append, Utf8.encode_append]
  | template pattern =>
    refine ⟨String.ofList (fill s.toList pattern.toList), rfl, ?_⟩
    rw [apply, Utf8.lossy_encode, String.toList_ofList]

/-- A template answers octets as it answers the octets of the text that is read from them. -/
theorem template_encode_lossy (pattern : String) (b : List UInt8) :
    (template pattern).apply (.binary (Utf8.encode (Utf8.lossy b))) =
      (template pattern).apply (.binary b) := by
  rw [apply, apply, Utf8.lossy_encode]

/-- To answer a text and to encode it can be done in either order. Any other octets a template
answers with well-formed ones, and as it answers the octets of the text that is read from them; the
other transforms keep them at the end of their answer. -/
theorem answers_encoded (t : Transform) :
    (∀ s : String, ∃ answer, t.apply (.text s) = .text answer ∧
      t.apply (.binary (Utf8.encode s.toList)) = .binary (Utf8.encode answer.toList)) ∧
    ((∃ pattern, t = template pattern) → ∀ b, ∃ octets, t.apply (.binary b) = .binary octets ∧
      octets.toByteArray.IsValidUTF8 ∧
      t.apply (.binary (Utf8.encode (Utf8.lossy b))) = .binary octets) ∧
    ((t = identity ∨ ∃ l, t = before l) → ∀ b, ∃ octets, t.apply (.binary b) = .binary octets ∧
      b <:+ octets) := by
  refine ⟨t.exists_answer, ?_, ?_⟩
  · rintro ⟨pattern, rfl⟩ b
    exact ⟨_, rfl, Utf8.isValidUTF8_encode _, template_encode_lossy pattern b⟩
  · rintro (rfl | ⟨l, rfl⟩) b
    · exact ⟨b, rfl, List.suffix_rfl⟩
    · exact ⟨_, rfl, List.suffix_append ..⟩

end Transform

end Lockstep

import Lockstep.Proofs.Text.Quoted
import Lockstep.Verdict

/-!
# What is shown of payloads

What is shown of a payload identifies it, but for the octets that are not shown: a text begins with
a quote and is quoted in full, and octets begin with a bracket, their number and the first of them.
So two payloads that were found to differ are shown differently, unless they are octets that differ
only in what is not shown.
-/

namespace Lockstep

namespace Payload

variable {b b' : List UInt8} {s s' : String} {p q : Payload}

/-! ## Octets -/

theorem hexOctet_injective : Function.Injective hexOctet := by
  intro x y h
  obtain ⟨hhigh, hlow⟩ := List.cons.inj (String.ofList_injective h)
  replace hlow := (List.cons.inj hlow).1
  have hx := x.toNat_lt
  have hy := y.toNat_lt
  have hhigh' := Digits.digit?_digitChar (x.toNat / 16) (by omega)
  rw [hhigh, Digits.digit?_digitChar _ (by omega), Option.some.injEq] at hhigh'
  have hlow' := Digits.digit?_digitChar (x.toNat % 16) (by omega)
  rw [hlow, Digits.digit?_digitChar _ (by omega), Option.some.injEq] at hlow'
  exact UInt8.toNat_inj.mp (by omega)

/-- The two digits of an octet end where they end. -/
theorem hexOctet_append_inj {x y : UInt8} (h : hexOctet x ++ s = hexOctet y ++ s') :
    x = y ∧ s = s' := by
  have hchars := congrArg String.toList h
  rw [String.toList_append, String.toList_append, hexOctet, hexOctet, String.toList_ofList,
    String.toList_ofList] at hchars
  obtain ⟨hdigits, hrest⟩ := List.append_inj hchars rfl
  exact ⟨hexOctet_injective (congrArg String.ofList hdigits), String.toList_inj.mp hrest⟩

/-- Octets with commas between them. -/
def listed (octets : List UInt8) : String := ", ".intercalate (octets.map hexOctet)

theorem listed_singleton (x : UInt8) : listed [x] = hexOctet x := String.intercalate_singleton

theorem listed_cons_cons (x y : UInt8) (rest : List UInt8) :
    listed (x :: y :: rest) = hexOctet x ++ (", " ++ listed (y :: rest)) :=
  String.intercalate_cons_cons.trans String.append_assoc

/-- Equally many octets are listed alike only if they are the same. -/
theorem eq_of_listed_eq (hlength : b.length = b'.length) (h : listed b = listed b') : b = b' := by
  induction b generalizing b' with
  | nil => exact (List.length_eq_zero_iff.mp hlength.symm).symm
  | cons x rest ih =>
    cases b' with
    | nil => cases hlength
    | cons x' rest' =>
      have hrest : rest.length = rest'.length := Nat.succ.inj hlength
      cases rest with
      | nil =>
        obtain rfl := List.length_eq_zero_iff.mp hrest.symm
        rw [listed_singleton, listed_singleton] at h
        rw [hexOctet_injective h]
      | cons y rest =>
        cases rest' with
        | nil => cases hrest
        | cons y' rest' =>
          rw [listed_cons_cons, listed_cons_cons] at h
          obtain ⟨rfl, hothers⟩ := hexOctet_append_inj h
          rw [ih hrest ((String.append_right_inj _).mp hothers)]

/-! ## Payloads -/

theorem toList_display_text (s : String) :
    (text s).display.toList = Quoted.encode s.toList := String.toList_ofList

theorem display_binary (b : List UInt8) : (binary b).display =
    "<" ++ toString b.length ++ " bytes> [" ++ listed (b.take 32) ++ "]" := rfl

theorem toList_display_binary (b : List UInt8) :
    (binary b).display.toList = '<' :: (Nat.toDigits 10 b.length ++ ' ' ::
      ("bytes> [".toList ++ ((listed (b.take 32)).toList ++ [']']))) := by
  simp only [display_binary, String.toList_append, Nat.toString_eq_ofList_toDigits,
    String.toList_ofList, List.append_assoc]
  rfl

theorem display_text_inj : (text s).display = (text s').display ↔ s = s' := by
  refine ⟨fun h ↦ ?_, fun h ↦ h ▸ rfl⟩
  replace h := congrArg String.toList h
  rw [toList_display_text, toList_display_text] at h
  exact String.toList_inj.mp (Quoted.encode_injective h)

/-- A text begins with a quote, and octets begin with a bracket. -/
theorem display_text_ne_binary (s : String) (b : List UInt8) :
    (text s).display ≠ (binary b).display := by
  intro h
  replace h := congrArg String.toList h
  rw [toList_display_text, toList_display_binary] at h
  exact absurd (List.cons.inj h).1 (by decide)

theorem display_binary_inj :
    (binary b).display = (binary b').display ↔ b.length = b'.length ∧ b.take 32 = b'.take 32 := by
  constructor
  · intro h
    replace h := congrArg String.toList h
    rw [toList_display_binary, toList_display_binary] at h
    obtain ⟨hlength, hrest⟩ :=
      Digits.toDigits_append_inj (by decide) (by decide) (by decide) (List.cons.inj h).2
    have hlisted := List.append_cancel_right (List.append_cancel_left hrest)
    refine ⟨hlength, eq_of_listed_eq ?_ (String.toList_inj.mp hlisted)⟩
    rw [List.length_take, List.length_take, hlength]
  · rintro ⟨hlength, htake⟩
    rw [display_binary, display_binary, hlength, htake]

/-- Octets of which all are shown are the same if they are shown alike. -/
theorem take_eq_iff (h : b.length = b'.length) :
    b.take 32 = b'.take 32 ↔ b = b' ∨ 32 < b.length ∧ b.take 32 = b'.take 32 := by
  constructor
  · intro htake
    by_cases hlt : 32 < b.length
    · exact .inr ⟨hlt, htake⟩
    · rw [List.take_of_length_le (Nat.le_of_not_lt hlt),
        List.take_of_length_le (h ▸ Nat.le_of_not_lt hlt)] at htake
      exact .inl htake
  · rintro (rfl | ⟨-, htake⟩)
    · rfl
    · exact htake

/-- The payloads are more octets than are shown, equally many, and the same in what is shown. -/
def SameShown (p q : Payload) : Prop :=
  ∃ b b', p = binary b ∧ q = binary b' ∧ b.length = b'.length ∧ 32 < b.length ∧
    b.take 32 = b'.take 32

theorem display_eq_iff : p.display = q.display ↔ p = q ∨ SameShown p q := by
  constructor
  · intro h
    cases p with
    | text s =>
      cases q with
      | text s' => exact .inl (congrArg text (display_text_inj.mp h))
      | binary b' => exact absurd h (display_text_ne_binary s b')
    | binary b =>
      cases q with
      | text s' => exact absurd h.symm (display_text_ne_binary s' b)
      | binary b' =>
        obtain ⟨hlength, htake⟩ := display_binary_inj.mp h
        rcases (take_eq_iff hlength).mp htake with rfl | ⟨hlt, htake⟩
        · exact .inl rfl
        · exact .inr ⟨b, b', rfl, rfl, hlength, hlt, htake⟩
  · rintro (rfl | ⟨b, b', rfl, rfl, hlength, -, htake⟩)
    · rfl
    · exact display_binary_inj.mpr ⟨hlength, htake⟩

/-- Two payloads are shown alike exactly if they are the same, or octets that agree in number and in
all that is shown of them. So texts are never shown alike, nor is a text ever shown as octets are,
and a mismatch shows two different payloads unless they differ only in octets that are not shown. -/
theorem display_identifies :
    (∀ p q : Payload, p.display = q.display ↔ p = q ∨ SameShown p q) ∧
      (∀ s s' : String, s ≠ s' → (text s).display ≠ (text s').display) ∧
      (∀ (s : String) (b : List UInt8), (text s).display ≠ (binary b).display) ∧
      ∀ (predicate : Predicate) (sent received expected actual : Payload),
        predicate.evaluate sent received = .mismatch expected actual →
          (predicate.evaluate sent received).display =
            "expected " ++ expected.display ++ ", got " ++ actual.display ∧
          (expected.display = actual.display ↔ ∃ b b', expected = binary b ∧ actual = binary b' ∧
            b.length = b'.length ∧ b.take 32 = b'.take 32 ∧ b.drop 32 ≠ b'.drop 32) := by
  refine ⟨fun p q ↦ display_eq_iff, fun s s' ↦ mt display_text_inj.mp, display_text_ne_binary, ?_⟩
  intro predicate sent received expected actual h
  obtain ⟨-, -, -, hne⟩ := Predicate.evaluate_eq_mismatch h
  refine ⟨by rw [h]; rfl, ?_⟩
  rw [display_eq_iff]
  constructor
  · rintro (he | ⟨b, b', rfl, rfl, hlength, -, htake⟩)
    · exact absurd he hne
    · refine ⟨b, b', rfl, rfl, hlength, htake, fun hdrop ↦ hne ?_⟩
      rw [← List.take_append_drop 32 b, htake, hdrop, List.take_append_drop]
  · rintro ⟨b, b', rfl, rfl, hlength, htake, -⟩
    exact display_eq_iff.mp (display_binary_inj.mpr ⟨hlength, htake⟩)

/-- Text that looks like an escape is not shown as what the escape stands for. -/
example : (text "\\n").display = "\"\\\\n\"" ∧ (text "\n").display = "\"\\n\"" := by decide

end Payload

end Lockstep

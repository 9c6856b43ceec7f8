import Lockstep.Proofs.Session.Settled
import Lockstep.Proofs.Transform
import Mathlib.Data.List.Nodup

/-!
# Bursts

The texts of a burst begin with their numbers and a colon, and so differ, whatever letters and
digits they are filled up with. If the transform of the route carries them, each has an answer of
its own, and the answer to one is never taken for the answer to another.
-/

namespace Lockstep

namespace Scenario

variable {draw : Draw} {count size i j : Nat} {t : Transform}

/-! ## Texts -/

theorem toList_burstText (draw : Draw) (size i : Nat) :
    (burstText draw size i).toList = Nat.toDigits 10 i ++ ':' :: (filler draw size i).toList := by
  rw [burstText, String.toList_append, String.toList_append, Nat.toString_eq_ofList_toDigits,
    String.toList_ofList, List.append_assoc]
  rfl

/-- The number of a text is what stands before its first colon. Fillers, even of digits alone, come
behind it. -/
theorem takeWhile_burstText (draw : Draw) (size i : Nat) :
    (burstText draw size i).toList.takeWhile (· ≠ ':') = Nat.toDigits 10 i := by
  have hdigits : ∀ c ∈ Nat.toDigits 10 i, decide (c ≠ ':') = true := by
    intro c hc
    have hdigit := Nat.isDigit_of_mem_toDigits (by decide) (by decide) hc
    exact decide_eq_true fun he ↦ by rw [he] at hdigit; cases hdigit
  rw [toList_burstText, List.takeWhile_append_of_pos hdigits, List.takeWhile_cons_of_neg (by simp),
    List.append_nil]

/-- No two texts of a burst are the same. -/
theorem burstText_injective (draw : Draw) (size : Nat) :
    Function.Injective (burstText draw size) := by
  intro i j he
  have hdigits : Nat.toDigits 10 i = Nat.toDigits 10 j := by
    rw [← takeWhile_burstText draw size i, ← takeWhile_burstText draw size j, he]
  rw [← Nat.ofDigitChars_ten_toDigits (n := i), hdigits, Nat.ofDigitChars_ten_toDigits]

/-! ## Messages -/

theorem length_burst (draw : Draw) (count size : Nat) (t : Transform) :
    (burst draw count size t).length = count := by
  rw [length, burst, List.length_map, List.length_range]

/-- Message `i` of a burst. -/
def burstStep (draw : Draw) (size : Nat) (t : Transform) (i : Nat) : Step :=
  ⟨.text (burstText draw size i), .transformed t⟩

theorem getElem?_burst (h : i < count) :
    (burst draw count size t).steps[i]? = some (burstStep draw size t i) := by
  rw [burst, List.getElem?_map, List.getElem?_range h]
  rfl

theorem nodup_burst (draw : Draw) (count size : Nat) (t : Transform) :
    (burst draw count size t).payloads.Nodup := by
  rw [payloads, burst, List.map_map]
  refine List.nodup_range.map ?_
  exact fun i j he ↦ burstText_injective draw size (Payload.text.inj he)

/-- The answer to one message of a burst is not what is looked for after another. -/
theorem evaluate_burst (h : t.Carries) (hne : i ≠ j) :
    (burstStep draw size t j).predicate.evaluate (burstStep draw size t j).payload
        (t.apply (burstStep draw size t i).payload) =
      .mismatch (t.apply (burstStep draw size t j).payload)
        (t.apply (burstStep draw size t i).payload) := by
  have hanswer : t.apply (burstStep draw size t j).payload ≠
      t.apply (burstStep draw size t i).payload :=
    fun he ↦ hne (burstText_injective draw size (h.injective he)).symm
  have hkind : (t.apply (burstStep draw size t j).payload).kind =
      (t.apply (burstStep draw size t i).payload).kind := by
    rw [Transform.kind_apply, Transform.kind_apply]
    rfl
  rw [Predicate.evaluate]
  exact (if_neg (not_not_intro hkind)).trans (if_neg hanswer)

end Scenario

end Lockstep

import Lockstep.Transform

/-!
# Predicates and verdicts

What the response to a message must be, and what was found when it was compared with the response
that came.
-/

namespace Lockstep

inductive Verdict where
  | matched
  | mismatch (expected actual : Payload)
  | unexpectedKind (expected actual : FrameKind)
  /-- There was no response. -/
  | failed (reason : String)
deriving DecidableEq, Repr

namespace Verdict

def isMatch : Verdict → Bool
  | matched => true
  | _ => false

@[simp] theorem isMatch_matched : matched.isMatch = true := rfl
@[simp] theorem isMatch_mismatch (e a : Payload) : (mismatch e a).isMatch = false := rfl
@[simp] theorem isMatch_unexpectedKind (e a : FrameKind) :
    (unexpectedKind e a).isMatch = false := rfl
@[simp] theorem isMatch_failed (r : String) : (failed r).isMatch = false := rfl

def display : Verdict → String
  | matched => "matched"
  | mismatch e a => s!"expected {e.display}, got {a.display}"
  | unexpectedKind e a => s!"expected a {e.name} frame, got a {a.name} frame"
  | failed reason => s!"no response: {reason}"

end Verdict

/-- What a response must be: a fixed payload, or a transform of the message. -/
inductive Predicate where
  | exact (expected : Payload)
  | transformed (transform : Transform)
deriving DecidableEq, Repr

namespace Predicate

/-- The response to `sent` that is looked for. -/
def expected : Predicate → Payload → Payload
  | exact p, _ => p
  | transformed t, sent => t.apply sent

/-- Compares `received` with the response to `sent` that is looked for: first the kind of the
frame, then its content. -/
def evaluate (p : Predicate) (sent received : Payload) : Verdict :=
  let e := p.expected sent
  if e.kind ≠ received.kind then .unexpectedKind e.kind received.kind
  else if e = received then .matched
  else .mismatch e received

variable {p : Predicate} {sent received : Payload}

/-- The comparison of a response always comes to a verdict on it. -/
theorem evaluate_ne_failed (reason : String) : p.evaluate sent received ≠ .failed reason := by
  unfold evaluate
  dsimp only
  split
  · exact nofun
  · split <;> exact nofun

/-- A mismatch is between payloads of one kind. -/
theorem evaluate_eq_mismatch {e a : Payload} (h : p.evaluate sent received = .mismatch e a) :
    e = p.expected sent ∧ a = received ∧ e.kind = a.kind ∧ e ≠ a := by
  unfold evaluate at h
  dsimp only at h
  split at h
  · cases h
  · rename_i hk
    split at h
    · cases h
    · rename_i hne
      cases h
      exact ⟨rfl, rfl, Decidable.of_not_not hk, hne⟩

theorem evaluate_eq_unexpectedKind {e a : FrameKind}
    (h : p.evaluate sent received = .unexpectedKind e a) :
    e = (p.expected sent).kind ∧ a = received.kind ∧ e ≠ a := by
  unfold evaluate at h
  dsimp only at h
  split at h
  · rename_i hk
    cases h
    exact ⟨rfl, rfl, hk⟩
  · split at h <;> cases h

end Predicate

end Lockstep

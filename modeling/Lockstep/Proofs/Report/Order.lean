import Lockstep.Proofs.Report.Average
import Mathlib.Data.List.Nodup

/-!
# The order of the attempts in a report

A report keeps the attempts that it is made of, in the order of their ids. Its figures are sums over
them, and its average is settled by two sums, so the order in which the attempts are given makes no
difference to any figure, nor to whether there is a report. It can make a difference only to the
order of attempts with one id.
-/

namespace Lockstep.Report

variable {attempts other : List Attempt} {r r' : Report}

/-! ## Attempts in order -/

theorem inOrder_perm_inOrder (h : other.Perm attempts) :
    (inOrder other).Perm (inOrder attempts) :=
  (inOrder_perm other).trans (h.trans (inOrder_perm attempts).symm)

theorem id_le_trans (a b c : Attempt) (hab : decide (a.id ≤ b.id) = true)
    (hbc : decide (b.id ≤ c.id) = true) : decide (a.id ≤ c.id) = true :=
  decide_eq_true (Nat.le_trans (of_decide_eq_true hab) (of_decide_eq_true hbc))

theorem id_le_total (a b : Attempt) : (decide (a.id ≤ b.id) || decide (b.id ≤ a.id)) = true := by
  rw [Bool.or_eq_true, decide_eq_true_eq, decide_eq_true_eq]
  exact Nat.le_total ..

theorem inOrder_pairwise (attempts : List Attempt) :
    (inOrder attempts).Pairwise fun a b ↦ a.id ≤ b.id :=
  (List.pairwise_mergeSort id_le_trans id_le_total attempts).imp of_decide_eq_true

/-- Attempts with one id keep their order. -/
theorem filter_inOrder (attempts : List Attempt) (id : Nat) :
    (inOrder attempts).filter (·.id = id) = attempts.filter (·.id = id) := by
  -- Those with one id are in order already, so they are part of all in order, as they are.
  have hpairwise : (attempts.filter (·.id = id)).Pairwise
      fun a b ↦ decide (a.id ≤ b.id) = true := by
    refine List.pairwise_filter.mpr (List.pairwise_of_forall fun a b ha hb ↦ ?_)
    exact decide_eq_true (Nat.le_of_eq ((of_decide_eq_true ha).trans (of_decide_eq_true hb).symm))
  have hsublist : (attempts.filter (·.id = id)).Sublist (inOrder attempts) :=
    List.sublist_mergeSort id_le_trans id_le_total hpairwise List.filter_sublist
  have hfilter := hsublist.filter (·.id = id)
  simp only [List.filter_filter, Bool.and_self] at hfilter
  exact (hfilter.eq_of_length ((inOrder_perm attempts).filter _).length_eq.symm).symm

/-- Attempts with different ids have one order. -/
theorem inOrder_eq_of_perm (h : other.Perm attempts) (hids : (attempts.map Attempt.id).Nodup) :
    inOrder other = inOrder attempts := by
  refine (inOrder_perm_inOrder h).eq_of_pairwise ?_ (inOrder_pairwise other)
    (inOrder_pairwise attempts)
  intro a b ha hb hab hba
  exact List.inj_on_of_nodup_map hids (h.subset ((inOrder_perm other).subset ha))
    ((inOrder_perm attempts).subset hb) (Nat.le_antisymm hab hba)

/-! ## What the order leaves as it is -/

/-- A report on `attempts` keeps all of them, in the order of their ids and those with one id in
their own, and its figures are sums over them. -/
structure Keeps (attempts : List Attempt) (elapsed : Span) (r : Report) : Prop where
  perm : r.attempts.Perm attempts
  ordered : r.attempts.Pairwise fun a b ↦ a.id ≤ b.id
  stable : ∀ id, r.attempts.filter (·.id = id) = attempts.filter (·.id = id)
  elapsed : r.elapsed = elapsed
  parts : r.count .succeeded + r.count .failed + r.count .refused = r.totalConnections
  totalConnections : r.totalConnections = attempts.length
  count : ∀ status, r.count status = attempts.countP fun a ↦ a.status = status
  totalSent : r.totalSent = total (attempts.map Attempt.sentCount)
  totalMatched : r.totalMatched = total (attempts.map Attempt.matchedCount)
  totalReceived : r.totalReceived =
    total ((attempts.filter Attempt.succeeded).map Attempt.matchedCount)

theorem keeps_inOrder (attempts : List Attempt) (elapsed : Span) (average : Option Span) :
    Keeps attempts elapsed ⟨inOrder attempts, elapsed, average⟩ where
  perm := inOrder_perm attempts
  ordered := inOrder_pairwise attempts
  stable := filter_inOrder attempts
  elapsed := rfl
  parts := count_add_count_add_count _
  totalConnections := (inOrder_perm attempts).length_eq
  count _ := (inOrder_perm attempts).countP_eq _
  totalSent := total_perm ((inOrder_perm attempts).map _)
  totalMatched := total_perm ((inOrder_perm attempts).map _)
  totalReceived := total_perm (((inOrder_perm attempts).filter _).map _)

/-- The reports have the same figures. They show the same, but for the order of the failures. -/
structure SameFigures (r r' : Report) : Prop where
  totalConnections : r'.totalConnections = r.totalConnections
  count : ∀ status, r'.count status = r.count status
  totalSent : r'.totalSent = r.totalSent
  totalMatched : r'.totalMatched = r.totalMatched
  totalReceived : r'.totalReceived = r.totalReceived
  averageRoundTrip : r'.averageRoundTrip = r.averageRoundTrip
  throughput : r'.throughput = r.throughput
  allSucceeded : r'.allSucceeded = r.allSucceeded
  headerLines : r'.headerLines = r.headerLines
  lines : r'.lines.Perm r.lines

/-- The order of the attempts makes no difference to a figure. -/
theorem sameFigures_of_perm (h : r'.attempts.Perm r.attempts) (helapsed : r'.elapsed = r.elapsed)
    (haverage : r'.averageRoundTrip = r.averageRoundTrip) : SameFigures r r' := by
  have hconnections : r'.totalConnections = r.totalConnections := h.length_eq
  have hcount : ∀ status, r'.count status = r.count status := fun _ ↦ h.countP_eq _
  have hsent : r'.totalSent = r.totalSent := total_perm (h.map _)
  have hmatched : r'.totalMatched = r.totalMatched := total_perm (h.map _)
  have hreceived : r'.totalReceived = r.totalReceived := total_perm ((h.filter _).map _)
  have hthroughput : r'.throughput = r.throughput := by
    rw [throughput, throughput, helapsed, hreceived]
  have hheader : r'.headerLines = r.headerLines := by
    rw [headerLines, headerLines, hconnections, hcount, hcount, hcount, hsent, hmatched, hreceived,
      helapsed, hthroughput, haverage]
  refine ⟨hconnections, hcount, hsent, hmatched, hreceived, haverage, hthroughput, ?_, hheader, ?_⟩
  · rw [allSucceeded, allSucceeded, hconnections, hcount]
  · rw [lines, lines, hheader]
    exact ((h.filter _).flatMap_right _).append_left _

/-- A report keeps its attempts, in order, and adds up their figures. There is none if the round
trips are more than a span, or if the responses are a multiple of 2^32 other than none at all. Given
in any other order, the same attempts have a report with the same figures, or none for the same
reason; if their ids are all different, they have the same report, and it is shown in the same way.
-/
theorem ofAttempts_order (attempts : List Attempt) (elapsed : Span) :
    Follows attempts (Keeps attempts elapsed) (ofAttempts attempts elapsed) ∧
      ∀ other : List Attempt, other.Perm attempts →
        Halt.Alike SameFigures (fun _ ↦ False) (ofAttempts attempts elapsed)
          (ofAttempts other elapsed) ∧
        ((attempts.map Attempt.id).Nodup → ofAttempts other elapsed = ofAttempts attempts elapsed ∧
          text <$> ofAttempts other elapsed = text <$> ofAttempts attempts elapsed) := by
  refine ⟨ofAttempts_follows fun _ average ↦ keeps_inOrder attempts elapsed average, ?_⟩
  intro other h
  have hwaited := total_perm (h.map Attempt.waited)
  have hanswered := total_perm (h.map Attempt.answeredCount)
  rw [ofAttempts_eq, ofAttempts_eq, hwaited, hanswered]
  constructor
  · have hperm : (inOrder other).Perm (inOrder attempts) := inOrder_perm_inOrder h
    cases averageOf _ _ with
    | error halt => exact .error halt
    | ok average => exact .ok (sameFigures_of_perm hperm rfl rfl)
  · intro hids
    rw [inOrder_eq_of_perm h hids]
    exact ⟨rfl, rfl⟩

/-- No report keeps an attempt with 2^32 responses, although its round trips are a span. -/
theorem steady_not_kept :
    total ([Attempt.steady 0x100000000].map Attempt.waited) < 0x10000000000000000 * 1000000000 ∧
      ofAttempts [Attempt.steady 0x100000000] Span.zero = .error .zeroDivisor ∧
      ¬ ∃ r, ofAttempts [Attempt.steady 0x100000000] Span.zero = .ok r ∧
        Keeps [Attempt.steady 0x100000000] Span.zero r := by
  have hnone := ofAttempts_steady Span.zero
  refine ⟨?_, hnone, ?_⟩
  · rw [List.map_singleton, total_cons, total_nil, Attempt.waited_steady]
    decide
  · rintro ⟨r, hr, -⟩
    cases hnone.symm.trans hr

end Lockstep.Report

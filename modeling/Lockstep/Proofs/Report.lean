import Lockstep.Proofs.Session.Success
import Lockstep.Report

/-!
# What a report says

A report keeps its attempts and adds up their figures. Where the figures of each attempt are
coherent, so are the sums: what was received is a whole number of messages for each connection that
succeeded, no more of the responses that were looked for, these no more than was sent, and either
sum of responses is complete exactly if all connections succeeded.

There is a report on any attempts, with two exceptions: their round trips may add up to more than a
span can hold, and the mean of the round trips is taken with a divisor of 32 bits, which is zero for
some counts.
-/

namespace Lockstep

/-! ## Sums -/

section Sums

variable {α : Type} {f g : α → Nat} {l : List α} {k : Nat}

theorem total_map_le (h : ∀ a ∈ l, f a ≤ g a) : total (l.map f) ≤ total (l.map g) := by
  induction l with
  | nil => exact Nat.le_refl _
  | cons a rest ih =>
    obtain ⟨ha, hrest⟩ := List.forall_mem_cons.mp h
    exact Nat.add_le_add ha (ih hrest)

/-- Numbers that are all the same add up to a multiple. -/
theorem total_map_eq (h : ∀ a ∈ l, f a = k) : total (l.map f) = l.length * k := by
  induction l with
  | nil => rw [List.map_nil, total_nil, List.length_nil, Nat.zero_mul]
  | cons a rest ih =>
    obtain ⟨ha, hrest⟩ := List.forall_mem_cons.mp h
    rw [List.map_cons, total_cons, ha, ih hrest, List.length_cons, Nat.succ_mul, Nat.add_comm]

theorem total_map_le_mul (h : ∀ a ∈ l, f a ≤ k) : total (l.map f) ≤ l.length * k :=
  Nat.le_trans (total_map_le h) (Nat.le_of_eq (total_map_eq fun _ _ ↦ rfl))

/-- Numbers that are at most `k` add up to all they can exactly if each of them is `k`. -/
theorem total_map_eq_iff (h : ∀ a ∈ l, f a ≤ k) :
    total (l.map f) = l.length * k ↔ ∀ a ∈ l, f a = k := by
  refine ⟨fun hall ↦ ?_, total_map_eq⟩
  induction l with
  | nil => exact nofun
  | cons a rest ih =>
    obtain ⟨ha, hrest⟩ := List.forall_mem_cons.mp h
    have hle := total_map_le_mul hrest
    rw [List.map_cons, total_cons, List.length_cons, Nat.succ_mul] at hall
    exact List.forall_mem_cons.mpr ⟨by omega, ih hrest (by omega)⟩

theorem total_filter_le (q : α → Bool) : total ((l.filter q).map f) ≤ total (l.map f) := by
  induction l with
  | nil => exact Nat.le_refl _
  | cons a rest ih =>
    rw [List.filter_cons]
    split
    · exact Nat.add_le_add_left ih _
    · exact Nat.le_trans ih (Nat.le_add_left ..)

end Sums

/-! ## Figures -/

namespace Report

/-- A report on one attempt for each of the ids from 1 to `connections`, each at `messages`
messages, whose figures agree with each other. -/
structure Accounted (r : Report) (connections messages : Nat) : Prop where
  ids : r.attempts.map Attempt.id = List.range' 1 connections
  total : r.totalConnections = connections
  parts : r.count .succeeded + r.count .failed + r.count .refused = connections
  received : r.totalReceived = r.count .succeeded * messages
  received_le_matched : r.totalReceived ≤ r.totalMatched
  matched_le_sent : r.totalMatched ≤ r.totalSent
  sent_le : r.totalSent ≤ connections * messages
  allSucceeded_iff_matched : r.allSucceeded = true ↔ r.totalMatched = connections * messages
  allSucceeded_iff_received : r.allSucceeded = true ↔ r.totalReceived = connections * messages

variable {r : Report} {connections messages : Nat}

/-- Each attempt has one of three statuses. -/
theorem count_add_count_add_count (r : Report) :
    r.count .succeeded + r.count .failed + r.count .refused = r.totalConnections := by
  rw [totalConnections, count, count, count]
  induction r.attempts with
  | nil => rfl
  | cons a rest ih =>
    rw [List.countP_cons, List.countP_cons, List.countP_cons, List.length_cons]
    cases a.status <;> simp <;> omega

/-- All connections succeeded exactly if there is one and each of them did. -/
theorem allSucceeded_iff :
    r.allSucceeded = true ↔ 0 < r.totalConnections ∧ ∀ a ∈ r.attempts, a.succeeded = true := by
  rw [allSucceeded, Bool.and_eq_true, decide_eq_true_eq, decide_eq_true_eq]
  exact and_congr_right fun _ ↦ List.countP_eq_length

theorem totalReceived_eq (h : ∀ a ∈ r.attempts, a.Coherent messages) :
    r.totalReceived = r.count .succeeded * messages := by
  have hall : ∀ a ∈ r.attempts.filter Attempt.succeeded, a.matchedCount = messages := by
    intro a ha
    obtain ⟨ha, hs⟩ := List.mem_filter.mp ha
    exact (h a ha).succeeded_iff.mp hs
  have hcount : r.count .succeeded = (r.attempts.filter Attempt.succeeded).length :=
    List.countP_eq_length_filter
  rw [totalReceived, total_map_eq hall, hcount]

/-- The sums over coherent attempts agree with each other. -/
theorem accounted_of_coherent (hn : 0 < connections) (hk : 0 < messages)
    (hids : r.attempts.map Attempt.id = List.range' 1 connections)
    (h : ∀ a ∈ r.attempts, a.Coherent messages) : r.Accounted connections messages := by
  have hlength : r.attempts.length = connections := by
    rw [← List.length_map (f := Attempt.id), hids, List.length_range']
  have hmatched : ∀ a ∈ r.attempts, a.matchedCount ≤ messages := fun a ha ↦
    Nat.le_trans (h a ha).matched_le_sent (h a ha).sent_le
  have hall : r.allSucceeded = true ↔ ∀ a ∈ r.attempts, a.matchedCount = messages := by
    rw [allSucceeded_iff, totalConnections, hlength]
    refine (and_iff_right hn).trans (forall₂_congr fun a ha ↦ (h a ha).succeeded_iff)
  have hreceived := totalReceived_eq h
  refine ⟨hids, hlength, ?_, hreceived, total_filter_le _, ?_, ?_, ?_, ?_⟩
  · rw [count_add_count_add_count]
    exact hlength
  · exact total_map_le fun a ha ↦ (h a ha).matched_le_sent
  · rw [← hlength]
    exact total_map_le_mul fun a ha ↦ (h a ha).sent_le
  · rw [hall, ← hlength]
    exact (total_map_eq_iff hmatched).symm
  · rw [hreceived, Nat.mul_left_inj (Nat.ne_of_gt hk), ← hlength, allSucceeded_iff,
      totalConnections, hlength]
    refine (and_iff_right hn).trans ?_
    rw [← hlength]
    exact List.countP_eq_length.symm

end Report

/-! ## When there is a report -/

/-- All spans one after the other are a span, or more than one can be. -/
theorem Span.sum_cases (ds : List Span) :
    (∃ d, sum ds = .ok d ∧ d.nanoseconds = total (ds.map nanoseconds)) ∨
      sum ds = .error .spanOverflow ∧
        0x10000000000000000 * 1000000000 ≤ total (ds.map nanoseconds) := by
  unfold sum ofNanoseconds?
  split
  · rename_i d hd
    split at hd
    · cases hd
      exact .inl ⟨_, rfl, rfl⟩
    · cases hd
  · rename_i hd
    split at hd
    · cases hd
    · exact .inr ⟨rfl, Nat.le_of_not_lt ‹_›⟩

/-- The nanoseconds of all round trips of an attempt. -/
def Attempt.waited (a : Attempt) : Nat := total (a.roundTrips.map Span.nanoseconds)

theorem Attempt.length_roundTrips (a : Attempt) : a.roundTrips.length = a.answeredCount :=
  List.length_filterMap_eq_countP

theorem Attempt.waited_of_answeredCount_eq_zero {a : Attempt} (h : a.answeredCount = 0) :
    a.waited = 0 := by
  rw [← length_roundTrips, List.length_eq_zero_iff] at h
  rw [waited, h]
  rfl

theorem toUInt32_eq_zero {n : Nat} : n.toUInt32 = 0 ↔ 0x100000000 ∣ n := by
  rw [← UInt32.toNat_inj, Nat.dvd_iff_mod_eq_zero]
  rfl

namespace Report

/-- The times that attempts waited, one after the other, or one of them is more than a span. -/
theorem mapM_totalRoundTrip_cases (as : List Attempt) :
    (∃ ds, as.mapM Attempt.totalRoundTrip = .ok ds ∧
        ds.map Span.nanoseconds = as.map Attempt.waited) ∨
      as.mapM Attempt.totalRoundTrip = .error .spanOverflow ∧
        0x10000000000000000 * 1000000000 ≤ total (as.map Attempt.waited) := by
  induction as with
  | nil => exact .inl ⟨[], rfl, rfl⟩
  | cons a rest ih =>
    rw [List.mapM_cons, List.map_cons, total_cons]
    rcases Span.sum_cases a.roundTrips with ⟨d, hd, hw⟩ | ⟨hd, hw⟩
    · rw [Attempt.totalRoundTrip, hd]
      rcases ih with ⟨ds, hds, hws⟩ | ⟨hds, hws⟩
      · rw [hds]
        exact .inl ⟨d :: ds, rfl, by rw [List.map_cons, hws, hw]; rfl⟩
      · rw [hds]
        exact .inr ⟨rfl, Nat.le_trans hws (Nat.le_add_left ..)⟩
    · rw [Attempt.totalRoundTrip, hd]
      exact .inr ⟨rfl, Nat.le_add_right_of_le hw⟩

/-- The attempts in the order of their ids. Those with one id keep their order. -/
def inOrder (attempts : List Attempt) : List Attempt := attempts.mergeSort fun a b ↦ a.id ≤ b.id

theorem inOrder_perm (attempts : List Attempt) : (inOrder attempts).Perm attempts :=
  List.mergeSort_perm ..

/-- The average of round trips of `waited` nanoseconds in all, with this number of responses. -/
def averageOf (waited answered : Nat) : Except Halt (Option Span) :=
  match Span.ofNanoseconds? waited with
  | none => .error .spanOverflow
  | some trips => if answered = 0 then .ok none else some <$> trips.divide answered.toUInt32

/-- The round trips of all attempts, one after the other. -/
theorem sum_totalRoundTrips (attempts : List Attempt) :
    attempts.mapM Attempt.totalRoundTrip >>= Span.sum =
      match Span.ofNanoseconds? (total (attempts.map Attempt.waited)) with
      | none => .error .spanOverflow
      | some trips => .ok trips := by
  rcases mapM_totalRoundTrip_cases attempts with ⟨ds, hds, hwaited⟩ | ⟨hds, hwaited⟩
  · rw [hds, Halt.ok_bind, Span.sum, hwaited]
    cases Span.ofNanoseconds? (total (attempts.map Attempt.waited)) <;> rfl
  · rw [hds, Span.ofNanoseconds?, dif_neg (Nat.not_lt_of_le hwaited)]
    rfl

/-- A report has its attempts in order, and the average that two sums over them settle. -/
theorem ofAttempts_eq (attempts : List Attempt) (elapsed : Span) :
    ofAttempts attempts elapsed = (fun average ↦ ⟨inOrder attempts, elapsed, average⟩) <$>
      averageOf (total (attempts.map Attempt.waited))
        (total (attempts.map Attempt.answeredCount)) := by
  have hwaited := total_perm ((inOrder_perm attempts).map Attempt.waited)
  have hanswered := total_perm ((inOrder_perm attempts).map Attempt.answeredCount)
  rw [averageOf, ← hwaited, ← hanswered, ofAttempts]
  change (inOrder attempts).mapM Attempt.totalRoundTrip >>= (fun ds ↦ Span.sum ds >>= _) = _
  rw [← bind_assoc, sum_totalRoundTrips]
  cases Span.ofNanoseconds? (total ((inOrder attempts).map Attempt.waited)) with
  | none => rfl
  | some trips =>
    change (if total ((inOrder attempts).map Attempt.answeredCount) = 0 then _ else _) = _
    dsimp only
    split
    · rfl
    · exact bind_pure_comp ..

/-- There is a report on the attempts: all their round trips are a span, one after the other, and
their responses are no multiple of 2^32, or none at all. -/
structure Reportable (attempts : List Attempt) : Prop where
  waited : total (attempts.map Attempt.waited) < 0x10000000000000000 * 1000000000
  divisor : 0x100000000 ∣ total (attempts.map Attempt.answeredCount) →
    total (attempts.map Attempt.answeredCount) = 0

/-- There is a report on `attempts` and `p` holds of it, unless their round trips add up to more
than a span can hold, or their responses are a multiple of 2^32 other than none at all. Then there
is none. -/
structure Follows (attempts : List Attempt) (p : Report → Prop) (x : Except Halt Report) :
    Prop where
  exists_ok : Reportable attempts → ∃ r, x = .ok r ∧ p r
  spanOverflow : 0x10000000000000000 * 1000000000 ≤ total (attempts.map Attempt.waited) →
    x = .error .spanOverflow
  zeroDivisor : total (attempts.map Attempt.waited) < 0x10000000000000000 * 1000000000 →
    0 < total (attempts.map Attempt.answeredCount) →
    0x100000000 ∣ total (attempts.map Attempt.answeredCount) → x = .error .zeroDivisor

section

variable {as : List Attempt} {p : Report → Prop} {x : Except Halt Report}

/-- If there is no report on attempts, that has one of two reasons. -/
theorem reportable_cases (as : List Attempt) : Reportable as ∨
    0x10000000000000000 * 1000000000 ≤ total (as.map Attempt.waited) ∨
    total (as.map Attempt.waited) < 0x10000000000000000 * 1000000000 ∧
      0 < total (as.map Attempt.answeredCount) ∧
      0x100000000 ∣ total (as.map Attempt.answeredCount) := by
  by_cases hwaited : total (as.map Attempt.waited) < 0x10000000000000000 * 1000000000
  · by_cases hdivisor : 0x100000000 ∣ total (as.map Attempt.answeredCount) →
        total (as.map Attempt.answeredCount) = 0
    · exact .inl ⟨hwaited, hdivisor⟩
    · obtain ⟨hdvd, hne⟩ := Classical.not_imp.mp hdivisor
      exact .inr (.inr ⟨hwaited, Nat.pos_of_ne_zero hne, hdvd⟩)
  · exact .inr (.inl (Nat.le_of_not_lt hwaited))

/-- Where there is a report, none of the exceptions was met. -/
theorem Follows.of_ok {r : Report} (h : Follows as p (.ok r)) : Reportable as ∧ p r := by
  obtain hreport | hwaited | ⟨hwaited, hpos, hdvd⟩ := reportable_cases as
  · obtain ⟨_, hr, hp⟩ := h.exists_ok hreport
    cases hr
    exact ⟨hreport, hp⟩
  · cases h.spanOverflow hwaited
  · cases h.zeroDivisor hwaited hpos hdvd

theorem averageOf_of_overflow {waited : Nat} (answered : Nat)
    (h : 0x10000000000000000 * 1000000000 ≤ waited) :
    averageOf waited answered = .error .spanOverflow := by
  rw [averageOf, Span.ofNanoseconds?, dif_neg (Nat.not_lt_of_le h)]

theorem averageOf_of_dvd {waited answered : Nat}
    (hwaited : waited < 0x10000000000000000 * 1000000000) (hpos : 0 < answered)
    (hdvd : 0x100000000 ∣ answered) : averageOf waited answered = .error .zeroDivisor := by
  rw [averageOf, Span.ofNanoseconds?, dif_pos hwaited]
  dsimp only
  rw [if_neg (Nat.ne_of_gt hpos), Span.divide, if_pos (toUInt32_eq_zero.mpr hdvd)]
  rfl

theorem Reportable.averageOf_eq_ok (h : Reportable as) :
    ∃ average, averageOf (total (as.map Attempt.waited)) (total (as.map Attempt.answeredCount)) =
      .ok average := by
  rw [averageOf, Span.ofNanoseconds?, dif_pos h.waited]
  dsimp only
  split
  · exact ⟨none, rfl⟩
  · rename_i hne
    rw [Span.divide, if_neg fun hzero ↦ hne (h.divisor (toUInt32_eq_zero.mp hzero))]
    exact ⟨some _, rfl⟩

/-- The attempts of a report are those it was made of, in the order of their ids. -/
theorem ofAttempts_follows {elapsed : Span}
    (h : Reportable as → ∀ average, p ⟨inOrder as, elapsed, average⟩) :
    Follows as p (ofAttempts as elapsed) := by
  rw [ofAttempts_eq]
  constructor
  · intro hreport
    obtain ⟨average, haverage⟩ := hreport.averageOf_eq_ok
    rw [haverage]
    exact ⟨_, rfl, h hreport average⟩
  · intro hwaited
    rw [averageOf_of_overflow _ hwaited]
    rfl
  · intro hwaited hpos hdvd
    rw [averageOf_of_dvd hwaited hpos hdvd]
    rfl

end

end Report

end Lockstep

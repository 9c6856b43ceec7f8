import Lockstep.Proofs.Report
import Mathlib.Order.Lattice.Nat

/-!
# Means of round trips

The mean of an attempt and the mean of a report are made in one way from two sums: the time of all
round trips, and the number of responses, of which only the last 32 bits divide. So a mean is what
it should be as long as there are fewer than 2^32 responses.

A mean of all round trips lies between the means of the attempts, although each of these is cut to
whole nanoseconds: if it were less than each of them, so would be the sum of what they were made of.
-/

namespace Lockstep

/-! ## Quotients of sums -/

section Quotients

variable {α : Type} {f g : α → Nat} {l : List α}

theorem total_map_lt (hne : l ≠ []) (h : ∀ a ∈ l, f a < g a) :
    total (l.map f) < total (l.map g) := by
  cases l with
  | nil => exact absurd rfl hne
  | cons a rest =>
    obtain ⟨ha, hrest⟩ := List.forall_mem_cons.mp h
    exact Nat.add_lt_add_of_lt_of_le ha (total_map_le fun b hb ↦ Nat.le_of_lt (hrest b hb))

theorem total_map_mul (k : Nat) : total (l.map fun a ↦ k * f a) = k * total (l.map f) := by
  induction l with
  | nil => rfl
  | cons a rest ih => rw [List.map_cons, List.map_cons, total_cons, total_cons, ih, Nat.mul_add]

theorem total_map_pos (hne : l ≠ []) (hpos : ∀ a ∈ l, 0 < g a) : 0 < total (l.map g) := by
  cases l with
  | nil => exact absurd rfl hne
  | cons a rest => exact Nat.add_pos_left (hpos a List.mem_cons_self) _

theorem le_total_map {a : α} (ha : a ∈ l) : f a ≤ total (l.map f) := by
  induction l with
  | nil => cases ha
  | cons b rest ih =>
    rw [List.map_cons, total_cons]
    rcases List.mem_cons.mp ha with rfl | ha
    · exact Nat.le_add_right ..
    · exact Nat.le_trans (ih ha) (Nat.le_add_left ..)

/-- The quotient of two sums is at least one of the quotients of what was added. -/
theorem exists_div_le_total_div (hne : l ≠ []) (hpos : ∀ a ∈ l, 0 < g a) :
    ∃ a ∈ l, f a / g a ≤ total (l.map f) / total (l.map g) := by
  by_contra hall
  push Not at hall
  refine Nat.lt_irrefl (total (l.map f) / total (l.map g)) ?_
  rw [← Nat.succ_le_iff, Nat.le_div_iff_mul_le (total_map_pos hne hpos), ← total_map_mul]
  exact total_map_le fun a ha ↦ (Nat.le_div_iff_mul_le (hpos a ha)).mp (hall a ha)

/-- The quotient of two sums is at most one of the quotients of what was added. -/
theorem exists_total_div_le_div (hne : l ≠ []) (hpos : ∀ a ∈ l, 0 < g a) :
    ∃ a ∈ l, total (l.map f) / total (l.map g) ≤ f a / g a := by
  by_contra hall
  push Not at hall
  refine Nat.lt_irrefl (total (l.map f) / total (l.map g)) ?_
  rw [Nat.div_lt_iff_lt_mul (total_map_pos hne hpos), ← total_map_mul]
  exact total_map_lt hne fun a ha ↦ (Nat.div_lt_iff_lt_mul (hpos a ha)).mp (hall a ha)

/-- Where nothing is added, leaving it out makes no difference. -/
theorem total_map_filter (q : α → Bool) (h : ∀ a ∈ l, q a = false → f a = 0) :
    total ((l.filter q).map f) = total (l.map f) := by
  induction l with
  | nil => rfl
  | cons a rest ih =>
    obtain ⟨ha, hrest⟩ := List.forall_mem_cons.mp h
    rw [List.map_cons, total_cons]
    cases hq : q a with
    | true => rw [List.filter_cons_of_pos hq, List.map_cons, total_cons, ih hrest]
    | false => rw [List.filter_cons_of_neg (Bool.not_eq_true _ ▸ hq), ih hrest, ha hq, Nat.zero_add]

end Quotients

/-! ## The mean of two sums -/

/-- `x` is the mean of `waited` nanoseconds over `answered` responses, in whole nanoseconds. Over no
response there is none. -/
def IsMean (waited answered : Nat) (x : Except Halt (Option Span)) : Prop :=
  (answered = 0 → x = .ok none) ∧
    (0 < answered → ∃ d, x = .ok (some d) ∧ d.nanoseconds = waited / answered)

/-- The last 32 bits of `answered` divide `waited` as `answered` itself does. -/
def DividesWell (waited answered : Nat) : Prop :=
  answered < 0x100000000 ∨
    ¬ 0x100000000 ∣ answered ∧ waited / (answered % 0x100000000) = waited / answered

namespace Report

variable {waited answered : Nat}

theorem averageOf_of_zero (hwaited : waited < 0x10000000000000000 * 1000000000) :
    averageOf waited 0 = .ok none := by
  rw [averageOf, Span.ofNanoseconds?, dif_pos hwaited]
  rfl

theorem exists_averageOf (hwaited : waited < 0x10000000000000000 * 1000000000)
    (hpos : 0 < answered) (hdvd : ¬ 0x100000000 ∣ answered) :
    ∃ d, averageOf waited answered = .ok (some d) ∧
      d.nanoseconds = waited / (answered % 0x100000000) := by
  rw [averageOf, Span.ofNanoseconds?, dif_pos hwaited]
  dsimp only
  rw [if_neg (Nat.ne_of_gt hpos), Span.divide, if_neg (mt toUInt32_eq_zero.mp hdvd)]
  exact ⟨_, rfl, rfl⟩

/-- There is no mean exactly if the last 32 bits of the number of responses are zero, but not the
number. -/
theorem averageOf_eq_error_iff (hwaited : waited < 0x10000000000000000 * 1000000000) :
    averageOf waited answered = .error .zeroDivisor ↔ 0 < answered ∧ 0x100000000 ∣ answered := by
  refine ⟨fun h ↦ ?_, fun h ↦ averageOf_of_dvd hwaited h.1 h.2⟩
  rcases Nat.eq_zero_or_pos answered with rfl | hpos
  · rw [averageOf_of_zero hwaited] at h
    cases h
  · refine ⟨hpos, by_contra fun hdvd ↦ ?_⟩
    obtain ⟨d, hd, -⟩ := exists_averageOf hwaited hpos hdvd
    rw [hd] at h
    cases h

theorem isMean_averageOf_iff (hwaited : waited < 0x10000000000000000 * 1000000000) :
    IsMean waited answered (averageOf waited answered) ↔ DividesWell waited answered := by
  rcases Nat.eq_zero_or_pos answered with rfl | hpos
  · exact iff_of_true ⟨fun _ ↦ averageOf_of_zero hwaited, fun h ↦ absurd h (Nat.lt_irrefl 0)⟩
      (.inl (by decide))
  by_cases hdvd : 0x100000000 ∣ answered
  · refine iff_of_false (fun h ↦ ?_) ?_
    · obtain ⟨d, hd, -⟩ := h.2 hpos
      rw [averageOf_of_dvd hwaited hpos hdvd] at hd
      cases hd
    · rintro (hlt | ⟨h, -⟩)
      · exact Nat.not_lt_of_le (Nat.le_of_dvd hpos hdvd) hlt
      · exact h hdvd
  · obtain ⟨d, hd, hdivided⟩ := exists_averageOf hwaited hpos hdvd
    constructor
    · intro h
      obtain ⟨d', hd', hexact⟩ := h.2 hpos
      cases hd.symm.trans hd'
      exact .inr ⟨hdvd, hdivided.symm.trans hexact⟩
    · intro h
      refine ⟨fun hzero ↦ absurd hzero (Nat.ne_of_gt hpos), fun _ ↦ ⟨d, hd, ?_⟩⟩
      rcases h with hlt | ⟨-, hsame⟩
      · rw [hdivided, Nat.mod_eq_of_lt hlt]
      · exact hdivided.trans hsame

theorem averageRoundTrip_ofAttempts (attempts : List Attempt) (elapsed : Span) :
    averageRoundTrip <$> ofAttempts attempts elapsed =
      averageOf (total (attempts.map Attempt.waited))
        (total (attempts.map Attempt.answeredCount)) := by
  rw [ofAttempts_eq, ← comp_map]
  exact id_map _

end Report

namespace Attempt

/-- The mean of an attempt is made from its sums as that of a report from all sums. -/
theorem averageRoundTrip_eq (a : Attempt) :
    a.averageRoundTrip = Report.averageOf a.waited a.answeredCount := by
  rw [averageRoundTrip]
  split
  · rename_i hzero
    rw [waited_of_answeredCount_eq_zero hzero, hzero]
    rfl
  · rename_i hne
    rw [totalRoundTrip, Span.sum, Report.averageOf, waited]
    cases Span.ofNanoseconds? (total (a.roundTrips.map Span.nanoseconds)) with
    | none => rfl
    | some trips =>
      dsimp only
      rw [if_neg hne]
      change (trips.divide a.answeredCount.toUInt32 >>= fun d ↦ pure (some d)) = _
      exact bind_pure_comp ..

end Attempt

/-! ## When the means are what they should be -/

/-- The mean of an attempt, and that of a report, is the time of all round trips divided by the
number of responses, in whole nanoseconds, exactly if the last 32 bits of that number divide as the
number does; so always with fewer than 2^32 responses. If these bits are all zero there is none. -/
theorem means_exact_iff (attempts : List Attempt) (elapsed : Span) :
    (∀ a ∈ attempts, a.waited < 0x10000000000000000 * 1000000000 →
      (IsMean a.waited a.answeredCount a.averageRoundTrip ↔
        DividesWell a.waited a.answeredCount) ∧
      (a.averageRoundTrip = .error .zeroDivisor ↔
        0 < a.answeredCount ∧ 0x100000000 ∣ a.answeredCount)) ∧
    (total (attempts.map Attempt.waited) < 0x10000000000000000 * 1000000000 →
      (IsMean (total (attempts.map Attempt.waited)) (total (attempts.map Attempt.answeredCount))
          (Report.averageRoundTrip <$> Report.ofAttempts attempts elapsed) ↔
        DividesWell (total (attempts.map Attempt.waited))
          (total (attempts.map Attempt.answeredCount))) ∧
      (Report.ofAttempts attempts elapsed = .error .zeroDivisor ↔
        0 < total (attempts.map Attempt.answeredCount) ∧
          0x100000000 ∣ total (attempts.map Attempt.answeredCount))) := by
  constructor
  · intro a _ hwaited
    rw [a.averageRoundTrip_eq]
    exact ⟨Report.isMean_averageOf_iff hwaited, Report.averageOf_eq_error_iff hwaited⟩
  · intro hwaited
    rw [Report.averageRoundTrip_ofAttempts, Report.ofAttempts_eq, Halt.map_eq_error]
    exact ⟨Report.isMean_averageOf_iff hwaited, Report.averageOf_eq_error_iff hwaited⟩

/-! ## An attempt without a mean -/

namespace Attempt

/-- An attempt with `count` responses, each of them after a nanosecond. -/
def steady (count : Nat) : Attempt :=
  { new 1 "ws://localhost:80/" "steady" with
    outcomes := (List.range count).map fun i ↦ .answered i .matched ⟨1, by decide⟩ }

theorem answeredCount_steady (count : Nat) : (steady count).answeredCount = count := by
  rw [answeredCount, steady, List.countP_map]
  exact (List.countP_eq_length.mpr fun _ _ ↦ rfl).trans List.length_range

theorem waited_steady (count : Nat) : (steady count).waited = count := by
  have htrips : (steady count).roundTrips = (List.range count).map fun _ ↦ ⟨1, by decide⟩ := by
    rw [roundTrips, steady, List.filterMap_map]
    exact congrFun List.filterMap_eq_map' _
  have hsum : total ((List.range count).map fun _ ↦ 1) = (List.range count).length * 1 :=
    total_map_eq fun _ _ ↦ rfl
  rw [waited, htrips, List.map_map]
  exact hsum.trans (by rw [List.length_range, Nat.mul_one])

end Attempt

/-- There is no report on 2^32 responses after a nanosecond each. -/
theorem Report.ofAttempts_steady (elapsed : Span) :
    ofAttempts [Attempt.steady 0x100000000] elapsed = .error .zeroDivisor := by
  rw [ofAttempts_eq, Halt.map_eq_error, List.map_singleton, List.map_singleton, total_cons,
    total_cons, total_nil, Attempt.waited_steady, Attempt.answeredCount_steady]
  exact averageOf_of_dvd (by decide) (by decide) (by decide)

/-- No mean is made of 2^32 responses after a nanosecond each, neither for the attempt nor for a
report on it. With one response more, the mean is said to be more than four seconds. -/
theorem steady_means_inexact :
    (Attempt.steady 0x100000000).waited < 0x10000000000000000 * 1000000000 ∧
      (Attempt.steady 0x100000000).answeredCount = 0x100000000 ∧
      (Attempt.steady 0x100000000).averageRoundTrip = .error .zeroDivisor ∧
      Report.ofAttempts [Attempt.steady 0x100000000] Span.zero = .error .zeroDivisor ∧
      ∃ d, (Attempt.steady 0x100000001).averageRoundTrip = .ok (some d) ∧
        d.nanoseconds = 0x100000001 := by
  refine ⟨?_, Attempt.answeredCount_steady _, ?_, Report.ofAttempts_steady _, ?_⟩
  · rw [Attempt.waited_steady]
    decide
  · rw [Attempt.averageRoundTrip_eq, Attempt.waited_steady, Attempt.answeredCount_steady]
    exact Report.averageOf_of_dvd (by decide) (by decide) (by decide)
  · rw [Attempt.averageRoundTrip_eq, Attempt.waited_steady, Attempt.answeredCount_steady]
    exact Report.exists_averageOf (by decide) (by decide) (by decide)

/-! ## Where the mean of a report lies -/

/-- The number is at least the least of the values and at most the greatest. -/
def Between (values : Set Nat) (n : Nat) : Prop :=
  ∃ low high, IsLeast values low ∧ IsGreatest values high ∧ low ≤ n ∧ n ≤ high

theorem between_of_exists {values : Set Nat} {n : Nat} (hbound : BddAbove values)
    (hlow : ∃ m ∈ values, m ≤ n) (hhigh : ∃ m ∈ values, n ≤ m) : Between values n := by
  obtain ⟨low, hlow, hle⟩ := hlow
  obtain ⟨high, hhigh, hge⟩ := hhigh
  exact ⟨sInf values, sSup values, ⟨Nat.sInf_mem ⟨low, hlow⟩, fun m hm ↦ Nat.sInf_le hm⟩,
    ⟨Nat.sSup_mem ⟨low, hlow⟩ hbound, fun m hm ↦ le_csSup hbound hm⟩,
    Nat.le_trans (Nat.sInf_le hlow) hle, Nat.le_trans hge (le_csSup hbound hhigh)⟩

namespace Attempt

/-- Some message of the attempt has a response. -/
def hasResponse (a : Attempt) : Bool := 0 < a.answeredCount

/-- The means of the attempts that have one. -/
def means (attempts : List Attempt) : Set Nat :=
  {n | ∃ a ∈ attempts, ∃ d, a.averageRoundTrip = .ok (some d) ∧ d.nanoseconds = n}

/-- The round trips of all attempts. -/
def trips (attempts : List Attempt) : Set Nat :=
  {n | ∃ a ∈ attempts, ∃ d ∈ a.roundTrips, d.nanoseconds = n}

variable {attempts : List Attempt} {a : Attempt}

theorem bddAbove_means (attempts : List Attempt) : BddAbove (means attempts) := by
  refine ⟨0x10000000000000000 * 1000000000, ?_⟩
  rintro _ ⟨a, -, d, -, rfl⟩
  exact Nat.le_of_lt d.representable

theorem bddAbove_trips (attempts : List Attempt) : BddAbove (trips attempts) := by
  refine ⟨0x10000000000000000 * 1000000000, ?_⟩
  rintro _ ⟨a, -, d, -, rfl⟩
  exact Nat.le_of_lt d.representable

theorem answeredCount_of_hasResponse_eq_false (h : a.hasResponse = false) : a.answeredCount = 0 :=
  Nat.eq_zero_of_not_pos (of_decide_eq_false h)

theorem total_waited_filter (attempts : List Attempt) :
    total ((attempts.filter hasResponse).map waited) = total (attempts.map waited) :=
  total_map_filter _ fun _ _ h ↦
    waited_of_answeredCount_eq_zero (answeredCount_of_hasResponse_eq_false h)

theorem total_answeredCount_filter (attempts : List Attempt) :
    total ((attempts.filter hasResponse).map answeredCount) =
      total (attempts.map answeredCount) :=
  total_map_filter _ fun _ _ h ↦ answeredCount_of_hasResponse_eq_false h

/-- The mean of an attempt with a response is at least one of its round trips, and at most one. -/
theorem exists_trips_around (h : a.hasResponse = true) :
    (∃ d ∈ a.roundTrips, d.nanoseconds ≤ a.waited / a.answeredCount) ∧
      ∃ d ∈ a.roundTrips, a.waited / a.answeredCount ≤ d.nanoseconds := by
  have hne : a.roundTrips ≠ [] :=
    List.ne_nil_of_length_pos (a.length_roundTrips ▸ of_decide_eq_true h)
  have hcount : total (a.roundTrips.map fun _ ↦ 1) = a.answeredCount := by
    rw [total_map_eq fun _ _ ↦ rfl, Nat.mul_one, length_roundTrips]
  have hlow := exists_div_le_total_div (f := Span.nanoseconds) hne fun _ _ ↦ Nat.one_pos
  have hhigh := exists_total_div_le_div (f := Span.nanoseconds) hne fun _ _ ↦ Nat.one_pos
  simp only [Nat.div_one, hcount] at hlow hhigh
  exact ⟨hlow, hhigh⟩

/-- Each attempt has the mean it should have if there are fewer than 2^32 responses in all, and all
round trips are a span. -/
theorem isMean_of_mem (hcount : total (attempts.map answeredCount) < 0x100000000)
    (hwaited : total (attempts.map waited) < 0x10000000000000000 * 1000000000)
    (ha : a ∈ attempts) : IsMean a.waited a.answeredCount a.averageRoundTrip := by
  rw [a.averageRoundTrip_eq, Report.isMean_averageOf_iff
    (Nat.lt_of_le_of_lt (le_total_map ha) hwaited)]
  exact .inl (Nat.lt_of_le_of_lt (le_total_map ha) hcount)

/-- The quotient of all that was waited and all responses lies between the means of the attempts,
and between their round trips. -/
theorem between_quotient (hpos : 0 < total (attempts.map answeredCount))
    (hmean : ∀ a ∈ attempts, IsMean a.waited a.answeredCount a.averageRoundTrip) :
    Between (means attempts)
        (total (attempts.map waited) / total (attempts.map answeredCount)) ∧
      Between (trips attempts)
        (total (attempts.map waited) / total (attempts.map answeredCount)) := by
  have hne : attempts.filter hasResponse ≠ [] := by
    intro hnil
    rw [← total_answeredCount_filter, hnil] at hpos
    exact Nat.lt_irrefl 0 hpos
  have hresponse : ∀ a ∈ attempts.filter hasResponse, 0 < a.answeredCount := fun a ha ↦
    of_decide_eq_true (List.mem_filter.mp ha).2
  obtain ⟨low, hlow, hle⟩ := exists_div_le_total_div (f := waited) hne hresponse
  obtain ⟨high, hhigh, hge⟩ := exists_total_div_le_div (f := waited) hne hresponse
  rw [total_waited_filter, total_answeredCount_filter] at hle hge
  obtain ⟨hlowMem, hlowResponse⟩ := List.mem_filter.mp hlow
  obtain ⟨hhighMem, hhighResponse⟩ := List.mem_filter.mp hhigh
  constructor
  · obtain ⟨d, hd, hdMean⟩ := (hmean low hlowMem).2 (hresponse low hlow)
    obtain ⟨e, he, heMean⟩ := (hmean high hhighMem).2 (hresponse high hhigh)
    exact between_of_exists (bddAbove_means attempts)
      ⟨_, ⟨low, hlowMem, d, hd, rfl⟩, hdMean ▸ hle⟩ ⟨_, ⟨high, hhighMem, e, he, rfl⟩, heMean ▸ hge⟩
  · obtain ⟨d, hd, hdTrip⟩ := (exists_trips_around hlowResponse).1
    obtain ⟨e, he, heTrip⟩ := (exists_trips_around hhighResponse).2
    exact between_of_exists (bddAbove_trips attempts)
      ⟨_, ⟨low, hlowMem, d, hd, rfl⟩, Nat.le_trans hdTrip hle⟩
      ⟨_, ⟨high, hhighMem, e, he, rfl⟩, Nat.le_trans hge heTrip⟩

end Attempt

/-- With at least one response and fewer than 2^32 of them, and round trips that are a span all
together, a report has a mean. It is at least the least and at most the greatest of the means of the
attempts, and so it is with their single round trips. Attempts without a response, and the order of
the others, make no difference to it. -/
theorem mean_between (attempts : List Attempt) (elapsed : Span)
    (hpos : 0 < total (attempts.map Attempt.answeredCount))
    (hcount : total (attempts.map Attempt.answeredCount) < 0x100000000)
    (hwaited : total (attempts.map Attempt.waited) < 0x10000000000000000 * 1000000000) :
    ∃ r d, Report.ofAttempts attempts elapsed = .ok r ∧ r.averageRoundTrip = some d ∧
      (∀ a ∈ attempts, IsMean a.waited a.answeredCount a.averageRoundTrip) ∧
      Between (Attempt.means attempts) d.nanoseconds ∧
      Between (Attempt.trips attempts) d.nanoseconds ∧
      ∀ (other : List Attempt) (elapsed' : Span),
        (other.filter Attempt.hasResponse).Perm (attempts.filter Attempt.hasResponse) →
        Report.averageRoundTrip <$> Report.ofAttempts other elapsed' = .ok (some d) := by
  have haverage : IsMean (total (attempts.map Attempt.waited))
      (total (attempts.map Attempt.answeredCount))
      (Report.averageOf (total (attempts.map Attempt.waited))
        (total (attempts.map Attempt.answeredCount))) :=
    (Report.isMean_averageOf_iff hwaited).mpr (.inl hcount)
  obtain ⟨d, hd, hmean⟩ := haverage.2 hpos
  have hall : ∀ a ∈ attempts, IsMean a.waited a.answeredCount a.averageRoundTrip := fun a ha ↦
    Attempt.isMean_of_mem hcount hwaited ha
  obtain ⟨hmeans, htrips⟩ := Attempt.between_quotient hpos hall
  rw [← hmean] at hmeans htrips
  refine ⟨⟨Report.inOrder attempts, elapsed, some d⟩, d, ?_, rfl, hall, hmeans, htrips, ?_⟩
  · rw [Report.ofAttempts_eq, hd]
    rfl
  · intro other elapsed' hperm
    rw [Report.averageRoundTrip_ofAttempts, ← Attempt.total_waited_filter other,
      ← Attempt.total_answeredCount_filter other, total_perm (hperm.map _),
      total_perm (hperm.map _), Attempt.total_waited_filter, Attempt.total_answeredCount_filter, hd]

/-- Three attempts, with two responses, with none, and with one. -/
def Attempt.trio : List Attempt :=
  [((new 1 "ws://localhost:80/" "echo").record (.answered 0 .matched ⟨10, by decide⟩)).record
      (.answered 1 .matched ⟨21, by decide⟩),
    (new 2 "ws://localhost:80/" "echo").record (.unanswered 0 true .closed),
    (new 3 "ws://localhost:80/" "echo").record (.answered 0 .matched ⟨40, by decide⟩)]

theorem mean_between_trio :
    0 < total (Attempt.trio.map Attempt.answeredCount) ∧
      total (Attempt.trio.map Attempt.answeredCount) < 0x100000000 ∧
      total (Attempt.trio.map Attempt.waited) < 0x10000000000000000 * 1000000000 ∧
      ∃ r d, Report.ofAttempts Attempt.trio Span.zero = .ok r ∧ r.averageRoundTrip = some d ∧
        (∀ a ∈ Attempt.trio, IsMean a.waited a.answeredCount a.averageRoundTrip) ∧
        Between (Attempt.means Attempt.trio) d.nanoseconds ∧
        Between (Attempt.trips Attempt.trio) d.nanoseconds ∧
        ∀ (other : List Attempt) (elapsed' : Span),
          (other.filter Attempt.hasResponse).Perm (Attempt.trio.filter Attempt.hasResponse) →
          Report.averageRoundTrip <$> Report.ofAttempts other elapsed' = .ok (some d) :=
  ⟨by decide, by decide, by decide,
    mean_between Attempt.trio Span.zero (by decide) (by decide) (by decide)⟩

/-- The mean of the means 15 and 40 would be 27, but the mean of all round trips is 23. -/
example : (Attempt.trio.map Attempt.averageRoundTrip = [.ok (some ⟨15, by decide⟩), .ok none,
      .ok (some ⟨40, by decide⟩)]) ∧
    Report.averageOf (total (Attempt.trio.map Attempt.waited))
      (total (Attempt.trio.map Attempt.answeredCount)) = .ok (some ⟨23, by decide⟩) := by
  decide

end Lockstep

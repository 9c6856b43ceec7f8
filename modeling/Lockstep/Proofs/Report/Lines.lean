import Lockstep.Proofs.Display
import Lockstep.Proofs.Report.Order
import Lockstep.Proofs.Text.Lines
import Lockstep.Suite

/-!
# The lines of a report

What comes from a peer is shown only as a payload in a mismatch, and a payload is shown without
control characters. So it cannot break the line on which it stands, nor add one that looks as if it
were of the report: each attempt that did not succeed has a block of lines whose number depends on
its state and its verdicts alone, in a report on a run as in one on a suite.

What is to be assumed is that there is no line break in the texts that are shown as they are: URIs,
texts of faults, and the reasons why there was no response.
-/

namespace Lockstep

open Text (IsControl)

variable {c : Char}

/-! ## What does not break a line -/

namespace Payload

theorem not_mem_hexOctet (hc : IsControl c) (b : UInt8) : c ∉ (hexOctet b).toList := by
  have hlt := b.toNat_lt
  rw [hexOctet, String.toList_ofList, List.mem_cons, List.mem_singleton, not_or]
  exact ⟨hc.ne_digitChar (by omega), hc.ne_digitChar (by omega)⟩

theorem not_mem_listed (hc : IsControl c) (b : List UInt8) : c ∉ (listed b).toList := by
  induction b with
  | nil => exact hc.not_mem (by decide)
  | cons x rest ih =>
    cases rest with
    | nil =>
      rw [listed_singleton]
      exact not_mem_hexOctet hc x
    | cons y rest =>
      rw [listed_cons_cons, Text.not_mem_append, Text.not_mem_append]
      exact ⟨not_mem_hexOctet hc x, hc.not_mem (by decide), ih⟩

/-- Whatever a payload holds, no control character is shown of it. -/
theorem not_mem_display (hc : IsControl c) (p : Payload) : c ∉ p.display.toList := by
  cases p with
  | text s =>
    rw [toList_display_text]
    exact hc.not_mem_encode s.toList
  | binary b =>
    simp (disch := decide) only [display_binary, Text.not_mem_append, hc.not_mem,
      hc.not_mem_toString, not_mem_listed hc, and_self, not_false_eq_true]

end Payload

theorem Status.not_mem_name (hc : IsControl c) (s : Status) : c ∉ s.name.toList := by
  cases s <;> exact hc.not_mem (by decide)

/-- The text on why there was no response. -/
def Verdict.reason? : Verdict → Option String
  | failed reason => some reason
  | _ => none

/-- Only the reason of a failure is shown of a verdict as it is. -/
theorem Verdict.not_mem_display (hc : IsControl c) {v : Verdict}
    (h : ∀ reason ∈ v.reason?, c ∉ reason.toList) : c ∉ v.display.toList := by
  cases v with
  | matched => exact hc.not_mem (by decide)
  | mismatch e a =>
    change c ∉ ("expected " ++ e.display ++ ", got " ++ a.display).toList
    simp (disch := decide) only [Text.not_mem_append, hc.not_mem, Payload.not_mem_display hc,
      and_self, not_false_eq_true]
  | unexpectedKind e a =>
    cases e <;> cases a <;> exact hc.not_mem (by decide)
  | failed reason =>
    change c ∉ ("no response: " ++ reason).toList
    exact Text.not_mem_append.mpr ⟨hc.not_mem (by decide), h reason rfl⟩

/-- The character stands in none of the texts that are shown of the attempt as they are. -/
structure Attempt.Omits (a : Attempt) (c : Char) : Prop where
  uri : c ∉ a.uri.toList
  fault : ∀ e ∈ a.fault, c ∉ e.message.toList
  reason : ∀ o ∈ a.outcomes, ∀ reason ∈ o.verdict.reason?, c ∉ reason.toList

namespace Report

variable {a : Attempt}

theorem headerLines_eq (r : Report) : r.headerLines =
    [ rule, "Run Report", rule,
      "Connections: " ++ toString r.totalConnections ++ " total, " ++
        toString (r.count .succeeded) ++ " succeeded, " ++
        (toString (r.count .failed) ++ " failed, " ++ toString (r.count .refused) ++ " refused"),
      "Messages sent: " ++ toString r.totalSent,
      "Messages received: " ++ toString r.totalReceived,
      "Responses matched: " ++ toString r.totalMatched,
      "Elapsed: " ++ Fixed.text 3 r.elapsed.toFloat ++ "s",
      "Throughput: " ++ Fixed.text 1 r.throughput ++ " messages/second",
      "Average round trip: " ++ match r.averageRoundTrip with
        | some d => Fixed.text 3 (d.toFloat * 1000.0) ++ " ms"
        | none => "n/a" ] := rfl

theorem attemptLine_eq (a : Attempt) : attemptLine a =
    "  ✗ attempt " ++ toString a.id ++ " (" ++ a.uri ++ ") " ++ a.status.name ++
      match a.fault with
      | some e => ": " ++ e.message
      | none => "" := rfl

theorem messageLine_eq (o : Outcome) : messageLine o =
    "      message #" ++ toString o.index ++ ": " ++ o.verdict.display := rfl

theorem not_mem_headerLines (hc : IsControl c) (r : Report) :
    ∀ line ∈ r.headerLines, c ∉ line.toList := by
  have haverage : c ∉ (match r.averageRoundTrip with
      | some d => Fixed.text 3 (d.toFloat * 1000.0) ++ " ms"
      | none => "n/a").toList := by
    cases r.averageRoundTrip with
    | none => exact hc.not_mem (by decide)
    | some d => exact Text.not_mem_append.mpr ⟨hc.not_mem_fixed _ _, hc.not_mem (by decide)⟩
  rw [headerLines_eq]
  simp (disch := decide) only [List.forall_mem_cons, Text.not_mem_append, hc.not_mem,
    hc.not_mem_toString, hc.not_mem_fixed, haverage, List.not_mem_nil, not_false_eq_true, and_self,
    implies_true, IsEmpty.forall_iff]

theorem not_mem_attemptLine (hc : IsControl c) (h : a.Omits c) : c ∉ (attemptLine a).toList := by
  have hcause : c ∉ (match a.fault with
      | some e => ": " ++ e.message
      | none => "").toList := by
    cases hf : a.fault with
    | none => exact hc.not_mem (by decide)
    | some e => exact Text.not_mem_append.mpr ⟨hc.not_mem (by decide), h.fault e hf⟩
  simp (disch := decide) only [attemptLine_eq, Text.not_mem_append, hc.not_mem,
    hc.not_mem_toString, h.uri, a.status.not_mem_name hc, hcause, and_self, not_false_eq_true]

theorem not_mem_messageLine (hc : IsControl c) {o : Outcome} (h : c ∉ o.verdict.display.toList) :
    c ∉ (messageLine o).toList := by
  simp (disch := decide) only [messageLine_eq, Text.not_mem_append, hc.not_mem,
    hc.not_mem_toString, h, and_self, not_false_eq_true]

theorem not_mem_failureLines (hc : IsControl c) (h : a.Omits c) :
    ∀ line ∈ failureLines a, c ∉ line.toList := by
  rw [failureLines, List.forall_mem_cons]
  refine ⟨not_mem_attemptLine hc h, ?_⟩
  split
  · exact nofun
  · intro line hline
    obtain ⟨o, ho, rfl⟩ := List.mem_map.mp hline
    exact not_mem_messageLine hc (Verdict.not_mem_display hc (h.reason o (List.mem_filter.mp ho).1))

/-! ## Lines with their ends -/

theorem unlines_cons (line : String) (rest : List String) :
    unlines (line :: rest) = line ++ "\n" ++ unlines rest := by
  rw [unlines, List.map_cons, String.join_cons, unlines]

/-- Lines with their ends fall into the lines of each of them. -/
theorem lines_unlines_append (ls : List String) (rest : String) :
    Text.lines (unlines ls ++ rest) = ls.flatMap Text.lines ++ Text.lines rest := by
  induction ls with
  | nil => exact congrArg Text.lines String.empty_append
  | cons line ls ih =>
    rw [unlines_cons, String.append_assoc, Text.lines_append, ih, List.flatMap_cons,
      List.append_assoc]

theorem flatMap_lines {ls : List String} (h : ∀ line ∈ ls, '\n' ∉ line.toList) :
    ls.flatMap Text.lines = ls := by
  induction ls with
  | nil => rfl
  | cons line ls ih =>
    obtain ⟨hline, hls⟩ := List.forall_mem_cons.mp h
    rw [List.flatMap_cons, Text.lines_eq_singleton hline, ih hls, List.singleton_append]

/-- A report falls into its lines, and nothing is left behind the end of the last. -/
theorem lines_text {r : Report} (h : ∀ a ∈ r.attempts, a.Omits '\n') :
    Text.lines r.text = r.lines ++ [""] := by
  have hnone : ∀ line ∈ r.lines, '\n' ∉ line.toList := by
    rw [lines, List.forall_mem_append]
    refine ⟨not_mem_headerLines (by decide) r, fun line hline ↦ ?_⟩
    obtain ⟨a, ha, hline⟩ := List.mem_flatMap.mp hline
    exact not_mem_failureLines (by decide) (h a (List.mem_filter.mp ha).1) line hline
  have hlines := lines_unlines_append r.lines ""
  rwa [String.append_empty, flatMap_lines hnone] at hlines

/-! ## How many lines -/

theorem length_failures (a : Attempt) :
    a.failures.length = a.outcomes.length - a.matchedCount := by
  have hsplit := List.length_eq_countP_add_countP Outcome.isMatch (l := a.outcomes)
  have hfailures : a.failures.length = a.outcomes.countP fun o ↦ decide ¬ o.isMatch = true := by
    rw [Attempt.failures, List.countP_eq_length_filter]
    simp
  unfold Attempt.matchedCount
  omega

theorem length_flatMap_failureLines (as : List Attempt) :
    (as.flatMap failureLines).length = as.length +
      total ((as.filter (·.state ≠ .connectFailed)).map fun a ↦
        a.outcomes.length - a.matchedCount) := by
  induction as with
  | nil => rfl
  | cons a rest ih =>
    rw [List.flatMap_cons, List.length_append, ih, failureLines, List.length_cons, List.length_cons,
      List.filter_cons]
    by_cases hstate : a.state = .connectFailed
    · rw [if_pos hstate, if_neg (by simp [hstate]), List.length_nil]
      omega
    · rw [if_neg hstate, if_pos (by simp [hstate]), List.map_cons, total_cons, List.length_map,
        length_failures]
      omega

/-! ## Blocks -/

/-- The lines on an attempt: one on itself and, unless there was no connection, one on each message
without the response that was looked for, in order. -/
structure IsBlock (a : Attempt) (block : List String) : Prop where
  head : block.head? = some ("  ✗ attempt " ++ toString a.id ++ " (" ++ a.uri ++ ") " ++
    a.status.name ++ a.fault.elim "" fun e ↦ ": " ++ e.message)
  tail : block.tail = (if a.state = .connectFailed then [] else
    a.outcomes.filter fun o ↦ o.verdict ≠ .matched).map fun o ↦
      "      message #" ++ toString o.index ++ ": " ++ o.verdict.display

theorem failures_eq (a : Attempt) :
    a.failures = a.outcomes.filter fun o ↦ o.verdict ≠ .matched := by
  refine List.filter_congr fun o _ ↦ ?_
  cases hv : o.verdict <;> simp [Outcome.isMatch, hv]

theorem isBlock_failureLines (a : Attempt) : IsBlock a (failureLines a) where
  head := by
    rw [failureLines, List.head?_cons, attemptLine_eq]
    cases a.fault <;> rfl
  tail := by
    rw [failureLines, List.tail_cons, ← failures_eq]
    split
    · rfl
    · exact List.map_congr_left fun o _ ↦ messageLine_eq o

/-! ## Reports -/

/-- A report on `attempts` falls into its header and the blocks of those that did not succeed, in
the order of their ids. -/
structure Listed (attempts : List Attempt) (r : Report) : Prop where
  length_headerLines : r.headerLines.length = 10
  lines_text : ∃ failed : List Attempt, failed.Perm (attempts.filter (! ·.succeeded)) ∧
    failed.Pairwise (fun a b ↦ a.id ≤ b.id) ∧
    Text.lines r.text = r.headerLines ++ failed.flatMap failureLines ++ [""]
  count_text : r.text.toList.count '\n' = 10 + attempts.countP (! ·.succeeded) +
    total (((attempts.filter (! ·.succeeded)).filter (·.state ≠ .connectFailed)).map fun a ↦
      a.outcomes.length - a.matchedCount)

/-- It does so whatever the other figures of the report are. -/
theorem listed_of_ordered {attempts : List Attempt} {r : Report}
    (h : ∀ a ∈ attempts, a.Omits '\n') (hattempts : r.attempts.Perm attempts)
    (hordered : r.attempts.Pairwise fun a b ↦ a.id ≤ b.id) : Listed attempts r := by
  have hperm : (r.attempts.filter (! ·.succeeded)).Perm (attempts.filter (! ·.succeeded)) :=
    hattempts.filter _
  have hheader : r.headerLines.length = 10 := rfl
  have hlines : Text.lines r.text = r.lines ++ [""] := lines_text fun a ha ↦
    h a (hattempts.subset ha)
  refine ⟨hheader, ⟨_, hperm, hordered.filter _, hlines⟩, ?_⟩
  have hlength := congrArg List.length hlines
  rw [Text.length_lines, lines, List.length_append, List.length_append, List.length_singleton,
    length_flatMap_failureLines, hheader, hperm.length_eq, total_perm ((hperm.filter _).map _),
    ← List.countP_eq_length_filter, ← Nat.add_assoc] at hlength
  exact Nat.succ.inj hlength

end Report

namespace SuiteReport

variable {a : Attempt}

def title (a : Attempt) : String := "=== " ++ a.scenario ++ " scenario: " ++ a.uri ++ " ==="

def tally (a : Attempt) : String :=
  "  ✓ " ++ toString a.matchedCount ++ "/" ++ toString a.outcomes.length ++ " messages matched"

theorem attemptLines_eq (a : Attempt) : attemptLines a =
    ["", title a] ++ if a.succeeded then [tally a] else Report.failureLines a := rfl

theorem not_mem_tally (hc : IsControl c) (a : Attempt) : c ∉ (tally a).toList := by
  simp (disch := decide) only [tally, Text.not_mem_append, hc.not_mem, hc.not_mem_toString,
    and_self, not_false_eq_true]

/-- An attempt of a suite has a blank line, its title, and a line on its messages or the block that
a report on it has. -/
theorem flatMap_lines_attemptLines (h : a.Omits '\n') :
    (attemptLines a).flatMap Text.lines = "" :: Text.lines (title a) ++
      if a.succeeded then [tally a] else Report.failureLines a := by
  have hnone : ∀ line ∈ if a.succeeded then [tally a] else Report.failureLines a,
      '\n' ∉ line.toList := by
    split
    · exact List.forall_mem_singleton.mpr (not_mem_tally (by decide) a)
    · exact Report.not_mem_failureLines (by decide) h
  have hblank : Text.lines "" = [""] := Text.lines_eq_singleton (by decide)
  rw [attemptLines_eq, List.flatMap_append, Report.flatMap_lines hnone, List.flatMap_cons,
    List.flatMap_singleton, hblank, List.singleton_append]

/-- A report on a suite falls into what each of its attempts has, in the order in which they were
made, and the verdict behind a blank line. -/
theorem lines_text {r : SuiteReport} (h : ∀ a ∈ r.attempts, a.Omits '\n') :
    Text.lines r.text = (r.attempts.flatMap fun a ↦ "" :: Text.lines (title a) ++
        if a.succeeded then [tally a] else Report.failureLines a) ++
      ["", if r.passed then "Suite passed" else "Suite FAILED"] := by
  have hattempts : r.attempts.flatMap (fun a ↦ (attemptLines a).flatMap Text.lines) = _ :=
    List.flatMap_congr fun a ha ↦ flatMap_lines_attemptLines (h a ha)
  have hverdict : '\n' ∉ (if r.passed then "Suite passed" else "Suite FAILED").toList := by
    split <;> decide
  rw [text, Report.lines_unlines_append, lines, List.flatMap_append, List.flatMap_assoc, hattempts,
    Text.lines_eq_singleton hverdict, List.append_assoc]
  rfl

end SuiteReport

/-! ## What peers cannot break -/

/-- Where no URI, no text of a fault and no reason has a line break, whatever payloads came, a
report is its ten lines and a block for each attempt that did not succeed, in the order of their
ids, and for no other. A report on a suite shows the same blocks. -/
theorem Report.ofAttempts_lines (attempts : List Attempt) (elapsed : Span)
    (h : ∀ a ∈ attempts, a.Omits '\n') :
    (∀ r : Report, r.attempts.Perm attempts → (r.attempts.Pairwise fun a b ↦ a.id ≤ b.id) →
        Listed attempts r) ∧
      Follows attempts (Listed attempts) (ofAttempts attempts elapsed) ∧
      (∀ a, IsBlock a (failureLines a)) ∧
      Text.lines (SuiteReport.mk attempts).text =
        (attempts.flatMap fun a ↦ "" :: Text.lines (SuiteReport.title a) ++
          if a.succeeded then [SuiteReport.tally a] else failureLines a) ++
        ["", if (SuiteReport.mk attempts).passed then "Suite passed" else "Suite FAILED"] := by
  refine ⟨fun _ ↦ listed_of_ordered h, ?_, isBlock_failureLines, SuiteReport.lines_text h⟩
  refine ofAttempts_follows fun _ average ↦ ?_
  exact listed_of_ordered h (inOrder_perm attempts) (inOrder_pairwise attempts)

/-- Two attempts, that with the greater id first. To its second message came what looks like a line
of a report. Nothing listened for the other. -/
def Attempt.forged : List Attempt :=
  [{ new 2 "ws://localhost:80/" "echo" with
      outcomes :=
        [.answered 0 .matched (.ofMilliseconds 1),
          .answered 1 (.mismatch (.text "b") (.text "b\n  ✗ attempt 3 () failed\n\n"))
            (.ofMilliseconds 2),
          .unanswered 2 true .closed]
      state := .closed .failure
      fault := some .closed },
    { new 1 "ws://localhost:80/" "echo" with
      state := .connectFailed
      fault := some (.refused "ws://localhost:80/") }]

theorem Attempt.omits_forged : ∀ a ∈ forged, a.Omits '\n' := by
  have huri : ∀ a ∈ forged, '\n' ∉ a.uri.toList := by decide
  have hfault : ∀ a ∈ forged, ∀ e ∈ a.fault, '\n' ∉ e.message.toList := by decide
  have hreason : ∀ a ∈ forged, ∀ o ∈ a.outcomes, ∀ reason ∈ o.verdict.reason?,
      '\n' ∉ reason.toList := by decide
  exact fun a ha ↦ ⟨huri a ha, hfault a ha, hreason a ha⟩

theorem Report.ofAttempts_lines_forged :
    (∀ a ∈ Attempt.forged, a.Omits '\n') ∧ ∃ r, ofAttempts Attempt.forged Span.zero = .ok r ∧
      Listed Attempt.forged r ∧ r.text.toList.count '\n' = 14 := by
  obtain ⟨-, hlisted, -, -⟩ := ofAttempts_lines Attempt.forged Span.zero Attempt.omits_forged
  obtain ⟨r, hr, hlisted⟩ := hlisted.exists_ok ⟨by decide, by decide⟩
  exact ⟨Attempt.omits_forged, r, hr, hlisted, hlisted.count_text⟩

end Lockstep

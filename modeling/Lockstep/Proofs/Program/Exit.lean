import Lockstep.Program
import Lockstep.Proofs.Interactive.Transcript
import Lockstep.Proofs.Load.Outcome
import Lockstep.Proofs.Suite.Course

/-!
# The exit code

The program exits with 0 exactly if what its settings ask for succeeded as a whole, and otherwise
with 1. Nothing succeeds for want of something to do: a load run needs a connection and a message,
and a session that broke off is no success. What is left out are load runs whose figures cannot be
added up: the program panics.

A refused connection is told on its own, in a suite and in an interactive session. A load run goes
on without the connection, and its report has a line on it.
-/

namespace Lockstep

namespace Program

/-! ## Modes -/

/-- What settings ask for that do not ask for a server. -/
inductive Mode where
  /-- Nothing, since their URL is none. -/
  | barred (cause : Fault)
  | interactive (s : Interactive)
  | load (p : LoadPlan) (endpoint : Endpoint)
  | suite (s : Suite)

/-- An interactive session wins over a load run, and that over the suite. -/
def mode (f : Flags) : Mode :=
  match f.echoEndpoint with
  | .error cause => .barred cause
  | .ok echo =>
    match f.interactive with
    | some route => .interactive ⟨echo.withPath route .identity, f.timeouts⟩
    | none =>
      if f.multi then .load (plan f) echo else .suite ⟨echo, f.chatEndpoint echo, f.timeouts⟩

namespace Course

def ofTranscript (e : Endpoint) (t : Interactive.Transcript) : Course :=
  ⟨(fun _ ↦ true) <$> t.result, interactiveTitle e ++ t.output, if t.requested then 1 else 0⟩

def ofLoad : Except Fault LoadPlan.Course → Course
  | .error cause => .barred cause
  | .ok c => ⟨.ok c.report.allSucceeded, c.report.text ++ "\n", c.requests⟩

def ofSuite (c : Suite.Course) : Course :=
  match c.report with
  | .error cause => ⟨.error cause, suiteTitle, c.requests⟩
  | .ok r => ⟨.ok r.passed, suiteTitle ++ r.text ++ "\n", c.requests⟩

end Course

namespace Mode

variable (w : World)

/-- What the program leaves behind that does what is asked for. -/
def course : Mode → Except Halt Course
  | barred cause => .ok (.barred cause)
  | interactive s => .ofTranscript s.endpoint <$> s.run w.stdin w.network w.now
  | load p endpoint => .ofLoad <$> p.start endpoint w.network w.draw w.now
  | suite s => .ofSuite <$> s.run w.network w.now

/-- What is asked for succeeds as a whole. -/
def Succeeds : Mode → Prop
  | barred _ => False
  | interactive s => s.Succeeds w.stdin w.network w.now
  | load p endpoint => p.Succeeds endpoint w.network w.draw w.now
  | suite s => s.Succeeds w.network w.now

/-- What is asked for ends with a fault that says that nothing listens. -/
def Refused : Mode → Prop
  | barred _ | load _ _ => False
  | interactive s => ∃ t cause, s.run w.stdin w.network w.now = .ok t ∧
      t.result = .error cause ∧ cause.isRefused = true
  | suite s => ∃ c cause, s.run w.network w.now = .ok c ∧
      c.report = .error cause ∧ cause.isRefused = true

/-- What is asked for waits, without a limit, for something that never comes. -/
def Stalls : Mode → Prop
  | barred _ => False
  | interactive s => s.session.Stalls
      (Interactive.scenario (Interactive.texts (Interactive.lines w.stdin))) w.network 0 w.now
  | load p endpoint => p.Stalls endpoint w.network w.draw w.now
  | suite s => s.Stalls w.network w.now

/-- The figures of a load run can be added up. -/
def Reportable : Mode → Prop
  | load p endpoint => p.validate = .ok () →
      Report.Reportable (p.attempts endpoint w.network w.draw w.now)
  | barred _ | interactive _ | suite _ => True

end Mode

variable {f : Flags} {w : World}

/-- A program that does not serve does what its mode says. -/
theorem run_eq (hserve : f.serve = false) : run f w = .ended <$> (mode f).course w := by
  unfold run mode
  cases f.echoEndpoint with
  | error cause => rfl
  | ok echo =>
    dsimp only
    rw [hserve, if_neg Bool.false_ne_true]
    cases f.interactive with
    | some route =>
      dsimp only
      rw [interact, bind_pure_comp]
      rfl
    | none =>
      dsimp only
      cases f.multi with
      | true =>
        have hload : load f echo w =
            Course.ofLoad <$> (plan f).start echo w.network w.draw w.now := by
          rw [load, ← bind_pure_comp]
          exact bind_congr fun c ↦ by cases c <;> rfl
        exact congrArg (Ending.ended <$> ·) hload
      | false =>
        have hsuite : suite f echo w = Course.ofSuite <$>
            Suite.run ⟨echo, f.chatEndpoint echo, f.timeouts⟩ w.network w.now := by
          rw [suite, ← bind_pure_comp]
          refine bind_congr fun c ↦ ?_
          rw [Course.ofSuite]
          cases c.report <;> rfl
        exact congrArg (Ending.ended <$> ·) hsuite

namespace Course

variable {c : Course}

theorem exit_eq_zero_iff : c.exit = 0 ↔ c.result = .ok true := by
  unfold exit
  split
  · rename_i h
    exact iff_of_true rfl h
  · rename_i h
    exact iff_of_false (by decide) h

/-- There are two exit codes. -/
theorem exit_eq_one_iff : c.exit = 1 ↔ c.exit ≠ 0 := by
  unfold exit
  split <;> decide

/-- What the program tells if nothing listens. -/
def refusalText : String := "✗ Connection refused. Is the server running?\n"

end Course

/-! ## What each mode leaves behind -/

namespace Mode

variable {m : Mode} {c : Course}

/-- The run succeeds as a whole exactly if what is asked for does. -/
theorem result_eq_ok_iff (h : m.course w = .ok c) : c.result = .ok true ↔ m.Succeeds w := by
  cases m with
  | barred cause =>
    cases h
    exact iff_of_false nofun id
  | interactive s =>
    obtain ⟨t, ht, rfl⟩ := Halt.map_eq_ok.mp h
    rw [Succeeds, ← Interactive.result_eq_ok_iff_succeeds ht]
    change (fun _ ↦ true) <$> t.result = .ok true ↔ _
    cases t.result with
    | error cause => exact iff_of_false nofun nofun
    | ok count => exact iff_of_true rfl ⟨count, rfl⟩
  | load p endpoint =>
    obtain ⟨x, hx, rfl⟩ := Halt.map_eq_ok.mp h
    obtain ⟨cause, hv, rfl⟩ | ⟨hv, c, rfl, hattempts⟩ := LoadPlan.start_cases hx
    · refine iff_of_false nofun ?_
      rintro ⟨hn, hk, -⟩
      cases hv.symm.trans (LoadPlan.validate_eq_ok.mpr ⟨hn, hk⟩)
    · rw [Succeeds, ← LoadPlan.allSucceeded_iff_succeeds hv hattempts]
      change Except.ok c.report.allSucceeded = .ok true ↔ _
      rw [Except.ok.injEq]
  | suite s =>
    obtain ⟨c, hc, rfl⟩ := Halt.map_eq_ok.mp h
    rw [Succeeds, ← Suite.passed_iff_succeeds hc, Course.ofSuite]
    cases c.report with
    | error cause => exact iff_of_false nofun nofun
    | ok r => simp

/-- A load run has a line in its report on each connection that was refused. -/
theorem load_refused {p : LoadPlan} {endpoint : Endpoint}
    (h : (load p endpoint).course w = .ok c) (hk : 0 < p.messages) {id : Nat} (hid : id ∈ p.ids)
    {r : Session.Record} (hr : p.task endpoint w.network w.draw w.now id = .ok r)
    (hs : r.attempt.status = .refused) :
    c.exit = 1 ∧ c.stderr = "" ∧ ∃ report : Report, c.stdout = report.text ++ "\n" ∧
      Report.attemptLine r.attempt ∈ report.lines := by
  obtain ⟨x, hx, rfl⟩ := Halt.map_eq_ok.mp h
  have hv : p.validate = .ok () := LoadPlan.validate_eq_ok.mpr
    ⟨Nat.lt_of_lt_of_le (LoadPlan.mem_ids.mp hid).1 (LoadPlan.mem_ids.mp hid).2, hk⟩
  obtain ⟨cause, hcause, -⟩ | ⟨-, c, rfl, hattempts⟩ := LoadPlan.start_cases hx
  · cases hv.symm.trans hcause
  have hfailed : r.attempt.succeeded = false := by
    rw [Attempt.succeeded, hs]
    rfl
  have hmem : r.attempt ∈ c.report.attempts := by
    rw [hattempts]
    exact List.mem_map.mpr ⟨id, hid, by rw [hr]; rfl⟩
  refine ⟨?_, rfl, c.report, rfl, Report.attemptLine_mem_lines hmem hfailed⟩
  rw [Course.exit_eq_one_iff, Ne, Course.exit_eq_zero_iff, result_eq_ok_iff h]
  rintro ⟨-, -, hall⟩
  obtain ⟨r', hr', hclean, -⟩ := hall id hid
  cases hr.symm.trans hr'
  obtain ⟨cause, hfault, -⟩ := Attempt.status_eq_refused.mp hs
  cases hclean.fault.symm.trans hfault

end Mode

/-! ## What the program leaves behind -/

/-- The URL is none, or a load run is asked for with no connection or no message. -/
def Barred (f : Flags) : Prop :=
  (∃ url cause, f.url = some url ∧ Endpoint.ofUrl url f.echoTransform = .error cause) ∨
    f.interactive = none ∧ f.multi = true ∧ (f.connections = 0 ∨ f.messages = 0)

/-- What a run leaves behind that does not serve. -/
structure Concluded (f : Flags) (w : World) (c : Course) : Prop where
  exit_eq_zero_iff : c.exit = 0 ↔ (mode f).Succeeds w
  exit_eq_one_iff : c.exit = 1 ↔ ¬ (mode f).Succeeds w
  barred : Barred f → c.exit = 1 ∧ c.requests = 0
  stderr_iff : c.stderr = Course.refusalText ↔ (mode f).Refused w
  load_refused : ∀ p endpoint, mode f = .load p endpoint → 0 < p.messages → ∀ id ∈ p.ids, ∀ r,
    p.task endpoint w.network w.draw w.now id = .ok r → r.attempt.status = .refused →
      c.exit = 1 ∧ c.stderr = "" ∧ ∃ report : Report, c.stdout = report.text ++ "\n" ∧
        Report.attemptLine r.attempt ∈ report.lines

end Program

end Lockstep

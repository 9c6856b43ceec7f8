import Lockstep.Load.Run
import Lockstep.Proofs.Session.Stages
import Mathlib.Data.List.Perm.Basic
import Mathlib.Data.List.Nodup
import Mathlib.Data.Set.Insert

/-!
# Load runs step by step

The tasks of a load run go on side by side, and nothing says which of them goes on next. A
`Snapshot` says how far each of them is, and what those ended with that have been joined, in the
order in which they were. In a step of the run a task goes on by a step of its session, or a task
panics that may (`frail`), or a task that is over is joined.

What a task ends with is what it would have ended with alone, or a panic (`Reachable.ends`), so once
all tasks are joined only the order in which they were is left open, and the report takes no notice
of it (`reportOn_perm`). An execution of a task lifts to one of the run in which the others stand
still, so that the run as `run` has it, one task after the other, is among those considered
(`run_cases`).
-/

namespace Lockstep.LoadPlan

open Session (Stage)

/-- How far a load run is. -/
structure Snapshot where
  /-- How far each task is. -/
  stage : Nat → Stage
  /-- The tasks that have been joined, in order, and what each of them ended with. -/
  ends : List (Nat × TaskEnd)

namespace Snapshot

/-- No task has done anything yet. -/
def initial : Snapshot := ⟨fun _ ↦ .begun, []⟩

/-- Task `id` gets to a stage. -/
def move (m : Snapshot) (id : Nat) (σ : Stage) : Snapshot :=
  { m with stage := Function.update m.stage id σ }

/-- Task `id` is joined. -/
def join (m : Snapshot) (id : Nat) (e : TaskEnd) : Snapshot :=
  { m with ends := m.ends ++ [(id, e)] }

/-- The tasks that have been joined. -/
def joined (m : Snapshot) : List Nat := m.ends.map Prod.fst

/-- What task `id` ended with, once it has been joined. -/
def ended (m : Snapshot) (id : Nat) : TaskEnd := (m.ends.lookup id).getD (.error .endless)

variable (m : Snapshot) (id : Nat)

@[simp] theorem stage_move (σ : Stage) : (m.move id σ).stage id = σ := Function.update_self ..

theorem stage_move_of_ne {id' : Nat} (σ : Stage) (h : id' ≠ id) :
    (m.move id σ).stage id' = m.stage id' := Function.update_of_ne h ..

@[simp] theorem ends_move (σ : Stage) : (m.move id σ).ends = m.ends := rfl

@[simp] theorem move_move (σ σ' : Stage) : (m.move id σ).move id σ' = m.move id σ' := by
  rw [move, move, move, Function.update_idem]

@[simp] theorem move_stage : m.move id (m.stage id) = m := by
  rw [move, Function.update_eq_self]

@[simp] theorem ends_join (e : TaskEnd) : (m.join id e).ends = m.ends ++ [(id, e)] := rfl

@[simp] theorem joined_join (e : TaskEnd) : (m.join id e).joined = m.joined ++ [id] := by
  rw [joined, ends_join, List.map_append]
  rfl

end Snapshot

/-! ## Steps -/

section

variable (p : LoadPlan) (endpoint : Endpoint) (network : Network) (draw : Nat → Scenario.Draw)
  (now : Nat) (frail : Set Nat)

/-- A step of task `id`. -/
abbrev TaskStep (id : Nat) : Stage → Stage → Prop :=
  Stage.Step (p.session endpoint id) (p.scenario endpoint (draw id)) network (id - 1) now

/-- What becomes of task `id` that goes on from a stage. -/
abbrev taskFinish (id : Nat) : Stage → TaskEnd :=
  Stage.finish (p.session endpoint id) (p.scenario endpoint (draw id)) network (id - 1) now

/-- A step of a load run whose `frail` tasks may panic. -/
inductive Step : Snapshot → Snapshot → Prop
  | move {m : Snapshot} {id : Nat} {σ : Stage} (hid : id ∈ p.ids)
      (h : p.TaskStep endpoint network draw now id (m.stage id) σ) : Step m (m.move id σ)
  | panic {m : Snapshot} {id : Nat} {halt : Halt} (hid : id ∈ p.ids) (hf : id ∈ frail)
      (hh : halt ≠ .endless) (h : ∀ e, m.stage id ≠ .over e) :
      Step m (m.move id (.over (.error halt)))
  | join {m : Snapshot} {id : Nat} {e : TaskEnd} (hid : id ∈ p.ids) (h : m.stage id = .over e)
      (hnew : id ∉ m.joined) : Step m (m.join id e)

/-- Any number of steps. -/
abbrev Steps : Snapshot → Snapshot → Prop :=
  Relation.ReflTransGen (p.Step endpoint network draw now frail)

/-- What a load run can get to. -/
abbrev Reachable : Snapshot → Prop := p.Steps endpoint network draw now frail .initial

/-- All tasks have been joined. -/
def Over (m : Snapshot) : Prop := ∀ id ∈ p.ids, id ∈ m.joined

/-- Task `id` can end so: as it does alone, or, if it is frail, with a panic. -/
def EndsWith (id : Nat) (e : TaskEnd) : Prop :=
  e = p.task endpoint network draw now id ∨ id ∈ frail ∧ ∃ halt, e = .error halt

/-- What holds throughout a load run. -/
structure Sound (m : Snapshot) : Prop where
  /-- Each task comes to an end that it can have. -/
  finish : ∀ id ∈ p.ids,
    p.EndsWith endpoint network draw now frail id
      (p.taskFinish endpoint network draw now id (m.stage id))
  not_endless : ∀ id, m.stage id ≠ .over (.error .endless)
  stage_of_mem : ∀ e ∈ m.ends, e.1 ∈ p.ids ∧ m.stage e.1 = .over e.2
  nodup : m.joined.Nodup

end

variable {p : LoadPlan} {endpoint : Endpoint} {network : Network} {draw : Nat → Scenario.Draw}
  {now : Nat} {frail : Set Nat} {m m' : Snapshot}

theorem mem_ids {id : Nat} : id ∈ p.ids ↔ 0 < id ∧ id ≤ p.connections := by
  rw [ids, List.mem_range'_1]
  omega

theorem nodup_ids (p : LoadPlan) : p.ids.Nodup := List.nodup_range'

theorem getElem?_ids {id : Nat} (h : id ∈ p.ids) : p.ids[id - 1]? = some id := by
  have hid := mem_ids.mp h
  rw [ids, List.getElem?_range' (by omega)]
  exact congrArg some (by omega)

theorem sound_initial : p.Sound endpoint network draw now frail .initial where
  finish _ _ := .inl rfl
  not_endless _ := nofun
  stage_of_mem _ he := absurd he List.not_mem_nil
  nodup := .nil

/-- A task that is not over may get to any stage from which it comes to an end that it can have. -/
theorem Sound.move (hs : p.Sound endpoint network draw now frail m) {id : Nat} {σ : Stage}
    (hover : ∀ e, m.stage id ≠ .over e) (hlive : σ ≠ .over (.error .endless))
    (he : p.EndsWith endpoint network draw now frail id
      (p.taskFinish endpoint network draw now id σ)) :
    p.Sound endpoint network draw now frail (m.move id σ) where
  finish id' hid' := by
    rcases eq_or_ne id' id with rfl | hne
    · rw [Snapshot.stage_move]
      exact he
    · rw [m.stage_move_of_ne id σ hne]
      exact hs.finish id' hid'
  not_endless id' := by
    rcases eq_or_ne id' id with rfl | hne
    · rw [Snapshot.stage_move]
      exact hlive
    · rw [m.stage_move_of_ne id σ hne]
      exact hs.not_endless id'
  stage_of_mem e he := by
    obtain ⟨hid', hstage⟩ := hs.stage_of_mem e he
    have hne : e.1 ≠ id := by
      rintro rfl
      exact hover e.2 hstage
    exact ⟨hid', (m.stage_move_of_ne id σ hne).trans hstage⟩
  nodup := hs.nodup

theorem Step.sound (h : p.Step endpoint network draw now frail m m')
    (hs : p.Sound endpoint network draw now frail m) :
    p.Sound endpoint network draw now frail m' := by
  cases h with
  | @move id σ hid h =>
    -- A step of its session leaves unchanged what becomes of a task.
    refine hs.move h.ne_over h.ne_endless ?_
    rw [taskFinish, h.finish_eq]
    exact hs.finish id hid
  | panic hid hf hh h =>
    -- A panic is an end that a frail task can have, but it is not a wait without end.
    refine hs.move h (fun hover ↦ ?_) (.inr ⟨hf, _, rfl⟩)
    cases hover
    exact hh rfl
  | @join id e hid h hnew =>
    refine ⟨hs.finish, hs.not_endless, fun e' he' ↦ ?_, ?_⟩
    · rcases List.mem_append.mp he' with he' | he'
      · exact hs.stage_of_mem e' he'
      · rw [List.mem_singleton.mp he']
        exact ⟨hid, h⟩
    · rw [Snapshot.joined_join]
      exact List.nodup_append.mpr ⟨hs.nodup, List.nodup_singleton id, fun a ha b hb hab ↦
        hnew (by rwa [← List.mem_singleton.mp hb, ← hab])⟩

theorem Reachable.sound (h : p.Reachable endpoint network draw now frail m) :
    p.Sound endpoint network draw now frail m := by
  induction h with
  | refl => exact sound_initial
  | tail _ hstep ih => exact hstep.sound ih

/-- A task that has been joined has ended as it can. -/
theorem Reachable.ends (h : p.Reachable endpoint network draw now frail m) {id : Nat} {e : TaskEnd}
    (he : (id, e) ∈ m.ends) :
    id ∈ p.ids ∧ p.EndsWith endpoint network draw now frail id e ∧ e ≠ .error .endless := by
  obtain ⟨hid, hstage⟩ := h.sound.stage_of_mem _ he
  have hfinish := h.sound.finish id hid
  have hlive := h.sound.not_endless id
  rw [hstage] at hfinish hlive
  exact ⟨hid, hfinish, fun hend ↦ hlive (congrArg Stage.over hend)⟩

/-! ## What is joined -/

/-- Where no key comes twice, looking up a key finds what stands with it. -/
theorem lookup_eq_some_iff_mem {ends : List (Nat × TaskEnd)} (hn : (ends.map Prod.fst).Nodup)
    {id : Nat} {e : TaskEnd} : ends.lookup id = some e ↔ (id, e) ∈ ends := by
  induction ends with
  | nil => exact ⟨nofun, nofun⟩
  | cons x rest ih =>
    obtain ⟨key, e'⟩ := x
    obtain ⟨hkey, hn⟩ := List.nodup_cons.mp hn
    rw [List.lookup_cons, List.mem_cons]
    rcases eq_or_ne id key with rfl | hne
    · have hout : (id, e) ∉ rest := fun he ↦ hkey (List.mem_map.mpr ⟨(id, e), he, rfl⟩)
      rw [beq_self_eq_true]
      simp [hout, eq_comm]
    · rw [beq_eq_false_iff_ne.mpr hne]
      simp [hne, ih hn]

theorem Reachable.ended_of_mem (h : p.Reachable endpoint network draw now frail m) {id : Nat}
    {e : TaskEnd} (he : (id, e) ∈ m.ends) : m.ended id = e := by
  rw [Snapshot.ended, (lookup_eq_some_iff_mem h.sound.nodup).mpr he, Option.getD_some]

theorem Reachable.lookup_ends (h : p.Reachable endpoint network draw now frail m) (ho : p.Over m)
    {id : Nat} (hid : id ∈ p.ids) : m.ends.lookup id = some (m.ended id) := by
  obtain ⟨⟨id', e⟩, he, hid'⟩ := List.mem_map.mp (ho id hid)
  obtain rfl : id' = id := hid'
  rw [h.ended_of_mem he]
  exact (lookup_eq_some_iff_mem h.sound.nodup).mpr he

theorem Reachable.mem_ends (h : p.Reachable endpoint network draw now frail m) (ho : p.Over m)
    {id : Nat} (hid : id ∈ p.ids) : (id, m.ended id) ∈ m.ends :=
  (lookup_eq_some_iff_mem h.sound.nodup).mp (h.lookup_ends ho hid)

theorem Reachable.ended (h : p.Reachable endpoint network draw now frail m) (ho : p.Over m)
    {id : Nat} (hid : id ∈ p.ids) : p.EndsWith endpoint network draw now frail id (m.ended id) :=
  (h.ends (h.mem_ends ho hid)).2.1

/-- If no task may panic, each ends as it does alone. -/
theorem Reachable.ended_eq_task (h : p.Reachable endpoint network draw now ∅ m) (ho : p.Over m)
    {id : Nat} (hid : id ∈ p.ids) : m.ended id = p.task endpoint network draw now id :=
  (h.ended ho hid).resolve_right fun hpanic ↦ Set.notMem_empty id hpanic.1

/-- Once all tasks are joined, there is an attempt of each of them. -/
theorem Reachable.gather_eq (h : p.Reachable endpoint network draw now frail m) (ho : p.Over m) :
    p.gather endpoint m.ends = p.ids.map fun id ↦ (m.ended id).attempt id endpoint.uri := by
  rw [gather, ← List.filterMap_eq_map]
  refine List.filterMap_congr fun id hid ↦ ?_
  rw [h.lookup_ends ho hid]
  rfl

/-- Once all tasks are joined, only the order in which they were is left open. -/
theorem Reachable.ends_perm (h : p.Reachable endpoint network draw now frail m) (ho : p.Over m) :
    m.ends.Perm (p.ids.map fun id ↦ (id, m.ended id)) := by
  have hn : (p.ids.map fun id ↦ (id, m.ended id)).Nodup :=
    (nodup_ids p).map fun _ _ heq ↦ congrArg Prod.fst heq
  refine (List.perm_ext_iff_of_nodup h.sound.nodup.of_map hn).mpr ?_
  rintro ⟨id, e⟩
  rw [List.mem_map]
  constructor
  · intro he
    exact ⟨id, (h.ends he).1, congrArg (Prod.mk id) (h.ended_of_mem he)⟩
  · rintro ⟨id', hid, heq⟩
    cases heq
    exact h.mem_ends ho hid

/-! ## The order in which tasks end -/

section Order

variable {ends ends' : List (Nat × TaskEnd)}

theorem gather_perm (hn : (ends.map Prod.fst).Nodup) (h : ends.Perm ends') :
    p.gather endpoint ends = p.gather endpoint ends' := by
  have hn' := ((h.map Prod.fst).nodup_iff).mp hn
  have hl : ∀ id, ends.lookup id = ends'.lookup id := by
    intro id
    refine Option.ext fun e ↦ ?_
    rw [lookup_eq_some_iff_mem hn, lookup_eq_some_iff_mem hn', h.mem_iff]
  rw [gather, gather]
  simp only [hl]

theorem elapsed_perm (h : ends.Perm ends') : elapsed now ends = elapsed now ends' := by
  have hmax : (ends.map fun e ↦ e.2.finished now).foldl max now =
      (ends'.map fun e ↦ e.2.finished now).foldl max now :=
    (h.map _).foldl_eq' (fun _ _ _ _ _ ↦ Nat.max_right_comm ..) now
  rw [elapsed, elapsed, hmax]

/-- The report takes no notice of the order in which tasks end. -/
theorem reportOn_perm (hn : (ends.map Prod.fst).Nodup) (h : ends.Perm ends') :
    p.reportOn endpoint now ends = p.reportOn endpoint now ends' := by
  rw [reportOn, reportOn, gather_perm hn h, elapsed_perm h]

end Order

theorem Reachable.reportOn_eq (h : p.Reachable endpoint network draw now frail m) (ho : p.Over m) :
    p.reportOn endpoint now m.ends =
      p.reportOn endpoint now (p.ids.map fun id ↦ (id, m.ended id)) :=
  reportOn_perm h.sound.nodup (h.ends_perm ho)

/-! ## One task after the other -/

/-- What a task does alone it does in a load run, where the others stand still. -/
theorem steps_of_leads {id : Nat} {σ : Stage} (hid : id ∈ p.ids)
    (h : Relation.ReflTransGen (p.TaskStep endpoint network draw now id) (m.stage id) σ) :
    p.Steps endpoint network draw now frail m (m.move id σ) := by
  have hlift : ∀ σ σ', p.TaskStep endpoint network draw now id σ σ' →
      p.Step endpoint network draw now frail (m.move id σ) (m.move id σ') := by
    intro σ σ' hstep
    rw [← Snapshot.stage_move m id σ] at hstep
    rw [← Snapshot.move_move m id σ σ']
    exact .move hid hstep
  have hrun : p.Steps endpoint network draw now frail (m.move id (m.stage id)) (m.move id σ) :=
    Relation.ReflTransGen.lift (m.move id) hlift _ _ h
  rwa [Snapshot.move_stage] at hrun

/-- Tasks that have done nothing yet can be run and joined in order, if each of them ends. -/
theorem exists_steps {l : List Nat} (hids : ∀ id ∈ l, id ∈ p.ids) (hn : l.Nodup)
    (hb : ∀ id ∈ l, m.stage id = .begun ∧ id ∉ m.joined)
    (hend : ∀ id ∈ l, p.task endpoint network draw now id ≠ .error .endless) :
    ∃ m', p.Steps endpoint network draw now frail m m' ∧
      m'.ends = m.ends ++ l.map fun id ↦ (id, p.task endpoint network draw now id) := by
  -- Each task in turn is run to its end, with the others standing still, and joined.
  induction l generalizing m with
  | nil => exact ⟨m, .refl, (List.append_nil _).symm⟩
  | cons id rest ih =>
    obtain ⟨hid, hids⟩ := List.forall_mem_cons.mp hids
    obtain ⟨hnew, hn⟩ := List.nodup_cons.mp hn
    obtain ⟨⟨hbegun, hjoin⟩, hb⟩ := List.forall_mem_cons.mp hb
    obtain ⟨hlive, hend⟩ := List.forall_mem_cons.mp hend
    have hrun : p.Steps endpoint network draw now frail m
        (m.move id (.over (p.task endpoint network draw now id))) := by
      refine steps_of_leads hid ?_
      rw [hbegun]
      exact Stage.begun_leads hlive
    have hjoined : p.Step endpoint network draw now frail _ _ :=
      .join hid (Snapshot.stage_move m id (.over (p.task endpoint network draw now id))) hjoin
    generalize hm : Snapshot.join _ id _ = mid at hjoined
    have hrest : ∀ id' ∈ rest, mid.stage id' = .begun ∧ id' ∉ mid.joined := by
      intro id' hid'
      have hne : id' ≠ id := fun heq ↦ hnew (heq ▸ hid')
      subst hm
      rw [Snapshot.joined_join, List.mem_append, List.mem_singleton]
      exact ⟨(m.stage_move_of_ne id _ hne).trans (hb id' hid').1,
        fun h ↦ h.elim (hb id' hid').2 hne⟩
    obtain ⟨m', hm', hends⟩ := ih hids hn hrest hend
    refine ⟨m', (hrun.tail hjoined).trans hm', ?_⟩
    rw [hends, ← hm, Snapshot.ends_join, Snapshot.ends_move, List.append_assoc]
    rfl

/-- A load run in which each task ends can get to where all are joined, in the order of their ids.
-/
theorem exists_reachable (frail : Set Nat)
    (hend : ∀ id ∈ p.ids, p.task endpoint network draw now id ≠ .error .endless) :
    ∃ m, p.Reachable endpoint network draw now frail m ∧ p.Over m ∧
      m.ends = p.ids.map fun id ↦ (id, p.task endpoint network draw now id) := by
  obtain ⟨m, hm, hends⟩ : ∃ m, p.Reachable endpoint network draw now frail m ∧ m.ends = _ :=
    exists_steps (fun _ hid ↦ hid) (nodup_ids p) (fun _ _ ↦ ⟨rfl, List.not_mem_nil⟩) hend
  rw [Snapshot.initial, List.nil_append] at hends
  refine ⟨m, hm, fun id hid ↦ ?_, hends⟩
  rw [Snapshot.joined, hends, List.map_map]
  exact List.mem_map.mpr ⟨id, hid, rfl⟩

theorem isEndless_iff {e : TaskEnd} : e.isEndless = true ↔ e = .error .endless := by
  unfold TaskEnd.isEndless
  split
  · exact iff_of_true rfl rfl
  · rename_i hne
    exact iff_of_false Bool.false_ne_true hne

/-- The report of a run in which each task ends. -/
theorem run_of_ends (hend : ∀ id ∈ p.ids, p.task endpoint network draw now id ≠ .error .endless) :
    Course.report <$> p.run endpoint network draw now =
      p.reportOn endpoint now (p.ids.map fun id ↦ (id, p.task endpoint network draw now id)) := by
  have hany : ((p.ids.map fun id ↦ (id, p.task endpoint network draw now id)).any
      fun e ↦ TaskEnd.isEndless e.2) = false := by
    rw [List.any_eq_false]
    intro e he
    obtain ⟨id, hid, rfl⟩ := List.mem_map.mp he
    exact mt isEndless_iff.mp (hend id hid)
  rw [run]
  simp only [hany]
  rw [if_neg Bool.false_ne_true]
  cases p.reportOn endpoint now _ <;> rfl

/-- A run has no end if one of its tasks has none. -/
theorem run_of_endless {id : Nat} (hid : id ∈ p.ids)
    (h : p.task endpoint network draw now id = .error .endless) :
    p.run endpoint network draw now = .error .endless := by
  have hany : ((p.ids.map fun id ↦ (id, p.task endpoint network draw now id)).any
      fun e ↦ TaskEnd.isEndless e.2) = true :=
    List.any_eq_true.mpr ⟨_, List.mem_map.mpr ⟨id, hid, rfl⟩, isEndless_iff.mpr h⟩
  rw [run]
  simp only [hany]
  rfl

/-- A run has no end, since one of its tasks has none, or it reports on what the tasks end with. -/
theorem run_cases (p : LoadPlan) (endpoint : Endpoint) (network : Network)
    (draw : Nat → Scenario.Draw) (now : Nat) :
    (p.run endpoint network draw now = .error .endless ∧
        ∃ id ∈ p.ids, p.task endpoint network draw now id = .error .endless) ∨
      ∃ m, p.Reachable endpoint network draw now ∅ m ∧ p.Over m ∧
        Course.report <$> p.run endpoint network draw now = p.reportOn endpoint now m.ends := by
  by_cases hend : ∀ id ∈ p.ids, p.task endpoint network draw now id ≠ .error .endless
  · obtain ⟨m, hm, ho, hends⟩ := exists_reachable ∅ hend
    refine .inr ⟨m, hm, ho, ?_⟩
    rw [hends]
    exact run_of_ends hend
  · push Not at hend
    obtain ⟨id, hid, h⟩ := hend
    exact .inl ⟨run_of_endless hid h, id, hid, h⟩

/-- The report on tasks that may not panic is that of the run. -/
theorem Reachable.run_eq (h : p.Reachable endpoint network draw now ∅ m) (ho : p.Over m) :
    Course.report <$> p.run endpoint network draw now = p.reportOn endpoint now m.ends := by
  have hlive : ∀ id ∈ p.ids, p.task endpoint network draw now id ≠ .error .endless := by
    intro id hid
    rw [← h.ended_eq_task ho hid]
    exact (h.ends (h.mem_ends ho hid)).2.2
  rw [h.reportOn_eq ho, run_of_ends hlive]
  exact congrArg _ (List.map_congr_left fun id hid ↦ by rw [h.ended_eq_task ho hid])

end Lockstep.LoadPlan

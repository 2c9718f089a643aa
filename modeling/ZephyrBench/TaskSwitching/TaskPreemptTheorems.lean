/-
ZephyrBench.TaskSwitching.TaskPreemptTheorems — what `task_preempt` measures.

`taskPreempt_settles`: both scenarios record `MEASUREMENT_COUNT` samples, for
every number of dummy tasks and every documented kernel. When a start marker is
taken `H_Task_SA` is suspended, so the resume of the window is the one that is
measured; in S_B all dummy tasks are ready by then and none of them runs.

## How the proof goes

S_A is a loop of one pass (`passSA`) between `L_Task_SA` and `H_Task_SA`. At its
end `H_Task_SA` suspends both, and it stays suspended at the end of its loop
body: when S_B lets it go on, it only suspends itself again.

A pass of S_B is four stretches of `Task_SB`: it resumes the dummy tasks
(`resumeDummy`), suspends `H_Task_SA` (`suspendHigh`), takes the sample
(`sampleSB`), suspends the dummy tasks (`suspendDummy`). `RunsSB` has what they
share. The dummy tasks enter the ready queue in priority order and in front of
`H_Task_SA`, which is still ready from the pass before (`backSB`); the lower
bound on their priorities keeps them behind `Task_SB`, the upper bound in front
of `H_Task_SA`.

In the last pass `Task_SB` suspends itself before the dummy tasks are suspended,
so each of them gets the CPU once, and then `H_Task_SA` (`endSB`). Only after
that `I_Task` is alone, which is why `Final` says more than that the series are
complete.
-/
import ZephyrBench.TaskSwitching.Dummies
import ZephyrBench.TaskSwitching.TaskPreempt

namespace ZephyrBench.TaskSwitching.TaskPreempt

open Rtos Rtos.Exec Thread Object Series Marker

variable {B : Bmth} (cfg : Config)

/-! ## 1. What is claimed of every state -/

/-- The window of a sample of S_A, latest entry first. -/
def windowSA : List (HistEntry EntryFn) :=
  [ .exec saHighPrioThread (.prim (.getStopCnt testStopTime)),
    .switch (some saLowPrioThread) (some saHighPrioThread),
    .exec saLowPrioThread (.call (.kThreadResume saHighPrioThread)),
    .exec saLowPrioThread (.prim (.getStartCnt testStartTime)) ]

/-- The window of a sample of S_B. -/
def windowSB : List (HistEntry EntryFn) :=
  [ .exec sbThread (.prim (.getStopCnt testStopTime)),
    .exec sbThread (.call (.kThreadResume saHighPrioThread)),
    .exec sbThread (.prim (.getStartCnt testStartTime)) ]

/-- What `t` is about to execute finds the state as it should be. From its
creation until it suspends itself, `Task_SB` is the only task that runs. -/
def Good (s : TestState B EntryFn) : Prop :=
  s.AtStmt fun t (st : Statement B EntryFn) =>
    (s.kern.alive sbThread = true → s.kern.suspended sbThread = false → t = sbThread) ∧
    match st with
    | .prim (.mseriesIterate scenarioA start stop _) =>
      t = saHighPrioThread ∧ s.kern.alive sbThread = false ∧ s.mem.isOpen scenarioA = true ∧
        s.Window start stop windowSA
    | .prim (.mseriesIterate scenarioB start stop _) =>
      t = sbThread ∧ s.mem.isOpen scenarioB = true ∧ s.Window start stop windowSB
    | .prim (.getStartCnt _) =>
      s.kern.suspended saHighPrioThread = true ∧ (t = saLowPrioThread ∨ t = sbThread ∧
        ∃ q, q.Perm ((List.range cfg.dummyCount).map sbDummyThreads) ∧
          s.kern.readyq = sbThread :: (q ++ [idleThread]))
    | .prim (.getStopCnt _) =>
      t = saHighPrioThread ∧ s.kern.alive sbThread = false ∨
        t = sbThread ∧ s.kern.suspended sbThread = false
    | _ => True

/-- `I_Task` is in its last loop with all samples recorded; `Task_SB` and
`H_Task_SA` have suspended themselves. -/
abbrev Final : TestState B EntryFn → Prop :=
  Settled .idleThread outliers fun k series =>
    k.suspended sbThread = true ∧ k.suspended saHighPrioThread = true ∧
      B.iterationCount (series scenarioA) = cfg.measurementCount ∧
      B.iterationCount (series scenarioB) = cfg.measurementCount

/-! ## 2. S_A -/

/-- `L_Task_SA` runs and is about to take sample `n + 1`. -/
structure HeadSA (n : Nat) (s : TestState B EntryFn) : Prop where
  runs : s.Runs saLowPrioThread [saLowPrioThread, idleThread]
  irq : s.NoIrq
  idle : s.ThreadAt idleThread taskIdlePrio false .no
    (kcall (.kThreadAbort saLowPrioThread) :: iTaskSB cfg)
  low : s.ThreadAt saLowPrioThread taskSaLowPrio false .no [.loop lTaskSALoop]
  high : s.ThreadAt saHighPrioThread taskSaHighPrio true .no
    ((hTaskSALoop cfg).tail ++ [.loop (hTaskSALoop cfg)])
  alive : s.kern.alive sbThread = false
  countA : s.mem.count scenarioA = n
  countB : s.mem.count scenarioB = 0

attribute [local simp] Good State.Window windowSA windowSB taskIdlePrio taskSaLowPrio
  taskSaHighPrio taskSbHighPrio startEventMask lTaskSALoop hTaskSALoop taskSBSample taskSBLoop
  body lTaskSA hTaskSA taskSB dummyTaskB complete

theorem boot_leads :
    Leads (program (body cfg)).next (Good (B := B) cfg) (start (body cfg) .iTask)
      (HeadSA cfg 0) := by
  iterate 8
    refine .step (by simp [start, iTask, Kernel.boot]) ?_
    simp [start, iTask, Kernel.boot]
  refine .done ?_
  constructor <;> simp [Mem.initial]

theorem passSA {n : Nat} (hn : n < cfg.measurementCount - 1) (s : TestState B EntryFn)
    (h : HeadSA cfg n s) :
    Leads (program (body cfg)).next (Good cfg) s (HeadSA cfg (n + 1)) := by
  have hn' : ¬ cfg.measurementCount ≤ n + 1 := by omega
  cases h
  -- L_Task_SA takes the start marker and resumes H_Task_SA
  iterate 6
    refine .step (by simp [*]) ?_
    simp [*]
  -- H_Task_SA takes the stop marker, records and suspends itself
  iterate 6
    refine .step (by simp [*]) ?_
    simp [*]
  refine .done ?_
  constructor <;> simp [*]

/-- S_A is over; `I_Task` is about to create dummy task `i` of S_B. -/
structure CreatingSB (i : Nat) (s : TestState B EntryFn) : Prop where
  runs : s.Runs idleThread [idleThread]
  irq : s.NoIrq
  idle : s.ThreadAt idleThread taskIdlePrio false .no
    (createDummies sbDummyThreads .dummyTaskB cfg.sbDummyPrios cfg.dummyCount i ::
      kcall (.kThreadCreate sbThread .taskSB taskSbHighPrio) :: verdictLoop)
  high : s.ThreadAt saHighPrioThread taskSaHighPrio true .no [.loop (hTaskSALoop cfg)]
  alive : s.kern.alive sbThread = false
  dummies : ∀ j < i, s.ThreadAt (sbDummyThreads j) (cfg.sbDummyPrios j) true .no dummyTaskB
  countA : s.mem.count scenarioA = cfg.measurementCount
  countB : s.mem.count scenarioB = 0

/-- After the last sample `H_Task_SA` suspends `L_Task_SA` and itself. -/
theorem endSA (s : TestState B EntryFn) (h : HeadSA cfg (cfg.measurementCount - 1) s) :
    Leads (program (body cfg)).next (Good cfg) s (CreatingSB cfg 0) := by
  have hN : cfg.measurementCount - 1 + 1 = cfg.measurementCount :=
    Nat.sub_add_cancel cfg.one_le_measurementCount
  cases h
  iterate 12
    refine .step (by simp [*]) ?_
    simp [*]
  refine .step (by simp [*]) ?_
  simp [*, iTaskSB]
  refine .done ?_
  constructor <;> simp [*]

/-! ## 3. S_B -/

theorem dummyPrio_bounds_SB : ∀ i < cfg.dummyCount,
    2 ≤ cfg.sbDummyPrios i ∧ cfg.sbDummyPrios i < 8 ∧ cfg.sbDummyPrios i < 15 := by
  intro i hi
  have h := cfg.sbDummyPrios_between i hi
  simp only [taskSbHighPrio, taskSaHighPrio] at h
  omega

theorem createDummy {i : Nat} (hi : i < cfg.dummyCount) (s : TestState B EntryFn)
    (h : CreatingSB cfg i s) :
    Leads (program (body cfg)).next (Good cfg) s (CreatingSB cfg (i + 1)) := by
  have hlow : ¬ 15 ≤ cfg.sbDummyPrios i := Nat.not_le.mpr (dummyPrio_bounds_SB cfg i hi).2.2
  cases h
  iterate 4
    refine .step (by simp [*, createDummies]) ?_
    simp [*, createDummies]
  refine .done ?_
  constructor <;> simp +contextual [*, createDummies, ↓Nat.forall_lt_succ_right, Nat.ne_of_lt]

/-- `H_Task_SA` in the ready queue, once it has been resumed. -/
def backSB (i : Nat) : List Thread :=
  if i = 0 then [idleThread] else [saHighPrioThread, idleThread]

/-- The tasks of S_B while `Task_SB` runs, with `i` samples recorded; `code` is
what is left of `Task_SB`. -/
structure RunsSB (i : Nat) (code : Code B EntryFn) (s : TestState B EntryFn) : Prop where
  current : s.kern.current = some sbThread
  irq : s.NoIrq
  idle : s.ThreadAt idleThread taskIdlePrio false .no verdictLoop
  task : s.ThreadAt sbThread taskSbHighPrio false .no code
  high : s.kern.prio saHighPrioThread = taskSaHighPrio ∧ s.kern.pend saHighPrioThread = .no ∧
    s.code saHighPrioThread = [.loop (hTaskSALoop cfg)]
  dummies : ∀ j < cfg.dummyCount, s.kern.prio (sbDummyThreads j) = cfg.sbDummyPrios j ∧
    s.kern.pend (sbDummyThreads j) = .no ∧ s.code (sbDummyThreads j) = dummyTaskB
  countA : s.mem.count scenarioA = cfg.measurementCount
  countB : s.mem.count scenarioB = i

/-- `Task_SB` makes the dummy tasks ready, the first `j` so far. -/
structure ResumingSB (i j : Nat) (s : TestState B EntryFn) : Prop
    extends RunsSB cfg i
      (resumeDummies cfg j :: (taskSBSample cfg ++ [.loop (taskSBLoop cfg)])) s where
  readyq : s.kern.readyq =
    sbThread :: ((dummyOrder cfg.sbDummyPrios j).map sbDummyThreads ++ backSB i)
  highSuspended : s.kern.suspended saHighPrioThread = decide (i = 0)
  ready : ∀ k < j, s.kern.suspended (sbDummyThreads k) = false
  suspended : ∀ k < cfg.dummyCount, j ≤ k → s.kern.suspended (sbDummyThreads k) = true

/-- `Task_SB` suspends the dummy tasks after its sample, the first `j` so far. -/
structure SuspendingSB (i j : Nat) (s : TestState B EntryFn) : Prop
    extends RunsSB cfg i [suspendDummies cfg j, .loop (taskSBLoop cfg)] s where
  readyq : ∃ q, q.Perm ((List.range' j (cfg.dummyCount - j)).map sbDummyThreads) ∧
    s.kern.readyq = sbThread :: (q ++ [saHighPrioThread, idleThread])
  highSuspended : s.kern.suspended saHighPrioThread = false
  suspended : ∀ k < j, s.kern.suspended (sbDummyThreads k) = true
  ready : ∀ k < cfg.dummyCount, j ≤ k → s.kern.suspended (sbDummyThreads k) = false

theorem startSB (s : TestState B EntryFn) (h : CreatingSB cfg cfg.dummyCount s) :
    Leads (program (body cfg)).next (Good cfg) s (ResumingSB cfg 0 0) := by
  cases h
  iterate 3
    refine .step (by simp [*, createDummies]) ?_
    simp [*, createDummies]
  refine .done ?_
  constructor
  · constructor <;> simp +contextual [*]
  all_goals simp +contextual [*, dummyOrder, sortPrio, backSB]

theorem resumeDummy {i j : Nat} (hj : j < cfg.dummyCount) (s : TestState B EntryFn)
    (h : ResumingSB cfg i j s) :
    Leads (program (body cfg)).next (Good cfg) s (ResumingSB cfg i (j + 1)) := by
  have hlt := dummyPrio_bounds_SB cfg j hj
  obtain ⟨⟨_, _, _, _, _, _, _, _⟩, _, _, _, hsuspended⟩ := h
  have hj' := hsuspended j hj (Nat.le_refl j)
  have hback : ∀ u ∈ backSB i, s.kern.prio (sbDummyThreads j) < s.kern.prio u := by
    unfold backSB
    split <;> simp [*]
  have hins : insertPrio s.kern.prio (sbDummyThreads j)
      ((dummyOrder cfg.sbDummyPrios j).map sbDummyThreads ++ backSB i) =
      (dummyOrder cfg.sbDummyPrios (j + 1)).map sbDummyThreads ++ backSB i := by
    rw [insertPrio_append_of_lt hback, insertPrio_dummy]
    intro k hk
    have hk' : k < cfg.dummyCount := by omega
    simp [*]
  iterate 2
    refine .step (by simp [*, resumeDummies]) ?_
    simp [*, resumeDummies]
  refine .done ?_
  constructor
  · constructor <;> simp +contextual [*, resumeDummies]
  all_goals simp +contextual [*, ↓Nat.forall_lt_succ_right]
  intro k hk hjk
  have hne : k ≠ j := by omega
  exact ⟨hne, hsuspended k hk (by omega)⟩

/-- The dummy tasks of S_B, ready, in priority order. -/
def dummiesSB : List Thread := (dummyOrder cfg.sbDummyPrios cfg.dummyCount).map sbDummyThreads

@[local simp] theorem mem_dummiesSB {t : Thread} :
    t ∈ dummiesSB cfg ↔ ∃ i < cfg.dummyCount, sbDummyThreads i = t := by
  simp [dummiesSB]

theorem dummiesSB_perm :
    (dummiesSB cfg).Perm ((List.range cfg.dummyCount).map sbDummyThreads) :=
  dummyOrder_perm.map _

/-- `Task_SB` is about to open the window of sample `i + 1`: the dummy tasks
are ready, `H_Task_SA` is suspended. -/
structure SampleSB (i : Nat) (s : TestState B EntryFn) : Prop
    extends RunsSB cfg i ((taskSBSample cfg).tail ++ [.loop (taskSBLoop cfg)]) s where
  readyq : s.kern.readyq = sbThread :: (dummiesSB cfg ++ [idleThread])
  highSuspended : s.kern.suspended saHighPrioThread = true
  ready : ∀ k < cfg.dummyCount, s.kern.suspended (sbDummyThreads k) = false

/-- `Task_SB` suspends `H_Task_SA`, which is still ready from the last pass, if
there was one. -/
theorem suspendHigh {i : Nat} (s : TestState B EntryFn) (h : ResumingSB cfg i cfg.dummyCount s) :
    Leads (program (body cfg)).next (Good cfg) s (SampleSB cfg i) := by
  obtain ⟨⟨_, _, _, _, _, _, _, _⟩, _, _, _, _⟩ := h
  refine .step (by simp [*, resumeDummies]) ?_
  simp [*, resumeDummies]
  by_cases hi : i = 0
  · refine .step (by simp [*]) ?_
    simp [*]
    refine .done ?_
    constructor
    · constructor <;> simp +contextual [*, resumeDummies]
    all_goals simp +contextual [*, dummiesSB, backSB]
  · have herase : (dummiesSB cfg ++ [saHighPrioThread, idleThread]).erase saHighPrioThread =
        dummiesSB cfg ++ [idleThread] := by
      rw [List.erase_append_right _ (by simp)]
      simp
    rw [dummiesSB] at herase
    refine .step (by simp [*]) ?_
    simp [*, backSB]
    refine .done ?_
    constructor
    · constructor <;> simp +contextual [*, resumeDummies]
    all_goals simp +contextual [*, dummiesSB]

/-- A sample of S_B that does not end the scenario. -/
theorem sampleSB {i : Nat} (hi : i < cfg.measurementCount - 1) (s : TestState B EntryFn)
    (h : SampleSB cfg i s) :
    Leads (program (body cfg)).next (Good cfg) s (SuspendingSB cfg (i + 1) 0) := by
  have hi' : ¬ cfg.measurementCount ≤ i + 1 := by omega
  have hlt := dummyPrio_bounds_SB cfg
  have hperm := dummiesSB_perm cfg
  obtain ⟨⟨_, _, _, _, _, _, _, _⟩, _, _, _⟩ := h
  have hins : insertPrio s.kern.prio saHighPrioThread (dummiesSB cfg ++ [idleThread]) =
      dummiesSB cfg ++ [saHighPrioThread, idleThread] :=
    insertPrio_between (b := [idleThread])
      (by simpa +contextual [*] using fun j hj => Nat.le_of_lt (hlt j hj).2.1) (by simp [*])
  iterate 8
    refine .step (by simp [*]) ?_
    simp [*]
  refine .done ?_
  constructor
  · constructor <;> simp +contextual [*]
  · exact ⟨dummiesSB cfg, by rwa [Nat.sub_zero, ← List.range_eq_range'], by simp⟩
  all_goals simp +contextual [*]

theorem suspendDummy {i j : Nat} (hj : j < cfg.dummyCount) (s : TestState B EntryFn)
    (h : SuspendingSB cfg i j s) :
    Leads (program (body cfg)).next (Good cfg) s (SuspendingSB cfg i (j + 1)) := by
  obtain ⟨⟨_, _, _, _, _, _, _, _⟩, ⟨q, hperm, _⟩, _, _, hready⟩ := h
  have hj' := hready j hj (Nat.le_refl j)
  have hd : cfg.dummyCount - j = cfg.dummyCount - (j + 1) + 1 := by omega
  rw [hd, List.range'_succ, List.map_cons] at hperm
  have hmem : sbDummyThreads j ∈ q := hperm.mem_iff.mpr List.mem_cons_self
  have herase : (q ++ [saHighPrioThread, idleThread]).erase (sbDummyThreads j) =
      q.erase (sbDummyThreads j) ++ [saHighPrioThread, idleThread] :=
    List.erase_append_left _ hmem
  have hperm' : (q.erase (sbDummyThreads j)).Perm
      ((List.range' (j + 1) (cfg.dummyCount - (j + 1))).map sbDummyThreads) := by
    simpa using hperm.erase (sbDummyThreads j)
  iterate 2
    refine .step (by simp [*, suspendDummies]) ?_
    simp [*, suspendDummies]
  refine .done ?_
  constructor
  · constructor <;> simp +contextual [*, suspendDummies]
  · exact ⟨_, hperm', by simp [*]⟩
  all_goals simp +contextual [*, ↓Nat.forall_lt_succ_right, Nat.ne_of_lt]
  intro k hk hjk
  have hne : k ≠ j := by omega
  exact ⟨hne, hready k hk (by omega)⟩

/-- `Task_SB` begins the next pass: only `H_Task_SA` is still ready. -/
theorem nextSB {i : Nat} (s : TestState B EntryFn)
    (h : SuspendingSB cfg (i + 1) cfg.dummyCount s) :
    Leads (program (body cfg)).next (Good cfg) s (ResumingSB cfg (i + 1) 0) := by
  obtain ⟨⟨_, _, _, _, _, _, _, _⟩, ⟨q, hperm, _⟩, _, _, _⟩ := h
  have hnil : q = [] := by simpa using hperm
  iterate 2
    refine .step (by simp [*, suspendDummies]) ?_
    simp [*, suspendDummies]
  refine .done ?_
  constructor
  · constructor <;> simp +contextual [*, suspendDummies]
  all_goals simp +contextual [*, dummyOrder, sortPrio, backSB]

/-- A whole pass of S_B. -/
theorem passSB {i : Nat} (hi : i < cfg.measurementCount - 1) (s : TestState B EntryFn)
    (h : ResumingSB cfg i 0 s) :
    Leads (program (body cfg)).next (Good cfg) s (ResumingSB cfg (i + 1) 0) := by
  refine (Leads.loop (S := ResumingSB cfg i) (fun j hj => resumeDummy cfg hj) h).bind ?_
  intro s h
  refine (suspendHigh cfg s h).bind ?_
  intro s h
  refine (sampleSB cfg hi s h).bind ?_
  intro s h
  refine (Leads.loop (S := SuspendingSB cfg (i + 1))
    (fun j hj => suspendDummy cfg hj) h).bind ?_
  intro s h
  exact nextSB cfg s h

/-- `Task_SB` has suspended itself; the dummy tasks `a` have done so too. -/
structure EndingSB (a b : List Nat) (s : TestState B EntryFn) : Prop where
  current : s.kern.current =
    (b.map sbDummyThreads ++ [saHighPrioThread, idleThread]).head?
  readyq : s.kern.readyq = b.map sbDummyThreads ++ [saHighPrioThread, idleThread]
  irq : s.NoIrq
  idle : s.ThreadAt idleThread taskIdlePrio false .no verdictLoop
  task : s.kern.suspended sbThread = true
  high : s.ThreadAt saHighPrioThread taskSaHighPrio false .no [.loop (hTaskSALoop cfg)]
  dummies : ∀ j ∈ b, s.kern.suspended (sbDummyThreads j) = false ∧
    s.code (sbDummyThreads j) = dummyTaskB
  countA : s.mem.count scenarioA = cfg.measurementCount
  countB : s.mem.count scenarioB = cfg.measurementCount

/-- The last sample of S_B. -/
theorem lastSB (s : TestState B EntryFn) (h : SampleSB cfg (cfg.measurementCount - 1) s) :
    Leads (program (body cfg)).next (Good cfg) s
      (EndingSB cfg [] (dummyOrder cfg.sbDummyPrios cfg.dummyCount)) := by
  have hN : cfg.measurementCount - 1 + 1 = cfg.measurementCount :=
    Nat.sub_add_cancel cfg.one_le_measurementCount
  have hlt := dummyPrio_bounds_SB cfg
  have hperm := dummiesSB_perm cfg
  obtain ⟨⟨_, _, _, _, _, _, _, _⟩, _, _, _⟩ := h
  have hins : insertPrio s.kern.prio saHighPrioThread (dummiesSB cfg ++ [idleThread]) =
      dummiesSB cfg ++ [saHighPrioThread, idleThread] :=
    insertPrio_between (b := [idleThread])
      (by simpa +contextual [*] using fun j hj => Nat.le_of_lt (hlt j hj).2.1) (by simp [*])
  iterate 9
    refine .step (by simp [*]) ?_
    simp [*]
  refine .done ?_
  constructor <;> simp +contextual [*, dummiesSB]

/-- The dummy tasks and then `H_Task_SA` get the CPU once and suspend
themselves. -/
theorem endSB (s : TestState B EntryFn)
    (h : EndingSB cfg [] (dummyOrder cfg.sbDummyPrios cfg.dummyCount) s) :
    Leads (program (body cfg)).next (Good cfg) s (Final cfg) := by
  refine (Leads.forEach (S := EndingSB cfg) ?_ h).bind fun s h => ?_
  · intro a x b hab s h
    have hb : ∀ j ∈ b, j ≠ x := by
      rintro j hj rfl
      have hnodup : (dummyOrder cfg.sbDummyPrios cfg.dummyCount).Nodup := dummyOrder_nodup
      rw [← hab] at hnodup
      exact (List.nodup_cons.mp (List.nodup_append.mp hnodup).2.1).1 hj
    cases h
    iterate 2
      refine .step (by simp [*]) ?_
      simp [*]
    refine .done ?_
    constructor <;> simp +contextual [*]
  · cases h
    iterate 2
      refine .step (by simp [*]) ?_
      simp [*]
    refine .done ?_
    constructor <;> simp [*, VerdictCode.head]

/-! ## 4. The whole run -/

theorem run_leads :
    Leads (program (body cfg)).next (Good (B := B) cfg) (start (body cfg) .iTask)
      (Final cfg) := by
  refine (boot_leads cfg).bind ?_
  intro s hs
  refine (Leads.loop (S := HeadSA cfg) (fun n hn => passSA cfg hn) hs).bind ?_
  intro s hs
  refine (endSA cfg s hs).bind ?_
  intro s hs
  refine (Leads.loop (S := CreatingSB cfg) (fun i hi => createDummy cfg hi) hs).bind ?_
  intro s hs
  refine (startSB cfg s hs).bind ?_
  intro s hs
  refine (Leads.loop (S := fun i => ResumingSB cfg i 0)
    (fun i hi => passSB cfg hi) hs).bind ?_
  intro s hs
  refine (Leads.loop (S := ResumingSB cfg _) (fun j hj => resumeDummy cfg hj) hs).bind
    ?_
  intro s hs
  refine (suspendHigh cfg s hs).bind ?_
  intro s hs
  exact (lastSB cfg s hs).bind (endSB cfg)

theorem good_of_final (s : TestState B EntryFn) (h : Final cfg s) : Good cfg s := by
  have hsb : s.kern.suspended sbThread = true := h.rest.1
  exact h.atStmt (by simp [hsb]) (by simp [hsb]) (by simp [hsb])

/-- The run over any documented kernel gets to the verdict with
`MEASUREMENT_COUNT` samples in each scenario and with `H_Task_SA` suspended
again; every sample that is recorded has the window it should have, and no
task runs beside `Task_SB`. -/
theorem taskPreempt_settles {K : Type} (Z : Zephyr K Thread Object Empty EntryFn) :
    Ends (run (B := B) Z (body cfg) .iTask) (Final cfg) ∧
      ∀ n, Good cfg (run (B := B) Z (body cfg) .iTask n) :=
  run_of_leads Z (run_leads cfg) (good_of_final cfg)

end ZephyrBench.TaskSwitching.TaskPreempt

/-
ZephyrBench.TaskSwitching.SemBlockTheorems — what `sem_block` measures.

  * `run_settles` — `scenario_a` gets one sample in every `dummy_count + 1`
    iteration cycles and `scenario_b` one in each.
  * `delivers_iff` — so the test delivers `MEASUREMENT_COUNT` samples in each
    scenario exactly when it runs without dummy tasks.
  * `not_delivers_one_dummy` — the smallest run in which it does not.

Every sample that is recorded is a clean one all the same: the window has
nothing but the take of `H_Task_SA` and the switch to `L_Task_SA`.

## How the proof goes

A give reaches the head of the wait queue of `test_sem`. The dummy tasks have the
priority of `H_Task_SA`, so all of them queue up in one order, and a task that is
served queues up again at the end: each pass of S_A rotates the queue by one
place. `HeadSA` therefore says of pass `k` that the queue is `queueSA` rotated
`k` times and that the series has `k / (dummy_count + 1)` samples;
`head_queueSA` says when its head is `H_Task_SA`. `passSA_high` and
`passSA_dummy` are the two kinds of a pass: in the second a dummy task closes the
window, and `L_Task_SA` records nothing.

The rest is as in `event_block`: one pass before there is a start marker, a run
cut at the first signal of S_B, and `semBlock_acknowledged` from the same two
executions.
-/
import Mathlib.Data.List.Rotate
import ZephyrBench.TaskSwitching.Dummies
import ZephyrBench.TaskSwitching.SemBlock
import ZephyrBench.TaskSwitching.Signals

namespace ZephyrBench.TaskSwitching.SemBlock

open Rtos Rtos.Exec Thread Object Series Marker

variable {B : Bmth} (cfg : Config)

/-! ## 1. What is claimed of every state -/

/-- The window of a sample of S_A, latest entry first. -/
def windowSA : List (HistEntry EntryFn) :=
  [ .exec saLowPrioThread (.prim (.getStopCnt testStopTime)),
    .switch (some saHighPrioThread) (some saLowPrioThread),
    .exec saHighPrioThread (.call (.kSemTake testSem .forever)),
    .exec saHighPrioThread (.prim (.getStartCnt testStartTime)) ]

/-- The window of a sample of S_B. -/
def windowSB : List (HistEntry EntryFn) :=
  [ .exec sbHighPrioThread (.prim (.getStopCnt testStopTime)),
    .exec sbHighPrioThread (.call (.kSemTake testSem .noWait)),
    .exec sbHighPrioThread (.prim (.getStartCnt testStartTime)) ]

/-- What `t` is about to execute finds the state as it should be. -/
def Good (s : TestState B EntryFn) : Prop :=
  s.AtStmt fun t (st : Statement B EntryFn) =>
    match st with
    | .prim (.mseriesIterate scenarioA start stop _) =>
      t = saLowPrioThread ∧ (s.mem.isOpen scenarioA = true → s.Window start stop windowSA)
    | .prim (.mseriesIterate scenarioB start stop _) =>
      t = sbHighPrioThread ∧ s.mem.isOpen scenarioB = true ∧ s.Window start stop windowSB
    | .prim (.getStartCnt _) =>
      t = saHighPrioThread → ∀ i < cfg.dummyCount, saDummyThreads i ∈ s.kern.waitq testSem
    | .call c =>
      c s.mem = .kSemTake testSem .noWait →
        t = sbHighPrioThread ∧ s.kern.obj testSem = .sem 0 Kernel.semMaxLimit
    | _ => True

/-! ## 2. The rotation of the wait queue -/

/-- The order in which the tasks of S_A first queue up on `test_sem`. -/
def queueSA : List Thread :=
  (List.range cfg.dummyCount).map saDummyThreads ++ [saHighPrioThread]

theorem mem_queueSA {t : Thread} :
    t ∈ queueSA cfg ↔ (∃ i < cfg.dummyCount, t = saDummyThreads i) ∨ t = saHighPrioThread := by
  simp [queueSA, eq_comm]

theorem length_queueSA : (queueSA cfg).length = cfg.dummyCount + 1 := by
  simp [queueSA]

/-- Giving to the head of the queue and queueing it up again is a rotation. -/
theorem rotate_queueSA_succ {k : Nat} {t : Thread} {q : List Thread}
    (h : (queueSA cfg).rotate k = t :: q) : (queueSA cfg).rotate (k + 1) = q ++ [t] := by
  rw [← List.rotate_rotate, h, List.rotate_cons_succ, List.rotate_zero]

theorem dvd_succ_iff (k d : Nat) : d + 1 ∣ k + 1 ↔ k % (d + 1) = d := by
  have hdiv := Nat.div_add_mod k (d + 1)
  have hlt : k % (d + 1) < d + 1 := Nat.mod_lt k (Nat.succ_pos d)
  have hk : k + 1 = (d + 1) * (k / (d + 1)) + (k % (d + 1) + 1) := by omega
  rw [hk, Nat.dvd_add_right (Nat.dvd_mul_right _ _)]
  constructor
  · intro h
    have := Nat.le_of_dvd (Nat.succ_pos _) h
    omega
  · intro h
    exact ⟨1, by rw [h, Nat.mul_one]⟩

/-- The head of the queue in pass `k` is `H_Task_SA` once in every
`dummy_count + 1` passes. -/
theorem head_queueSA {k : Nat} {t : Thread} {q : List Thread}
    (h : (queueSA cfg).rotate k = t :: q) :
    t = saHighPrioThread ∧ cfg.dummyCount + 1 ∣ k + 1 ∨
      (∃ i < cfg.dummyCount, t = saDummyThreads i) ∧ ¬ cfg.dummyCount + 1 ∣ k + 1 := by
  have hlt : k % (cfg.dummyCount + 1) < cfg.dummyCount + 1 := Nat.mod_lt _ (Nat.succ_pos _)
  have hhead : (queueSA cfg)[k % (cfg.dummyCount + 1)]? = some t := by
    rw [← List.head?_rotate (by rwa [length_queueSA]), ← length_queueSA cfg, List.rotate_mod, h,
      List.head?_cons]
  rw [dvd_succ_iff]
  rcases Nat.lt_or_ge (k % (cfg.dummyCount + 1)) cfg.dummyCount with hi | hi
  · right
    rw [queueSA, List.getElem?_append_left (by simpa using hi)] at hhead
    exact ⟨⟨_, hi, by simpa [hi, eq_comm] using hhead⟩, Nat.ne_of_lt hi⟩
  · left
    have hd : k % (cfg.dummyCount + 1) = cfg.dummyCount := by omega
    rw [hd, queueSA, List.getElem?_append_right (by simp)] at hhead
    exact ⟨by simpa [eq_comm] using hhead, hd⟩

/-! ## 3. S_A -/

/-- At the head of the loop over the iteration cycles of S_A. -/
structure HeadSA (k : Nat) (s : TestState B EntryFn) : Prop where
  runs : s.Runs idleThread [idleThread]
  irq : s.NoIrq
  event : s.ObjectAt .testEvent (.event signalizeYieldEventMask) []
  sem : s.ObjectAt .testSem (.sem 0 Kernel.semMaxLimit) ((queueSA cfg).rotate k)
  idle : s.ThreadAt idleThread taskIdlePrio false .no
    (iTaskLoopSA cfg k :: kcall (.kThreadAbort saLowPrioThread) ::
      kcall (.kThreadAbort saHighPrioThread) :: abortDummies cfg.dummyCount 0 :: iTaskSB cfg)
  low : s.ThreadAt saLowPrioThread taskSaLowPrio true .no
    [kcall (.kSemGive .testSem), .loop lTaskSALoop]
  high : s.ThreadAt saHighPrioThread taskSaHighPrio false (.on .testSem) [.loop hTaskSALoop]
  dummies : ∀ i < cfg.dummyCount,
    s.ThreadAt (saDummyThreads i) taskSaDummyPrio false (.on .testSem) [.loop dummyTaskLoop]
  countA : s.mem.count scenarioA = k / (cfg.dummyCount + 1)
  countB : s.mem.count scenarioB = 0

attribute [local simp] Sound Signals SignalCall Good State.Window windowSA windowSB taskIdlePrio
  taskSaLowPrio taskSaHighPrio taskSaDummyPrio taskSbHighPrio signalizeYieldEventMask
  startEventMask iTaskLoopSA iTaskLoopSB createDummies lTaskSALoop hTaskSALoop hTaskSBLoop
  dummyTaskLoop body lTaskSA hTaskSA hTaskSB dummyTask

theorem sound_of_removal (poster : Thread) (s : TestState B EntryFn)
    (h : s.AtStmt fun _ st => Removal st) : Sound (Good cfg) poster s := by
  constructor
  · exact h.mono fun _ _ h => by cases h <;> simp
  · exact h.mono fun _ _ h => by cases h <;> simp

/-- A pass in which the give of `L_Task_SA` reaches `H_Task_SA`. -/
theorem passSA_high {k : Nat} (hk : k ≤ cfg.measurementCount - 1) {q : List Thread}
    (hq : (queueSA cfg).rotate k = saHighPrioThread :: q) (hdvd : cfg.dummyCount + 1 ∣ k + 1)
    (s : TestState B EntryFn) (h : HeadSA cfg k s) :
    Leads (program (body cfg)).next (Sound (Good cfg) saLowPrioThread) s (HeadSA cfg (k + 1)) := by
  have hmem : ∀ t, t ∈ saHighPrioThread :: q ↔ _ := fun t => by
    rw [← hq, List.mem_rotate, mem_queueSA]
  have hdummies : ∀ i < cfg.dummyCount, saDummyThreads i ∈ q := fun i hi => by
    simpa using (hmem (saDummyThreads i)).mpr (.inl ⟨i, hi, rfl⟩)
  have hrot := rotate_queueSA_succ cfg hq
  cases h
  have hins : insertPrio s.kern.prio saHighPrioThread q = q ++ [saHighPrioThread] := by
    refine insertPrio_of_le ?_
    intro u hu
    rcases (hmem u).mp (List.mem_cons_of_mem _ hu) with ⟨i, hi, rfl⟩ | rfl <;> simp [*]
  have hcount : (k + 1) / (cfg.dummyCount + 1) = k / (cfg.dummyCount + 1) + 1 := by
    rw [Nat.succ_div, if_pos hdvd]
  -- I_Task takes the YIELD bit and resumes L_Task_SA, which gives
  iterate 4
    refine .step (by simp [*]) ?_
    simp [*]
  -- H_Task_SA opens the window, takes the start marker and blocks
  iterate 5
    refine .step (by simp +contextual [*]) ?_
    simp [*]
  -- L_Task_SA takes the stop marker and records
  iterate 6
    refine .step (by simp [*]) ?_
    simp [*]
  refine .done ?_
  constructor <;> simp +contextual [*]

/-- A pass in which the give reaches a dummy task: it closes the window, so
`L_Task_SA` records nothing. -/
theorem passSA_dummy {k : Nat} (hk : k ≤ cfg.measurementCount - 1) {i : Nat} {q : List Thread}
    (hi : i < cfg.dummyCount) (hq : (queueSA cfg).rotate k = saDummyThreads i :: q)
    (hdvd : ¬ cfg.dummyCount + 1 ∣ k + 1) (s : TestState B EntryFn) (h : HeadSA cfg k s) :
    Leads (program (body cfg)).next (Sound (Good cfg) saLowPrioThread) s (HeadSA cfg (k + 1)) := by
  have hrot := rotate_queueSA_succ cfg hq
  have hmem : ∀ t ∈ q, (∃ i < cfg.dummyCount, t = saDummyThreads i) ∨ t = saHighPrioThread := by
    intro t ht
    rw [← mem_queueSA, ← List.mem_rotate (n := k), hq]
    exact List.mem_cons_of_mem _ ht
  cases h
  have hins : insertPrio s.kern.prio (saDummyThreads i) q = q ++ [saDummyThreads i] := by
    refine insertPrio_of_le ?_
    intro u hu
    rcases hmem u hu with ⟨j, hj, rfl⟩ | rfl <;> simp [*]
  have hcount : (k + 1) / (cfg.dummyCount + 1) = k / (cfg.dummyCount + 1) := by
    rw [Nat.succ_div, if_neg hdvd, Nat.add_zero]
  -- I_Task takes the YIELD bit and resumes L_Task_SA, which gives
  iterate 4
    refine .step (by simp [*]) ?_
    simp [*]
  -- the dummy task closes the window and blocks again
  iterate 3
    refine .step (by simp [*]) ?_
    simp [*]
  -- L_Task_SA iterates outside of the window
  iterate 6
    refine .step (by simp [*]) ?_
    simp [*]
  refine .done ?_
  constructor <;> simp +contextual [*]

theorem passSA {k : Nat} (hk : k ≤ cfg.measurementCount - 1) (s : TestState B EntryFn)
    (h : HeadSA cfg k s) :
    Leads (program (body cfg)).next (Sound (Good cfg) saLowPrioThread) s (HeadSA cfg (k + 1)) := by
  cases hq : (queueSA cfg).rotate k with
  | nil => simp [queueSA] at hq
  | cons t q =>
    rcases head_queueSA cfg hq with ⟨rfl, hdvd⟩ | ⟨⟨i, hi, rfl⟩, hdvd⟩
    · exact passSA_high cfg hk hq hdvd s h
    · exact passSA_dummy cfg hk hi hq hdvd s h

/-- While `I_Task` creates the dummy tasks: the first `i` wait. -/
structure Creating (i : Nat) (s : TestState B EntryFn) : Prop where
  runs : s.Runs idleThread [idleThread]
  irq : s.NoIrq
  event : s.ObjectAt .testEvent (.event 0) []
  sem : s.ObjectAt .testSem (.sem 0 Kernel.semMaxLimit) ((List.range i).map saDummyThreads)
  idle : s.ThreadAt idleThread taskIdlePrio false .no 
    (createDummies saDummyThreads .dummyTask (fun _ => taskSaDummyPrio) cfg.dummyCount i ::
      iTaskSA cfg)
  dummies : ∀ j < i,
    s.ThreadAt (saDummyThreads j) taskSaDummyPrio false (.on .testSem) [.loop dummyTaskLoop]
  isOpen : s.mem.isOpen scenarioA = false
  countA : s.mem.count scenarioA = 0
  countB : s.mem.count scenarioB = 0

theorem createDummy {i : Nat} (hi : i < cfg.dummyCount) (s : TestState B EntryFn)
    (h : Creating cfg i s) :
    Leads (program (body cfg)).next (Sound (Good cfg) saLowPrioThread)
      s (Creating cfg (i + 1)) := by
  cases h
  have hins : insertPrio (Function.update s.kern.prio (saDummyThreads i) 2) (saDummyThreads i)
      ((List.range i).map saDummyThreads) =
      (List.range (i + 1)).map saDummyThreads := by
    rw [List.range_succ, List.map_append]
    refine insertPrio_of_le ?_
    intro u hu
    obtain ⟨j, hj, rfl⟩ := List.mem_map.mp hu
    have hj' : j < i := List.mem_range.mp hj
    simp [*]
  iterate 2
    refine .step (by simp [*]) ?_
    simp [*]
  iterate 3
    refine .step (by simp [*]) ?_
    simp [*]
  refine .done ?_
  constructor <;> simp +contextual [*, ↓Nat.forall_lt_succ_right, Nat.ne_of_lt]

theorem boot_leads :
    Leads (program (body cfg)).next (Sound (Good (B := B) cfg) saLowPrioThread)
      (start (body cfg) .iTask)
      (Creating cfg 0) := by
  iterate 2
    refine .step (by simp [start, iTask, Kernel.boot]) ?_
    simp [start, iTask, Kernel.boot]
  refine .done ?_
  constructor <;> simp [Mem.initial]

/-- From the last dummy task to the head of the loop: `H_Task_SA` waits for the
start, `L_Task_SA` makes a pass without a start marker, then the post of the
start bit lets `H_Task_SA` block for the first time. -/
theorem startSA (s : TestState B EntryFn) (h : Creating cfg cfg.dummyCount s) :
    Leads (program (body cfg)).next (Sound (Good cfg) saLowPrioThread) s (HeadSA cfg 0) := by
  cases h
  have hins : insertPrio (Function.update (Function.update s.kern.prio saHighPrioThread 2)
      saLowPrioThread 7) saHighPrioThread
      ((List.range cfg.dummyCount).map saDummyThreads) = queueSA cfg := by
    refine insertPrio_of_le ?_
    intro u hu
    obtain ⟨j, hj, rfl⟩ := List.mem_map.mp hu
    have hj' : j < cfg.dummyCount := List.mem_range.mp hj
    simp [*]
  -- H_Task_SA is created and waits for the start
  iterate 3
    refine .step (by simp [*, iTaskSA]) ?_
    simp [*, iTaskSA]
  -- L_Task_SA is created
  iterate 7
    refine .step (by simp [*]) ?_
    simp [*]
  -- the start
  iterate 6
    refine .step (by simp +contextual [*]) ?_
    simp [*]
  refine .done ?_
  constructor <;> simp +contextual [*]

/-- At the head of the loop over the iteration cycles of S_B. -/
structure HeadSB (i : Nat) (s : TestState B EntryFn) : Prop where
  runs : s.Runs idleThread [idleThread]
  irq : s.NoIrq
  event : s.ObjectAt testEvent (.event signalizeYieldEventMask) []
  sem : s.ObjectAt testSem (.sem 0 Kernel.semMaxLimit) []
  idle : s.ThreadAt idleThread taskIdlePrio false .no (iTaskLoopSB cfg i :: verdictLoop)
  high : s.ThreadAt sbHighPrioThread taskSbHighPrio true .no [.loop hTaskSBLoop]
  countA : s.mem.count scenarioA = cfg.measurementCount / (cfg.dummyCount + 1)
  countB : s.mem.count scenarioB = i + 1

/-- `I_Task` has left the loop of S_A and removed the two measured tasks. -/
structure LeavingSA (s : TestState B EntryFn) : Prop where
  runs : s.Runs idleThread [idleThread]
  irq : s.NoIrq
  event : s.ObjectAt testEvent (.event signalizeYieldEventMask) []
  sem : s.kern.obj testSem = .sem 0 Kernel.semMaxLimit
  waiting : (s.kern.waitq testSem).Perm ((List.range cfg.dummyCount).map saDummyThreads)
  pend : ∀ i < cfg.dummyCount, s.kern.pend (saDummyThreads i) = .on testSem
  idle : s.ThreadAt idleThread taskIdlePrio false .no
    (abortDummies cfg.dummyCount 0 :: iTaskSB cfg)
  countA : s.mem.count scenarioA = cfg.measurementCount / (cfg.dummyCount + 1)
  countB : s.mem.count scenarioB = 0

theorem endSA (s : TestState B EntryFn) (h : HeadSA cfg cfg.measurementCount s) :
    Leads (program (body cfg)).next (Sound (Good cfg) saLowPrioThread) s (LeavingSA cfg) := by
  have hN := cfg.one_le_measurementCount
  have hexit : ¬ cfg.measurementCount ≤ cfg.measurementCount - 1 := by omega
  have hwait : (((queueSA cfg).rotate cfg.measurementCount).erase saHighPrioThread).Perm
      ((List.range cfg.dummyCount).map saDummyThreads) := by
    refine ((List.rotate_perm _ _).erase _).trans ?_
    rw [queueSA, List.erase_append_right _ (by simp)]
    simp
  cases h
  iterate 3
    refine .step (by simp [*]) ?_
    simp [*]
  refine .done ?_
  constructor <;> simp +contextual [*]

/-- `H_Task_SB` is about to signal the end of its first pass. The signal of the
last pass of S_A is still there. -/
structure MergingSB (s : TestState B EntryFn) : Prop where
  runs : s.Runs sbHighPrioThread [sbHighPrioThread, idleThread]
  irq : s.NoIrq
  event : s.ObjectAt testEvent (.event signalizeYieldEventMask) []
  sem : s.ObjectAt testSem (.sem 0 Kernel.semMaxLimit) []
  idle : s.ThreadAt idleThread taskIdlePrio false .no (iTaskLoopSB cfg 0 :: verdictLoop)
  high : s.ThreadAt sbHighPrioThread taskSbHighPrio false .no
    (kcall (.kEventPost testEvent signalizeYieldEventMask) :: kcall .kThreadSuspendCurrent ::
      [.loop hTaskSBLoop])
  countA : s.mem.count scenarioA = cfg.measurementCount / (cfg.dummyCount + 1)
  countB : s.mem.count scenarioB = 1

/-- The dummy tasks are removed, `H_Task_SB` is created and runs its first
pass on the post of the start bit. -/
theorem startSB (s : TestState B EntryFn) (h : LeavingSA cfg s) :
    Leads (program (body cfg)).next (Sound (Good cfg) saLowPrioThread) s (MergingSB cfg) := by
  refine (abortDummies_leads (sound_of_removal cfg saLowPrioThread) h.runs h.irq h.idle.2.2.2
    h.waiting h.pend).bind ?_
  intro t ht
  have hnil := ht.waitq_eq_nil
  cases h
  cases ht
  -- H_Task_SB is created and waits for the start
  iterate 3
    refine .step (by simp [*, iTaskSB]) ?_
    simp [*, iTaskSB]
  -- the start, and the first sample
  iterate 9
    refine .step (by simp [*]) ?_
    simp [*]
  refine .done ?_
  constructor <;> simp [*]

/-- The first signal of S_B changes nothing, then `H_Task_SB` suspends itself. -/
theorem mergeSB (s : TestState B EntryFn) (h : MergingSB cfg s) :
    Leads (program (body cfg)).next (Sound (Good cfg) sbHighPrioThread)
      ((program (body cfg)).next s) (HeadSB cfg 0) := by
  cases h
  simp [*]
  refine .step (by simp [*]) ?_
  simp [*]
  refine .done ?_
  constructor <;> simp [*]

theorem passSB {i : Nat} (hi : i < cfg.measurementCount - 1) (s : TestState B EntryFn)
    (h : HeadSB cfg i s) :
    Leads (program (body cfg)).next (Sound (Good cfg) sbHighPrioThread) s (HeadSB cfg (i + 1)) := by
  cases h
  -- I_Task takes the YIELD bit, resets the semaphore and resumes H_Task_SB
  iterate 4
    refine .step (by simp [*]) ?_
    simp [*]
  -- one sample
  iterate 10
    refine .step (by simp [*]) ?_
    simp [*]
  refine .done ?_
  constructor <;> simp [*]

theorem endSB (s : TestState B EntryFn) (h : HeadSB cfg (cfg.measurementCount - 1) s) :
    Leads (program (body cfg)).next (Sound (Good cfg) sbHighPrioThread) s
      (AtVerdict (cfg.measurementCount / (cfg.dummyCount + 1)) cfg.measurementCount) := by
  have hN : cfg.measurementCount - 1 + 1 = cfg.measurementCount :=
    Nat.sub_add_cancel cfg.one_le_measurementCount
  cases h
  refine .step (by simp [*]) ?_
  simp [*]
  refine .done ?_
  constructor <;> simp [*, VerdictCode.head]

/-! ## 5. The whole run -/

/-- Up to the first signal of S_B. -/
theorem run_leads_SA :
    Leads (program (body cfg)).next (Sound (Good (B := B) cfg) saLowPrioThread)
      (start (body cfg) .iTask) (MergingSB cfg) := by
  refine (boot_leads cfg).bind ?_
  intro s hs
  refine (Leads.loop (S := Creating cfg) (fun i hi => createDummy cfg hi) hs).bind ?_
  intro s hs
  refine (startSA cfg s hs).bind ?_
  intro s hs
  refine (Leads.loop (S := HeadSA cfg)
    (fun k hk => passSA cfg (Nat.le_sub_one_of_lt hk)) hs).bind ?_
  intro s hs
  refine (endSA cfg s hs).bind ?_
  intro s hs
  exact startSB cfg s hs

/-- From the first signal of S_B on. -/
theorem run_leads_SB (s : TestState B EntryFn) (hs : MergingSB cfg s) :
    Leads (program (body cfg)).next (Sound (Good cfg) sbHighPrioThread)
      ((program (body cfg)).next s)
      (AtVerdict (cfg.measurementCount / (cfg.dummyCount + 1)) cfg.measurementCount) := by
  refine (mergeSB cfg s hs).bind ?_
  intro s hs
  exact (Leads.loop (S := HeadSB cfg) (fun i hi => passSB cfg hi) hs).bind (endSB cfg)

theorem merging_of_mergingSB (s : TestState B EntryFn) (h : MergingSB cfg s) :
    Merging sbHighPrioThread s := by
  cases h
  constructor <;> simp [*, CallsNext]

theorem good_of_mergingSB (s : TestState B EntryFn) (h : MergingSB cfg s) : Good cfg s := by
  cases h
  simp [*]

theorem run_leads :
    Leads (program (body cfg)).next (Good (B := B) cfg) (start (body cfg) .iTask)
      (AtVerdict (cfg.measurementCount / (cfg.dummyCount + 1)) cfg.measurementCount) :=
  leads_of_sound (run_leads_SA cfg) (good_of_mergingSB cfg) (run_leads_SB cfg)

/-- Every pass of S_A but the last and every pass of S_B but the first is
acknowledged. -/
theorem semBlock_acknowledged {K : Type} (Z : Zephyr K Thread Object Empty EntryFn) :
    ∃ first, Acknowledged saLowPrioThread sbHighPrioThread first
      (run (B := B) Z (body cfg) .iTask) :=
  acknowledged_of_leads Z ((run_leads_SA cfg).imp fun _ h => h.2) (merging_of_mergingSB cfg)
    fun s hs => (run_leads_SB cfg s hs).imp fun _ h => h.2

theorem good_of_atVerdict {a b : Nat} (s : TestState B EntryFn) (h : AtVerdict a b s) :
    Good cfg s :=
  h.atStmt trivial (fun _ _ => trivial) fun _ => trivial

variable {K : Type} (Z : Zephyr K Thread Object Empty EntryFn)

/-- `scenario_a` gets one sample in every `dummy_count + 1` iteration cycles,
and every sample that is recorded is a clean one. -/
theorem run_settles :
    Ends (run (B := B) Z (body cfg) .iTask)
        (AtVerdict (cfg.measurementCount / (cfg.dummyCount + 1)) cfg.measurementCount) ∧
      ∀ n, Good cfg (run (B := B) Z (body cfg) .iTask n) :=
  run_of_leads Z (run_leads cfg) (good_of_atVerdict cfg)

variable (B) in
/-- What the test is to deliver: `MEASUREMENT_COUNT` samples in each scenario,
all of them clean. -/
def Delivers : Prop :=
  Ends (run (B := B) Z (body cfg) .iTask) (AtVerdict cfg.measurementCount cfg.measurementCount) ∧
    ∀ n, Good cfg (run (B := B) Z (body cfg) .iTask n)

theorem not_delivers_of_dummies (hd : cfg.dummyCount ≠ 0) : ¬ Delivers B cfg Z := by
  rintro ⟨hends, -⟩
  obtain ⟨t, ht, ht'⟩ := (run_settles cfg Z).1.inter hends
  have heq : cfg.measurementCount / (cfg.dummyCount + 1) = cfg.measurementCount :=
    ht.rest.1.symm.trans ht'.rest.1
  have hlt : cfg.measurementCount / (cfg.dummyCount + 1) < cfg.measurementCount :=
    Nat.div_lt_self cfg.one_le_measurementCount (by omega)
  omega

/-- The test delivers its samples if and only if it runs without dummy tasks:
a dummy task has the priority of `H_Task_SA`, so the gives of `L_Task_SA` go
round among them all. -/
theorem delivers_iff : Delivers B cfg Z ↔ cfg.dummyCount = 0 := by
  constructor
  · intro h
    by_contra hd
    exact not_delivers_of_dummies cfg Z hd h
  · intro hd
    have h := run_settles (B := B) cfg Z
    rwa [hd, Nat.zero_add, Nat.div_one] at h

/-- One iteration cycle and one dummy task: the only give of S_A wakes the
dummy task and nothing is recorded. -/
theorem not_delivers_one_dummy :
    ¬ Delivers Bmth.plain ⟨1, 1, by decide, by decide⟩ Zephyr.documented :=
  not_delivers_of_dummies _ _ (by decide)

end ZephyrBench.TaskSwitching.SemBlock

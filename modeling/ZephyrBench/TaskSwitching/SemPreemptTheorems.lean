/-
ZephyrBench.TaskSwitching.SemPreemptTheorems — what `sem_preempt` measures.

`semPreempt_settles`: both scenarios record `MEASUREMENT_COUNT` samples, with and
without a waiter in S_B, for every number of dummy tasks and every documented
kernel. Every give finds the head of the wait queue that it should find, and a
reset never finds a waiter.

## How the proof goes

A give reaches the head of the wait queue only. In S_A that is always
`H_Task_SA`, which outranks the dummy tasks and is back in front of them before
the next give (`passSA`). In S_B there are three cases, one lemma each:

  * `passSB_waiter` — `L_Task_SB` waits, in front of all dummy tasks; no dummy
    task ever runs.
  * `passSB_alone`  — nobody waits, and the give counts up. The count is the
    number of gives so far, so the bound on `MEASUREMENT_COUNT` is needed here.
  * `passSB_dummy`  — a dummy task takes what was given and queues up again. It
    goes behind those of its own priority, so the queue changes, but its head
    always has the highest priority among them (`QueueSB`, `DummiesWait`).

`loopSB` puts the cases together. The run is cut at the first signal of S_B
(`MergingSB`), the only one that finds its bit set; `semPreempt_acknowledged`
follows from the same two executions.
-/
import ZephyrBench.TaskSwitching.Dummies
import ZephyrBench.TaskSwitching.SemPreempt
import ZephyrBench.TaskSwitching.Signals

namespace ZephyrBench.TaskSwitching.SemPreempt

open Rtos Rtos.Exec Thread Object Series Marker

variable {B : Bmth} (cfg : Config)

/-! ## 1. What is claimed of every state -/

/-- The window of a sample of S_A, latest entry first. -/
def windowSA : List (HistEntry EntryFn) :=
  [ .exec saHighPrioThread (.prim (.getStopCnt testStopTime)),
    .switch (some saLowPrioThread) (some saHighPrioThread),
    .exec saLowPrioThread (.call (.kSemGive testSem)),
    .exec saLowPrioThread (.prim (.getStartCnt testStartTime)) ]

/-- The window of a sample of S_B. -/
def windowSB : List (HistEntry EntryFn) :=
  [ .exec sbHighPrioThread (.prim (.getStopCnt testStopTime)),
    .exec sbHighPrioThread (.call (.kSemGive testSem)),
    .exec sbHighPrioThread (.prim (.getStartCnt testStartTime)) ]

/-- All dummy tasks of S_B wait in `q`, whose head is one of those with the
highest priority. -/
def DummiesWait (q : List Thread) : Prop :=
  q.Perm ((List.range cfg.dummyCount).map sbDummyThreads) ∧
    ∃ i < cfg.dummyCount, q.head? = some (sbDummyThreads i) ∧
      ∀ j < cfg.dummyCount, cfg.sbDummyPrios i ≤ cfg.sbDummyPrios j

/-- What a give of S_A finds: it reaches `H_Task_SA`, in front of the dummy
tasks. -/
def GiveSA (s : TestState B EntryFn) : Prop :=
  ∃ q, q.Perm ((List.range cfg.dummyCount).map saDummyThreads) ∧
    s.ObjectAt testSem (.sem 0 Kernel.semMaxLimit) (saHighPrioThread :: q)

/-- What a give of S_B finds, with `k` gives before it. -/
def GiveSB (k : Nat) (s : TestState B EntryFn) : Prop :=
  if cfg.testSbHasWaiter then
    ∃ q, q.Perm ((List.range cfg.dummyCount).map sbDummyThreads) ∧
      s.ObjectAt testSem (.sem 0 Kernel.semMaxLimit) (sbLowPrioThread :: q)
  else if cfg.dummyCount = 0 then s.ObjectAt testSem (.sem k Kernel.semMaxLimit) []
  else ∃ q, DummiesWait cfg q ∧ s.ObjectAt testSem (.sem 0 Kernel.semMaxLimit) q

/-- The count of the semaphore after `k` gives of S_B. -/
def countSB (k : Nat) : Nat :=
  if cfg.testSbHasWaiter = false ∧ cfg.dummyCount = 0 then k else 0

/-- What `t` is about to execute finds the state as it should be. -/
def Good (s : TestState B EntryFn) : Prop :=
  s.AtStmt fun t (st : Statement B EntryFn) =>
    match st with
    | .prim (.mseriesIterate scenarioA start stop _) =>
      t = saHighPrioThread ∧ s.mem.isOpen scenarioA = true ∧ s.Window start stop windowSA
    | .prim (.mseriesIterate scenarioB start stop _) =>
      t = sbHighPrioThread ∧ s.mem.isOpen scenarioB = true ∧ s.Window start stop windowSB ∧
        s.kern.obj testSem = .sem (countSB cfg (s.mem.count scenarioB + 1)) Kernel.semMaxLimit
    | .call c =>
      (c s.mem = .kSemGive testSem → t = saLowPrioThread ∧ GiveSA cfg s ∨
        t = sbHighPrioThread ∧ GiveSB cfg (s.mem.count scenarioB) s) ∧
      (c s.mem = .kSemReset testSem → s.kern.waitq testSem = [])
    | _ => True

/-! ## 2. S_A -/

/-- The dummy tasks of S_A in the order in which they wait. -/
def dummiesSA : List Thread := (dummyOrder cfg.saDummyPrios cfg.dummyCount).map saDummyThreads

@[local simp] theorem mem_dummiesSA {t : Thread} :
    t ∈ dummiesSA cfg ↔ ∃ i < cfg.dummyCount, saDummyThreads i = t := by
  simp [dummiesSA]

theorem dummiesSA_perm :
    (dummiesSA cfg).Perm ((List.range cfg.dummyCount).map saDummyThreads) :=
  dummyOrder_perm.map _

theorem dummyPrio_bounds_SA : ∀ i < cfg.dummyCount,
    2 < cfg.saDummyPrios i ∧ cfg.saDummyPrios i < 15 := by
  intro i hi
  have h := cfg.saDummyPrios_between i hi
  simp only [taskSaHighPrio, taskSaLowPrio] at h
  omega

/-- The tasks of S_A while no sample is being taken: `code` is what is left of
`I_Task`, and `n` samples are recorded. -/
structure RestSA (n : Nat) (code : Code B EntryFn) (s : TestState B EntryFn) : Prop where
  irq : s.NoIrq
  sem : s.ObjectAt testSem (.sem 0 Kernel.semMaxLimit) (saHighPrioThread :: dummiesSA cfg)
  idle : s.ThreadAt idleThread taskIdlePrio false .no code
  high : s.ThreadAt saHighPrioThread taskSaHighPrio false (.on testSem)
    (hTaskSALoop.tail ++ [.loop hTaskSALoop])
  dummies : ∀ i < cfg.dummyCount, s.ThreadAt (saDummyThreads i) (cfg.saDummyPrios i) false
    (.on testSem) dummyTask
  countA : s.mem.count scenarioA = n
  countB : s.mem.count scenarioB = 0

/-- `L_Task_SA` runs and is about to begin a pass. -/
structure PassSA (n : Nat) (code : Code B EntryFn) (s : TestState B EntryFn) : Prop
    extends RestSA cfg n code s where
  runs : s.Runs saLowPrioThread [saLowPrioThread, idleThread]
  event : s.ObjectAt testEvent (.event 0) []
  low : s.ThreadAt saLowPrioThread taskSaLowPrio false .no [.loop lTaskSALoop]

/-- `I_Task` runs, `L_Task_SA` has suspended itself. -/
structure HeadSA (n : Nat) (code : Code B EntryFn) (s : TestState B EntryFn) : Prop
    extends RestSA cfg n code s where
  runs : s.Runs idleThread [idleThread]
  event : s.ObjectAt testEvent (.event signalizeYieldEventMask) []
  low : s.ThreadAt saLowPrioThread taskSaLowPrio true .no [.loop lTaskSALoop]

attribute [local simp] Sound Signals SignalCall Good State.Window windowSA windowSB taskIdlePrio
  taskSaLowPrio taskSaHighPrio taskSbHighPrio taskSbLowPrio signalizeYieldEventMask startEventMask
  iTaskLoopSA iTaskLoopSB lTaskSALoop hTaskSALoop hTaskSBLoop lTaskSBLoop body lTaskSA hTaskSA
  hTaskSB lTaskSB dummyTask takeTestSem

theorem sound_of_scaffold {D : Nat → Thread} (hD : ∀ i, D i ≠ sbHighPrioThread)
    (poster : Thread) (s : TestState B EntryFn)
    (h : s.AtStmt fun _ st => ScaffoldOf D takeTestSem st) : Sound (Good cfg) poster s := by
  constructor
  · exact h.mono fun _ _ h => by cases h <;> simp
  · exact h.mono fun _ _ h => by cases h <;> simp [hD]

theorem sound_of_removal (poster : Thread) (s : TestState B EntryFn)
    (h : s.AtStmt fun _ st => Removal st) : Sound (Good cfg) poster s := by
  constructor
  · exact h.mono fun _ _ h => by cases h <;> simp
  · exact h.mono fun _ _ h => by cases h <;> simp

/-- A whole pass of S_A: the give reaches `H_Task_SA`, which takes the
semaphore again and stands in front of the dummy tasks. -/
theorem passSA {n : Nat} {code : Code B EntryFn} (s : TestState B EntryFn)
    (h : PassSA cfg n code s) :
    Leads (program (body cfg)).next (Sound (Good cfg) saHighPrioThread)
      s (HeadSA cfg (n + 1) code) := by
  have hlt := dummyPrio_bounds_SA cfg
  have hperm := dummiesSA_perm cfg
  obtain ⟨⟨_, _, _, _, _, _, _⟩, _, _, _⟩ := h
  have hins : insertPrio s.kern.prio saHighPrioThread (dummiesSA cfg) =
      saHighPrioThread :: dummiesSA cfg :=
    insertPrio_of_lt (by simp +contextual [*])
  -- L_Task_SA takes the start marker and gives
  iterate 5
    refine .step (by simp [*, GiveSA]) ?_
    simp [*]
  -- H_Task_SA takes the stop marker, records and takes the semaphore again
  iterate 6
    refine .step (by simp [*]) ?_
    simp [*]
  -- L_Task_SA suspends itself
  refine .step (by simp [*]) ?_
  simp [*]
  refine .done ?_
  constructor
  · constructor <;> simp +contextual [*]
  all_goals simp [*]

/-- One iteration cycle of `I_Task`. -/
theorem cycleSA {i : Nat} (hi : i < cfg.measurementCount - 1) {rest : Code B EntryFn}
    (s : TestState B EntryFn) (h : HeadSA cfg (i + 1) (iTaskLoopSA cfg i :: rest) s) :
    Leads (program (body cfg)).next (Sound (Good cfg) saHighPrioThread) s
      (HeadSA cfg (i + 2) (iTaskLoopSA cfg (i + 1) :: rest)) := by
  have hpass : Leads (program (body cfg)).next (Sound (Good cfg) saHighPrioThread) s
      (PassSA cfg (i + 1) (iTaskLoopSA cfg (i + 1) :: rest)) := by
    obtain ⟨⟨_, _, _, _, _, _, _⟩, _, _, _⟩ := h
    iterate 3
      refine .step (by simp [*]) ?_
      simp [*]
    refine .done ?_
    constructor
    · constructor <;> simp +contextual [*]
    all_goals simp [*]
  exact hpass.bind (passSA cfg)

/-- `I_Task` is about to create the dummy tasks of S_A; `H_Task_SA` waits. -/
structure BootedSA (s : TestState B EntryFn) : Prop where
  runs : s.Runs idleThread [idleThread]
  irq : s.NoIrq
  event : s.ObjectAt testEvent (.event startEventMask) []
  sem : s.ObjectAt testSem (.sem 0 Kernel.semMaxLimit) [saHighPrioThread]
  idle : s.ThreadAt idleThread taskIdlePrio false .no
    (createDummies saDummyThreads .dummyTask cfg.saDummyPrios cfg.dummyCount 0 :: iTaskSA cfg)
  high : s.ThreadAt saHighPrioThread taskSaHighPrio false (.on testSem)
    (hTaskSALoop.tail ++ [.loop hTaskSALoop])
  countA : s.mem.count scenarioA = 0
  countB : s.mem.count scenarioB = 0

theorem boot_leads :
    Leads (program (body cfg)).next (Sound (Good (B := B) cfg) saHighPrioThread)
      (start (body cfg) .iTask)
      (BootedSA cfg) := by
  iterate 6
    refine .step (by simp [start, iTask, Kernel.boot]) ?_
    simp [start, iTask, Kernel.boot]
  refine .done ?_
  constructor <;> simp [Mem.initial]

/-- The dummy tasks are created, then `L_Task_SA`, which finds the start bit
and makes the first pass. -/
theorem startSA (s : TestState B EntryFn) (h : BootedSA cfg s) :
    Leads (program (body cfg)).next (Sound (Good cfg) saHighPrioThread) s
      (HeadSA cfg 1 (iTaskLoopSA cfg 0 :: kcall (.kThreadAbort saLowPrioThread) ::
        kcall (.kThreadAbort saHighPrioThread) :: abortDummies cfg.dummyCount 0 ::
        iTaskStartSB cfg)) := by
  have hlt := dummyPrio_bounds_SA cfg
  refine (createDummies_leads (D := saDummyThreads) (.sem _ h.sem)
    (.loop .plain) (fun _ _ => saDummyThreads.inj) (by simp) (by simp)
    (sound_of_scaffold cfg (D := saDummyThreads) nofun saHighPrioThread) h.runs h.irq
    h.idle.2.2.2 ?_ ?_).bind fun t ht => ?_
  · simpa [h.idle.1] using fun j hj => (hlt j hj).2
  · simpa [h.high.1] using fun j hj => Nat.le_of_lt (hlt j hj).1
  cases h
  cases ht
  have hpass : Leads (program (body cfg)).next (Sound (Good cfg) saHighPrioThread) t
      (PassSA cfg 0 (iTaskLoopSA cfg 0 :: kcall (.kThreadAbort saLowPrioThread) ::
        kcall (.kThreadAbort saHighPrioThread) :: abortDummies cfg.dummyCount 0 ::
        iTaskStartSB cfg)) := by
    -- L_Task_SA is created and finds the start bit
    iterate 2
      refine .step (by simp [*, iTaskSA]) ?_
      simp [*, iTaskSA]
    refine .done ?_
    constructor
    · constructor <;> simp +contextual [*, dummiesSA]
    all_goals simp [*]
  exact hpass.bind (passSA cfg)

/-- `I_Task` has left the loop of S_A and removed the two measured tasks. -/
structure LeavingSA (s : TestState B EntryFn) : Prop where
  runs : s.Runs idleThread [idleThread]
  irq : s.NoIrq
  event : s.ObjectAt testEvent (.event signalizeYieldEventMask) []
  sem : s.ObjectAt testSem (.sem 0 Kernel.semMaxLimit) (dummiesSA cfg)
  idle : s.ThreadAt idleThread taskIdlePrio false .no
    (abortDummies cfg.dummyCount 0 :: iTaskStartSB cfg)
  pend : ∀ i < cfg.dummyCount, s.kern.pend (saDummyThreads i) = .on testSem
  countA : s.mem.count scenarioA = cfg.measurementCount
  countB : s.mem.count scenarioB = 0

theorem endSA (s : TestState B EntryFn)
    (h : HeadSA cfg (cfg.measurementCount - 1 + 1) (iTaskLoopSA cfg (cfg.measurementCount - 1) ::
      kcall (.kThreadAbort saLowPrioThread) :: kcall (.kThreadAbort saHighPrioThread) ::
      abortDummies cfg.dummyCount 0 :: iTaskStartSB cfg) s) :
    Leads (program (body cfg)).next (Sound (Good cfg) saHighPrioThread) s (LeavingSA cfg) := by
  have hN : cfg.measurementCount - 1 + 1 = cfg.measurementCount :=
    Nat.sub_add_cancel cfg.one_le_measurementCount
  obtain ⟨⟨_, _, _, _, _, _, _⟩, _, _, _⟩ := h
  iterate 3
    refine .step (by simp [*]) ?_
    simp [*]
  refine .done ?_
  constructor <;> simp +contextual [*]

/-! ## 3. S_B -/

/-- The dummy tasks of S_B in the order in which they first wait. -/
def dummiesSB : List Thread := (dummyOrder cfg.sbDummyPrios cfg.dummyCount).map sbDummyThreads

@[local simp] theorem mem_dummiesSB {t : Thread} :
    t ∈ dummiesSB cfg ↔ ∃ i < cfg.dummyCount, sbDummyThreads i = t := by
  simp [dummiesSB]

theorem dummiesSB_perm :
    (dummiesSB cfg).Perm ((List.range cfg.dummyCount).map sbDummyThreads) :=
  dummyOrder_perm.map _

theorem dummyPrio_bounds_SB : ∀ i < cfg.dummyCount,
    10 < cfg.sbDummyPrios i ∧ cfg.sbDummyPrios i < 15 := by
  intro i hi
  have h := cfg.sbDummyPrios_between i hi
  simp only [taskSbLowPrio, taskIdlePrio] at h
  omega

/-- The tasks that wait for the semaphore before the dummy tasks are created. -/
def frontSB : List Thread := if cfg.testSbHasWaiter then [sbLowPrioThread] else []

/-- `H_Task_SB` and `L_Task_SB` between two passes: the first has suspended
itself, the second waits or has suspended itself too. -/
structure PairSB (s : TestState B EntryFn) : Prop where
  runs : s.Runs idleThread [idleThread]
  irq : s.NoIrq
  event : s.ObjectAt testEvent (.event signalizeYieldEventMask) []
  high : s.ThreadAt sbHighPrioThread taskSbHighPrio true .no
    (hTaskSBSample cfg ++ [.loop (hTaskSBLoop cfg)])
  low : s.ThreadAt sbLowPrioThread taskSbLowPrio (!cfg.testSbHasWaiter)
    (if cfg.testSbHasWaiter then .on testSem else .no) [.loop (lTaskSBLoop cfg)]
  countA : s.mem.count scenarioA = cfg.measurementCount

/-- `I_Task` is about to create the dummy tasks of S_B. -/
structure BootedSB (s : TestState B EntryFn) : Prop extends PairSB cfg s where
  sem : s.ObjectAt testSem (.sem 0 Kernel.semMaxLimit) (frontSB cfg)
  idle : s.ThreadAt idleThread taskIdlePrio false .no
    (createDummies sbDummyThreads .dummyTask cfg.sbDummyPrios cfg.dummyCount 0 :: iTaskSB cfg)
  countB : s.mem.count scenarioB = 0

/-- At the head of the loop over the iteration cycles of S_B, with `q` waiting
for the semaphore. -/
structure HeadSB (q : List Thread) (i : Nat) (s : TestState B EntryFn) : Prop
    extends PairSB cfg s where
  sem : s.ObjectAt testSem (.sem (countSB cfg i) Kernel.semMaxLimit) q
  idle : s.ThreadAt idleThread taskIdlePrio false .no
    (iTaskLoopSB cfg i :: kcall (.kThreadAbort sbLowPrioThread) ::
      kcall (.kThreadAbort sbHighPrioThread) :: verdictLoop)
  dummies : ∀ i < cfg.dummyCount, s.ThreadAt (sbDummyThreads i) (cfg.sbDummyPrios i) false
    (.on testSem) dummyTask
  countB : s.mem.count scenarioB = i

/-- `L_Task_SB` is about to signal the end of its first turn. The signal of the
last pass of S_A is still there. -/
structure MergingSB (s : TestState B EntryFn) : Prop where
  runs : s.Runs sbLowPrioThread [sbLowPrioThread, idleThread]
  irq : s.NoIrq
  event : s.ObjectAt testEvent (.event signalizeYieldEventMask) []
  sem : s.ObjectAt testSem (.sem 0 Kernel.semMaxLimit) []
  idle : s.ThreadAt idleThread taskIdlePrio false .no
    (createDummies sbDummyThreads .dummyTask cfg.sbDummyPrios cfg.dummyCount 0 :: iTaskSB cfg)
  high : s.ThreadAt sbHighPrioThread taskSbHighPrio true .no
    (hTaskSBSample cfg ++ [.loop (hTaskSBLoop cfg)])
  low : s.ThreadAt sbLowPrioThread taskSbLowPrio false .no
    (lTaskSBLoop cfg ++ [.loop (lTaskSBLoop cfg)])
  countA : s.mem.count scenarioA = cfg.measurementCount
  countB : s.mem.count scenarioB = 0

/-- The dummy tasks of S_A are removed and the semaphore is reset; `L_Task_SB`
posts the start for `H_Task_SB`. -/
theorem leaveSA (s : TestState B EntryFn) (h : LeavingSA cfg s) :
    Leads (program (body cfg)).next (Sound (Good cfg) saHighPrioThread) s (MergingSB cfg) := by
  have hwait : (s.kern.waitq testSem).Perm ((List.range cfg.dummyCount).map saDummyThreads) :=
    h.sem.2.symm ▸ dummiesSA_perm cfg
  refine (abortDummies_leads (sound_of_removal cfg saHighPrioThread) h.runs h.irq h.idle.2.2.2
    hwait h.pend).bind ?_
  intro t ht
  have hnil := ht.waitq_eq_nil
  cases h
  cases ht
  -- the semaphore is reset, H_Task_SB is created and waits for the start
  iterate 3
    refine .step (by simp [*, iTaskStartSB]) ?_
    simp [*, iTaskStartSB]
  -- L_Task_SB is created and posts, H_Task_SB suspends itself
  iterate 5
    refine .step (by simp [*]) ?_
    simp [*]
  refine .done ?_
  constructor <;> simp [*]

/-- The first signal of S_B changes nothing, then `L_Task_SB` waits or suspends
itself. -/
theorem mergeSB (s : TestState B EntryFn) (h : MergingSB cfg s) :
    Leads (program (body cfg)).next (Sound (Good cfg) sbLowPrioThread)
      ((program (body cfg)).next s) (BootedSB cfg) := by
  cases h
  simp [*]
  cases hw : cfg.testSbHasWaiter with
  | true =>
    refine .step (by simp [*]) ?_
    simp [*]
    refine .done ?_
    constructor
    · constructor <;> simp [*]
    all_goals simp [*, frontSB]
  | false =>
    refine .step (by simp [*]) ?_
    simp [*]
    refine .done ?_
    constructor
    · constructor <;> simp [*]
    all_goals simp [*, frontSB]

theorem startSB (s : TestState B EntryFn) (h : BootedSB cfg s) :
    Leads (program (body cfg)).next (Sound (Good cfg) sbLowPrioThread)
      s (HeadSB cfg (frontSB cfg ++ dummiesSB cfg) 0) := by
  have hlt := dummyPrio_bounds_SB cfg
  have hfront : ∀ u ∈ frontSB cfg, u = sbLowPrioThread := by
    unfold frontSB
    split <;> simp
  refine (createDummies_leads (D := sbDummyThreads) (.sem _ h.sem)
    (.loop .plain) (fun _ _ => sbDummyThreads.inj) (by simp) ?_
    (sound_of_scaffold cfg (D := sbDummyThreads) nofun sbLowPrioThread) h.runs h.irq
    h.idle.2.2.2 ?_ ?_).mono fun t ht => ?_
  · exact fun j hj => nomatch hfront _ hj
  · simpa [h.idle.1] using fun j hj => (hlt j hj).2
  · intro u hu j hj
    rw [hfront u hu, h.low.1]
    exact Nat.le_of_lt (hlt j hj).1
  obtain ⟨⟨_, _, _, _, _, _⟩, _, _, _⟩ := h
  cases ht
  constructor
  · constructor <;> simp [*]
  all_goals simp +contextual [*, dummiesSB, countSB, iTaskSB]

/-- A pass in which the give reaches `L_Task_SB`: no dummy task runs. -/
theorem passSB_waiter {i : Nat} (hi : i ≤ cfg.measurementCount - 1)
    (hw : cfg.testSbHasWaiter = true) (s : TestState B EntryFn)
    (h : HeadSB cfg (sbLowPrioThread :: dummiesSB cfg) i s) :
    Leads (program (body cfg)).next (Sound (Good cfg) sbLowPrioThread) s
      (HeadSB cfg (sbLowPrioThread :: dummiesSB cfg) (i + 1)) := by
  have hlt := dummyPrio_bounds_SB cfg
  have hperm := dummiesSB_perm cfg
  obtain ⟨⟨_, _, _, _, _, _⟩, _, _, _, _⟩ := h
  have hins : insertPrio s.kern.prio sbLowPrioThread (dummiesSB cfg) =
      sbLowPrioThread :: dummiesSB cfg :=
    insertPrio_of_lt (by simp +contextual [*])
  have hcount : ∀ k, countSB cfg k = 0 := by simp [countSB, hw]
  -- I_Task takes the YIELD bit and resumes H_Task_SB
  iterate 3
    refine .step (by simp [*]) ?_
    simp [*]
  -- one sample
  iterate 7
    refine .step (by simp [*, hTaskSBSample, GiveSB]) ?_
    simp [*, hTaskSBSample]
  -- H_Task_SB suspends itself, L_Task_SB signals and waits again
  iterate 5
    refine .step (by simp [*]) ?_
    simp [*]
  refine .done ?_
  constructor
  · constructor <;> simp [*, hTaskSBSample]
  all_goals simp +contextual [*]

/-- A pass in which nobody waits: the give counts up. -/
theorem passSB_alone {i : Nat} (hi : i ≤ cfg.measurementCount - 1)
    (hw : cfg.testSbHasWaiter = false) (hd : cfg.dummyCount = 0) (s : TestState B EntryFn)
    (h : HeadSB cfg [] i s) :
    Leads (program (body cfg)).next (Sound (Good cfg) sbLowPrioThread)
      s (HeadSB cfg [] (i + 1)) := by
  obtain ⟨⟨_, _, _, _, _, _⟩, _, _, _, _⟩ := h
  have hlimit : i ≠ Kernel.semMaxLimit := by
    have h1 := cfg.one_le_measurementCount
    have h2 := cfg.measurementCount_le
    omega
  have hcount : ∀ k, countSB cfg k = k := by simp [countSB, hw, hd]
  -- I_Task takes the YIELD bit and resumes H_Task_SB
  iterate 3
    refine .step (by simp [*]) ?_
    simp [*]
  -- one sample
  iterate 8
    refine .step (by simp [*, hTaskSBSample, GiveSB]) ?_
    simp [*, hTaskSBSample]
  -- H_Task_SB suspends itself, L_Task_SB signals and suspends itself
  iterate 5
    refine .step (by simp [*]) ?_
    simp [*]
  refine .done ?_
  constructor
  · constructor <;> simp [*, hTaskSBSample]
  all_goals simp [*]

/-- The dummy tasks of S_B wait in `q`, in priority order. -/
structure QueueSB (q : List Thread) (s : TestState B EntryFn) : Prop where
  perm : q.Perm (dummiesSB cfg)
  sorted : SortedPrio s.kern.prio q

theorem QueueSB.dummiesWait {q : List Thread} {s : TestState B EntryFn} (h : QueueSB cfg q s)
    (hd : cfg.dummyCount ≠ 0)
    (hprio : ∀ i < cfg.dummyCount, s.kern.prio (sbDummyThreads i) = cfg.sbDummyPrios i) :
    DummiesWait cfg q := by
  obtain ⟨hperm, hsorted⟩ := h
  refine ⟨hperm.trans (dummiesSB_perm cfg), ?_⟩
  cases q with
  | nil => simp [dummiesSB, hd] at hperm
  | cons x q =>
    obtain ⟨i, hi, rfl⟩ := (mem_dummiesSB cfg).mp (hperm.mem_iff.mp List.mem_cons_self)
    refine ⟨i, hi, rfl, fun j hj => ?_⟩
    have hj' := hperm.mem_iff.mpr ((mem_dummiesSB cfg).mpr ⟨j, hj, rfl⟩)
    rcases List.mem_cons.mp hj' with h | h
    · exact Nat.le_of_eq (by rw [sbDummyThreads.inj h])
    · rw [← hprio i hi, ← hprio j hj]
      exact (List.pairwise_cons.mp hsorted).1 _ h

/-- A pass in which the give reaches a dummy task: it runs after `L_Task_SB`
has signalled, and takes the semaphore again. -/
theorem passSB_dummy {i : Nat} (hi : i ≤ cfg.measurementCount - 1)
    (hw : cfg.testSbHasWaiter = false) (hd : cfg.dummyCount ≠ 0) {q : List Thread}
    (s : TestState B EntryFn) (hq : QueueSB cfg q s) (h : HeadSB cfg q i s) :
    Leads (program (body cfg)).next (Sound (Good cfg) sbLowPrioThread) s
      (fun t => ∃ q, QueueSB cfg q t ∧ HeadSB cfg q (i + 1) t) := by
  have hlt := dummyPrio_bounds_SB cfg
  have hwait := hq.dummiesWait cfg hd fun j hj => (h.dummies j hj).1
  obtain ⟨hperm, hsorted⟩ := hq
  cases q with
  | nil => simp [dummiesSB, hd] at hperm
  | cons x q =>
    obtain ⟨j, hj, rfl⟩ := (mem_dummiesSB cfg).mp (hperm.mem_iff.mp List.mem_cons_self)
    obtain ⟨⟨_, _, _, _, _, _⟩, _, _, _, _⟩ := h
    have hhigh : 8 ≤ cfg.sbDummyPrios j := Nat.le_trans (by decide) (hlt j hj).1
    have hlow : ¬ cfg.sbDummyPrios j ≤ 10 := Nat.not_le.mpr (hlt j hj).1
    have hidle : ¬ 15 ≤ cfg.sbDummyPrios j := Nat.not_le.mpr (hlt j hj).2
    have hcount : ∀ k, countSB cfg k = 0 := by simp [countSB, hd]
    -- I_Task takes the YIELD bit and resumes H_Task_SB
    iterate 3
      refine .step (by simp [*]) ?_
      simp [*]
    -- one sample
    iterate 8
      refine .step (by simp [*, hTaskSBSample, GiveSB]) ?_
      simp [*, hTaskSBSample]
    -- H_Task_SB suspends itself, L_Task_SB signals and suspends itself
    iterate 5
      refine .step (by simp [*]) ?_
      simp [*]
    -- the dummy task waits again
    iterate 2
      refine .step (by simp [*]) ?_
      simp [*]
    refine .done ⟨insertPrio s.kern.prio (sbDummyThreads j) q,
      ⟨(insertPrio_perm _ _).trans hperm, hsorted.of_cons.insertPrio⟩, ?_⟩
    constructor
    · constructor <;> simp [*, hTaskSBSample]
    all_goals simp +contextual [*]

/-- The loop over the iteration cycles of S_B, to its end. -/
theorem loopSB (s : TestState B EntryFn) (hprio : ∀ i < cfg.dummyCount,
    s.kern.prio (sbDummyThreads i) = cfg.sbDummyPrios i)
    (h : HeadSB cfg (frontSB cfg ++ dummiesSB cfg) 0 s) :
    Leads (program (body cfg)).next (Sound (Good cfg) sbLowPrioThread) s
      (fun t => ∃ q, HeadSB cfg q cfg.measurementCount t) := by
  cases hw : cfg.testSbHasWaiter with
  | true =>
    have hq : frontSB cfg ++ dummiesSB cfg = sbLowPrioThread :: dummiesSB cfg := by
      simp [frontSB, hw]
    rw [hq] at h
    exact (Leads.loop (S := HeadSB cfg _)
      (fun i hi => passSB_waiter cfg (Nat.le_sub_one_of_lt hi) hw) h).mono fun t ht => ⟨_, ht⟩
  | false =>
    have hq : frontSB cfg ++ dummiesSB cfg = dummiesSB cfg := by simp [frontSB, hw]
    rw [hq] at h
    by_cases hd : cfg.dummyCount = 0
    · have hnil : dummiesSB cfg = [] := by simp [dummiesSB, hd]
      rw [hnil] at h
      exact (Leads.loop (S := HeadSB cfg _)
        (fun i hi => passSB_alone cfg (Nat.le_sub_one_of_lt hi) hw hd) h).mono fun t ht => ⟨_, ht⟩
    · refine (Leads.loop (S := fun i t => ∃ q, QueueSB cfg q t ∧ HeadSB cfg q i t)
        (n := cfg.measurementCount) (fun i hi t ht => ?_) ?_).mono fun t ht => ?_
      · obtain ⟨q, hq, ht⟩ := ht
        exact passSB_dummy cfg (Nat.le_sub_one_of_lt hi) hw hd t hq ht
      · exact ⟨_, ⟨.refl _, sortedPrio_dummies hprio⟩, h⟩
      · obtain ⟨q, -, ht⟩ := ht
        exact ⟨q, ht⟩

theorem endSB {q : List Thread} (s : TestState B EntryFn)
    (h : HeadSB cfg q cfg.measurementCount s) :
    Leads (program (body cfg)).next (Sound (Good cfg) sbLowPrioThread) s
      (AtVerdict cfg.measurementCount cfg.measurementCount) := by
  have hexit : ¬ cfg.measurementCount ≤ cfg.measurementCount - 1 := by
    have := cfg.one_le_measurementCount
    omega
  obtain ⟨⟨_, _, _, _, _, _⟩, _, _, _, _⟩ := h
  iterate 3
    refine .step (by simp [*]) ?_
    simp [*]
  refine .done ?_
  constructor <;> simp [*, VerdictCode.head]

/-! ## 4. The whole run -/

/-- Up to the first signal of S_B. -/
theorem run_leads_SA :
    Leads (program (body cfg)).next (Sound (Good (B := B) cfg) saHighPrioThread)
      (start (body cfg) .iTask) (MergingSB cfg) := by
  refine (boot_leads cfg).bind ?_
  intro s hs
  refine (startSA cfg s hs).bind ?_
  intro s hs
  refine (Leads.loop (S := fun i => HeadSA cfg (i + 1) (iTaskLoopSA cfg i :: _))
    (fun i hi => cycleSA cfg hi) hs).bind ?_
  intro s hs
  refine (endSA cfg s hs).bind ?_
  intro s hs
  exact leaveSA cfg s hs

/-- From the first signal of S_B on. -/
theorem run_leads_SB (s : TestState B EntryFn) (hs : MergingSB cfg s) :
    Leads (program (body cfg)).next (Sound (Good cfg) sbLowPrioThread)
      ((program (body cfg)).next s) (AtVerdict cfg.measurementCount cfg.measurementCount) := by
  refine (mergeSB cfg s hs).bind ?_
  intro s hs
  refine (startSB cfg s hs).bind ?_
  intro s hs
  refine (loopSB cfg s (fun i hi => (hs.dummies i hi).1) hs).bind ?_
  intro s hs
  obtain ⟨q, hs⟩ := hs
  exact endSB cfg s hs

theorem merging_of_mergingSB (s : TestState B EntryFn) (h : MergingSB cfg s) :
    Merging sbLowPrioThread s := by
  cases h
  constructor <;> simp [*, CallsNext]

theorem good_of_mergingSB (s : TestState B EntryFn) (h : MergingSB cfg s) : Good cfg s := by
  cases h
  simp [*]

theorem run_leads :
    Leads (program (body cfg)).next (Good (B := B) cfg) (start (body cfg) .iTask)
      (AtVerdict cfg.measurementCount cfg.measurementCount) :=
  leads_of_sound (run_leads_SA cfg) (good_of_mergingSB cfg) (run_leads_SB cfg)

/-- Every pass of S_A but the last and every turn of S_B but the first is
acknowledged. -/
theorem semPreempt_acknowledged {K : Type} (Z : Zephyr K Thread Object Empty EntryFn) :
    ∃ first, Acknowledged saHighPrioThread sbLowPrioThread first
      (run (B := B) Z (body cfg) .iTask) :=
  acknowledged_of_leads Z ((run_leads_SA cfg).imp fun _ h => h.2) (merging_of_mergingSB cfg)
    fun s hs => (run_leads_SB cfg s hs).imp fun _ h => h.2

theorem good_of_atVerdict {a b : Nat} (s : TestState B EntryFn) (h : AtVerdict a b s) :
    Good cfg s :=
  h.atStmt trivial (fun _ _ => trivial) fun _ => trivial

/-- The run over any documented kernel gets to the verdict with
`MEASUREMENT_COUNT` samples in each scenario; every sample that is recorded
has the window it should have, and every give finds the head of the wait queue
that it should find. -/
theorem semPreempt_settles {K : Type} (Z : Zephyr K Thread Object Empty EntryFn) :
    Ends (run (B := B) Z (body cfg) .iTask)
        (AtVerdict cfg.measurementCount cfg.measurementCount) ∧
      ∀ n, Good cfg (run (B := B) Z (body cfg) .iTask n) :=
  run_of_leads Z (run_leads cfg) (good_of_atVerdict cfg)

end ZephyrBench.TaskSwitching.SemPreempt

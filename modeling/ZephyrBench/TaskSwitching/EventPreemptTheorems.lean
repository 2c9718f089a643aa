/-
ZephyrBench.TaskSwitching.EventPreemptTheorems — what `event_preempt` measures.

`eventPreempt_settles`: both scenarios record `MEASUREMENT_COUNT` samples, with
and without a waiter in S_B, for every number of dummy tasks and every documented
kernel. Every post of a measured bit finds exactly the waiters it should find:
the dummy tasks of the scenario and the measured task, or in S_B `L_Task_SB` if
it is a waiter.

## How the proof goes

A post of the measured bit wakes all waiters at once. The measured task outranks
the dummy tasks in S_A and is the caller in S_B, so they run only after the
sample is recorded, and they wait again before the next one (`sampleSA`,
`passSA`; `sampleSB_waiter` and `sampleSB_resumed`, `passSB`). `RestSA` and
`RestSB` have what holds of the tasks of a scenario while no sample is taken.

The measured bit of S_B may stay in the event: a build without waiter and without
dummy tasks posts it to nobody. `LeftSB` bounds what can be left, so that it is
no signal and no start; no dummy task waits for it, since with a dummy task every
post is consumed.

The run is cut at the first signal of S_B (`MergingSB`), the only one that finds
its bit set; `eventPreempt_acknowledged` follows from the same two executions.
-/
import ZephyrBench.TaskSwitching.Dummies
import ZephyrBench.TaskSwitching.EventPreempt
import ZephyrBench.TaskSwitching.Signals

namespace ZephyrBench.TaskSwitching.EventPreempt

open Rtos Rtos.Exec Thread Object Series Marker

variable {B : Bmth} (cfg : Config)

/-! ## 1. What is claimed of every state -/

/-- The window of a sample of S_A, latest entry first. -/
def windowSA : List (HistEntry EntryFn) :=
  [ .exec saHighPrioThread (.prim (.getStopCnt testStopTime)),
    .switch (some saLowPrioThread) (some saHighPrioThread),
    .exec saLowPrioThread (.call (.kEventPost testEvent scenarioAEventMask)),
    .exec saLowPrioThread (.prim (.getStartCnt testStartTime)) ]

/-- The window of a sample of S_B. -/
def windowSB : List (HistEntry EntryFn) :=
  [ .exec sbHighPrioThread (.prim (.getStopCnt testStopTime)),
    .exec sbHighPrioThread (.call (.kEventPost testEvent scenarioBEventMask)),
    .exec sbHighPrioThread (.prim (.getStartCnt testStartTime)) ]

/-- The waiters that a post of the measured bit of S_B is to find. -/
def waitersSB : List Thread :=
  (List.range cfg.dummyCount).map sbDummyThreads ++
    if cfg.testSbHasWaiter then [sbLowPrioThread] else []

/-- The waiters on `test_event` that match `mask` are `l`. -/
def Matching (s : TestState B EntryFn) (mask : BitVec 32) (l : List Thread) : Prop :=
  (Kernel.matching s.kern.events mask (s.kern.waitq testEvent)).Perm l

/-- What `t` is about to execute finds the state as it should be. -/
def Good (s : TestState B EntryFn) : Prop :=
  s.AtStmt fun t (st : Statement B EntryFn) =>
    match st with
    | .prim (.mseriesIterate scenarioA start stop _) =>
      t = saHighPrioThread ∧ s.mem.isOpen scenarioA = true ∧ s.Window start stop windowSA
    | .prim (.mseriesIterate scenarioB start stop _) =>
      t = sbHighPrioThread ∧ s.mem.isOpen scenarioB = true ∧ s.Window start stop windowSB
    | .call c =>
      (c s.mem = .kEventPost testEvent scenarioAEventMask →
        Matching s scenarioAEventMask
          (saHighPrioThread :: (List.range cfg.dummyCount).map saDummyThreads)) ∧
      (c s.mem = .kEventPost testEvent scenarioBEventMask →
        Matching s scenarioBEventMask (waitersSB cfg))
    | _ => True

/-! ## 2. S_A -/

/-- The dummy tasks of S_A in the order in which they wait. -/
def dummiesSA : List Thread := (dummyOrder cfg.saDummyPrios cfg.dummyCount).map saDummyThreads

@[local simp] theorem mem_dummiesSA {t : Thread} :
    t ∈ dummiesSA cfg ↔ ∃ i < cfg.dummyCount, saDummyThreads i = t := by
  simp [dummiesSA]

theorem dummiesSA_perm :
    (dummiesSA cfg).Perm ((List.range cfg.dummyCount).map saDummyThreads) :=
  dummyOrder_perm.map _

theorem dummyPrio_bounds_SA : ∀ i < cfg.dummyCount,
    2 ≤ cfg.saDummyPrios i ∧ cfg.saDummyPrios i < 7 ∧ cfg.saDummyPrios i < 15 := by
  intro i hi
  have h := cfg.saDummyPrios_between i hi
  simp only [taskSaHighPrio, taskSaLowPrio] at h
  omega

/-- The tasks of S_A while no sample is being taken: `code` is what is left of
`I_Task`, and `n` samples are recorded. -/
structure RestSA (n : Nat) (code : Code B EntryFn) (s : TestState B EntryFn) : Prop where
  irq : s.NoIrq
  waiting : s.kern.waitq testEvent = saHighPrioThread :: dummiesSA cfg
  idle : s.ThreadAt idleThread taskIdlePrio false .no code
  high : s.ThreadAt saHighPrioThread taskSaHighPrio false (.on testEvent)
    (hTaskSALoop.tail ++ [.loop hTaskSALoop])
  highEvents : s.kern.events saHighPrioThread = scenarioAEventMask
  dummies : ∀ i < cfg.dummyCount, s.ThreadAt (saDummyThreads i) (cfg.saDummyPrios i) false
    (.on testEvent) dummyTask
  dummyEvents : ∀ i < cfg.dummyCount, s.kern.events (saDummyThreads i) = scenarioAEventMask
  mask : s.mem.vars.dummyTaskEventMask = scenarioAEventMask
  countA : s.mem.count scenarioA = n
  countB : s.mem.count scenarioB = 0

/-- `L_Task_SA` runs and is about to begin a pass. -/
structure PassSA (n : Nat) (code : Code B EntryFn) (s : TestState B EntryFn) : Prop
    extends RestSA cfg n code s where
  runs : s.Runs saLowPrioThread [saLowPrioThread, idleThread]
  event : s.kern.obj testEvent = .event 0
  low : s.ThreadAt saLowPrioThread taskSaLowPrio false .no [.loop lTaskSALoop]

/-- `I_Task` runs, `L_Task_SA` has suspended itself. -/
structure HeadSA (n : Nat) (code : Code B EntryFn) (s : TestState B EntryFn) : Prop
    extends RestSA cfg n code s where
  runs : s.Runs idleThread [idleThread]
  event : s.kern.obj testEvent = .event signalizeYieldEventMask
  low : s.ThreadAt saLowPrioThread taskSaLowPrio true .no [.loop lTaskSALoop]

attribute [local simp] Sound Signals SignalCall Good State.Window windowSA windowSB taskIdlePrio
  taskSaLowPrio taskSaHighPrio taskSbHighPrio taskSbLowPrio signalizeYieldEventMask startEventMask
  scenarioAEventMask scenarioBEventMask iTaskLoopSA iTaskLoopSB lTaskSALoop hTaskSALoop
  hTaskSBLoop lTaskSBLoop body lTaskSA hTaskSA hTaskSB lTaskSB dummyTask

/-- `H_Task_SA` waits again; the dummy tasks, woken by the same post, are ready. -/
structure SampledSA (n : Nat) (code : Code B EntryFn) (s : TestState B EntryFn) : Prop where
  current : s.kern.current = (dummiesSA cfg ++ [saLowPrioThread, idleThread]).head?
  readyq : s.kern.readyq = dummiesSA cfg ++ [saLowPrioThread, idleThread]
  irq : s.NoIrq
  event : s.ObjectAt testEvent (.event signalizeYieldEventMask) [saHighPrioThread]
  idle : s.ThreadAt idleThread taskIdlePrio false .no code
  high : s.ThreadAt saHighPrioThread taskSaHighPrio false (.on testEvent)
    (hTaskSALoop.tail ++ [.loop hTaskSALoop])
  highEvents : s.kern.events saHighPrioThread = scenarioAEventMask
  low : s.ThreadAt saLowPrioThread taskSaLowPrio false .no
    [kcall .kThreadSuspendCurrent, .loop lTaskSALoop]
  dummies : ∀ i < cfg.dummyCount, s.kern.prio (saDummyThreads i) = cfg.saDummyPrios i ∧
    s.kern.suspended (saDummyThreads i) = false ∧ s.code (saDummyThreads i) = dummyTask
  mask : s.mem.vars.dummyTaskEventMask = scenarioAEventMask
  countA : s.mem.count scenarioA = n
  countB : s.mem.count scenarioB = 0

theorem sound_of_scaffold {D : Nat → Thread} (hD : ∀ i, D i ≠ sbHighPrioThread)
    (poster : Thread) (s : TestState B EntryFn)
    (h : s.AtStmt fun _ st => ScaffoldOf D waitOnMask st) : Sound (Good cfg) poster s := by
  constructor
  · exact h.mono fun _ _ h => by cases h <;> simp [waitOnMask]
  · exact h.mono fun _ _ h => by cases h <;> simp [waitOnMask, hD]

theorem sound_of_removal (poster : Thread) (s : TestState B EntryFn)
    (h : s.AtStmt fun _ st => Removal st) : Sound (Good cfg) poster s := by
  constructor
  · exact h.mono fun _ _ h => by cases h <;> simp
  · exact h.mono fun _ _ h => by cases h <;> simp

/-- From the pass of `L_Task_SA` to the next wait of `H_Task_SA`. -/
theorem sampleSA {n : Nat} {code : Code B EntryFn} (s : TestState B EntryFn)
    (h : PassSA cfg n code s) :
    Leads (program (body cfg)).next (Sound (Good cfg) saHighPrioThread)
      s (SampledSA cfg (n + 1) code) := by
  obtain ⟨⟨_, _, _, _, _, _, _, _, _, _⟩, _, _, _⟩ := h
  have hmatch : Kernel.matching s.kern.events scenarioAEventMask (dummiesSA cfg) =
      dummiesSA cfg :=
    Kernel.matching_eq_self (by simp +contextual [*])
  have hrest : Kernel.notMatching s.kern.events scenarioAEventMask (dummiesSA cfg) = [] :=
    Kernel.notMatching_eq_nil (by simp +contextual [*])
  have hconsumed : scenarioAEventMask |||
      Kernel.consumedBits s.kern.events scenarioAEventMask (dummiesSA cfg) = scenarioAEventMask :=
    Kernel.or_consumedBits (by simp +contextual [*])
  simp only [scenarioAEventMask, BitVec.ofNat_eq_ofNat] at hmatch hrest hconsumed
  have hawake : awake s.kern.suspended (dummiesSA cfg) = dummiesSA cfg :=
    awake_eq_self (by simp +contextual [*])
  have hready : enqueueAll s.kern.prio (dummiesSA cfg)
      [saHighPrioThread, saLowPrioThread, idleThread] =
      saHighPrioThread :: (dummiesSA cfg ++ [saLowPrioThread, idleThread]) := by
    have hlt := dummyPrio_bounds_SA cfg
    exact enqueueAll_dummies (a := [saHighPrioThread]) (b := [saLowPrioThread, idleThread])
      (by simp +contextual [*]) (by simp +contextual [*]) (by simp +contextual [*])
  have hperm := dummiesSA_perm cfg
  -- L_Task_SA takes the start marker and posts
  iterate 5
    refine .step (by simp [*, Matching]) ?_
    simp [*]
  -- H_Task_SA takes the stop marker, records and waits again
  iterate 6
    refine .step (by simp [*]) ?_
    simp [*]
  refine .done ?_
  constructor <;> simp +contextual [*]

/-- A whole pass of S_A: the dummy tasks wait again, then `L_Task_SA` suspends
itself. -/
theorem passSA {n : Nat} {code : Code B EntryFn} (s : TestState B EntryFn)
    (h : PassSA cfg n code s) :
    Leads (program (body cfg)).next (Sound (Good cfg) saHighPrioThread)
      s (HeadSA cfg (n + 1) code) := by
  refine (sampleSA cfg s h).bind ?_
  intro s h
  have hlt := dummyPrio_bounds_SA cfg
  refine (requeue_leads (D := saDummyThreads) .plain (fun _ _ => saDummyThreads.inj)
    (sound_of_scaffold cfg (D := saDummyThreads) nofun saHighPrioThread)
    h.current h.readyq h.irq h.event (.inr rfl) (fun i hi => (h.dummies i hi).1) ?_
    (fun i hi => (h.dummies i hi).2.2) h.mask).bind fun t ht => ?_
  · simpa [h.high.1] using fun j hj => (hlt j hj).1
  cases h
  cases ht
  -- L_Task_SA suspends itself
  refine .step (by simp [*]) ?_
  simp [*]
  refine .done ?_
  constructor
  · constructor <;> simp +contextual [*, dummiesSA]
  all_goals simp [*]

/-- One iteration cycle of `I_Task`. -/
theorem cycleSA {i : Nat} (hi : i < cfg.measurementCount - 1) {rest : Code B EntryFn}
    (s : TestState B EntryFn) (h : HeadSA cfg (i + 1) (iTaskLoopSA cfg i :: rest) s) :
    Leads (program (body cfg)).next (Sound (Good cfg) saHighPrioThread) s
      (HeadSA cfg (i + 2) (iTaskLoopSA cfg (i + 1) :: rest)) := by
  have hpass : Leads (program (body cfg)).next (Sound (Good cfg) saHighPrioThread) s
      (PassSA cfg (i + 1) (iTaskLoopSA cfg (i + 1) :: rest)) := by
    obtain ⟨⟨_, _, _, _, _, _, _, _, _, _⟩, _, _, _⟩ := h
    iterate 3
      refine .step (by simp [*]) ?_
      simp [*]
    refine .done ?_
    constructor
    · constructor <;> simp +contextual [*]
    all_goals simp [*]
  exact hpass.bind (passSA cfg)

/-- `I_Task` is about to create the dummy tasks of S_A; `H_Task_SA` waits. -/
structure BootedSA (s : TestState B EntryFn) : Prop where
  runs : s.Runs idleThread [idleThread]
  irq : s.NoIrq
  event : s.ObjectAt testEvent (.event startEventMask) [saHighPrioThread]
  idle : s.ThreadAt idleThread taskIdlePrio false .no
    (createDummies saDummyThreads .dummyTask cfg.saDummyPrios cfg.dummyCount 0 :: iTaskSA cfg)
  high : s.ThreadAt saHighPrioThread taskSaHighPrio false (.on testEvent)
    (hTaskSALoop.tail ++ [.loop hTaskSALoop])
  highEvents : s.kern.events saHighPrioThread = scenarioAEventMask
  mask : s.mem.vars.dummyTaskEventMask = scenarioAEventMask
  countA : s.mem.count scenarioA = 0
  countB : s.mem.count scenarioB = 0

theorem boot_leads :
    Leads (program (body cfg)).next (Sound (Good (B := B) cfg) saHighPrioThread)
      (start (body cfg) .iTask)
      (BootedSA cfg) := by
  iterate 6
    refine .step (by simp [start, iTask, Kernel.boot]) ?_
    simp [start, iTask, Kernel.boot]
  refine .done ?_
  constructor <;> simp [Mem.initial]

/-- The dummy tasks are created, then `L_Task_SA`, which finds the start bit
and makes the first pass. -/
theorem startSA (s : TestState B EntryFn) (h : BootedSA cfg s) :
    Leads (program (body cfg)).next (Sound (Good cfg) saHighPrioThread) s
      (HeadSA cfg 1 (iTaskLoopSA cfg 0 :: kcall (.kThreadAbort saLowPrioThread) ::
        kcall (.kThreadAbort saHighPrioThread) :: abortDummies cfg.dummyCount 0 ::
        iTaskStartSB cfg)) := by
  have hlt := dummyPrio_bounds_SA cfg
  refine (createDummies_leads (D := saDummyThreads) (.eventOf _ _ h.event (by decide) h.mask)
    (.loop .plain) (fun _ _ => saDummyThreads.inj) (by simp) (by simp)
    (sound_of_scaffold cfg (D := saDummyThreads) nofun saHighPrioThread) h.runs h.irq
    h.idle.2.2.2 ?_ ?_).bind fun t ht => ?_
  · simpa [h.idle.1] using fun j hj => (hlt j hj).2.2
  · simpa [h.high.1] using fun j hj => (hlt j hj).1
  cases h
  cases ht
  have hpass : Leads (program (body cfg)).next (Sound (Good cfg) saHighPrioThread) t
      (PassSA cfg 0 (iTaskLoopSA cfg 0 :: kcall (.kThreadAbort saLowPrioThread) ::
        kcall (.kThreadAbort saHighPrioThread) :: abortDummies cfg.dummyCount 0 ::
        iTaskStartSB cfg)) := by
    -- L_Task_SA is created and finds the start bit
    iterate 2
      refine .step (by simp [*, iTaskSA]) ?_
      simp [*, iTaskSA]
    refine .done ?_
    constructor
    · constructor <;> simp +contextual [*, dummiesSA]
    all_goals simp [*]
  exact hpass.bind (passSA cfg)

/-- `I_Task` has left the loop of S_A and removed the two measured tasks. -/
structure LeavingSA (s : TestState B EntryFn) : Prop where
  runs : s.Runs idleThread [idleThread]
  irq : s.NoIrq
  event : s.ObjectAt testEvent (.event signalizeYieldEventMask) (dummiesSA cfg)
  idle : s.ThreadAt idleThread taskIdlePrio false .no
    (abortDummies cfg.dummyCount 0 :: iTaskStartSB cfg)
  pend : ∀ i < cfg.dummyCount, s.kern.pend (saDummyThreads i) = .on testEvent
  countA : s.mem.count scenarioA = cfg.measurementCount
  countB : s.mem.count scenarioB = 0

theorem endSA (s : TestState B EntryFn)
    (h : HeadSA cfg (cfg.measurementCount - 1 + 1) (iTaskLoopSA cfg (cfg.measurementCount - 1) ::
      kcall (.kThreadAbort saLowPrioThread) :: kcall (.kThreadAbort saHighPrioThread) ::
      abortDummies cfg.dummyCount 0 :: iTaskStartSB cfg) s) :
    Leads (program (body cfg)).next (Sound (Good cfg) saHighPrioThread) s (LeavingSA cfg) := by
  have hN : cfg.measurementCount - 1 + 1 = cfg.measurementCount :=
    Nat.sub_add_cancel cfg.one_le_measurementCount
  obtain ⟨⟨_, _, _, _, _, _, _, _, _, _⟩, _, _, _⟩ := h
  iterate 3
    refine .step (by simp [*]) ?_
    simp [*]
  refine .done ?_
  constructor <;> simp +contextual [*]

/-! ## 3. S_B -/

/-- The dummy tasks of S_B in the order in which they wait. -/
def dummiesSB : List Thread := (dummyOrder cfg.sbDummyPrios cfg.dummyCount).map sbDummyThreads

@[local simp] theorem mem_dummiesSB {t : Thread} :
    t ∈ dummiesSB cfg ↔ ∃ i < cfg.dummyCount, sbDummyThreads i = t := by
  simp [dummiesSB]

theorem dummiesSB_perm :
    (dummiesSB cfg).Perm ((List.range cfg.dummyCount).map sbDummyThreads) :=
  dummyOrder_perm.map _

theorem dummyPrio_bounds_SB : ∀ i < cfg.dummyCount,
    8 ≤ cfg.sbDummyPrios i ∧ cfg.sbDummyPrios i < 14 ∧ cfg.sbDummyPrios i < 15 := by
  intro i hi
  have h := cfg.sbDummyPrios_between i hi
  simp only [taskSbHighPrio, taskSbLowPrio] at h
  omega

/-- A bit that a post of S_B left in the event: only one that nobody waited
for. -/
def LeftSB (x : BitVec 32) : Prop :=
  x = 0 ∨ x = scenarioBEventMask ∧ cfg.dummyCount = 0 ∧ cfg.testSbHasWaiter = false

/-- `I_Task` is about to create the dummy tasks of S_B; `H_Task_SB` waits for
the start. -/
structure BootedSB (s : TestState B EntryFn) : Prop where
  runs : s.Runs idleThread [idleThread]
  irq : s.NoIrq
  event : s.ObjectAt testEvent (.event signalizeYieldEventMask) [sbHighPrioThread]
  idle : s.ThreadAt idleThread taskIdlePrio false .no
    (createDummies sbDummyThreads .dummyTask cfg.sbDummyPrios cfg.dummyCount 0 :: iTaskSB cfg)
  high : s.ThreadAt sbHighPrioThread taskSbHighPrio false (.on testEvent)
    [.loop (hTaskSBLoop cfg)]
  highEvents : s.kern.events sbHighPrioThread = startEventMask
  mask : s.mem.vars.dummyTaskEventMask = scenarioBEventMask
  countA : s.mem.count scenarioA = cfg.measurementCount
  countB : s.mem.count scenarioB = 0

theorem leaveSA (s : TestState B EntryFn) (h : LeavingSA cfg s) :
    Leads (program (body cfg)).next (Sound (Good cfg) saHighPrioThread) s (BootedSB cfg) := by
  have hwait : (s.kern.waitq testEvent).Perm ((List.range cfg.dummyCount).map saDummyThreads) :=
    h.event.2.symm ▸ dummiesSA_perm cfg
  refine (abortDummies_leads (sound_of_removal cfg saHighPrioThread) h.runs h.irq h.idle.2.2.2 hwait
    h.pend).bind ?_
  intro t ht
  have hnil := ht.waitq_eq_nil
  cases h
  cases ht
  iterate 3
    refine .step (by simp [*, iTaskStartSB]) ?_
    simp [*, iTaskStartSB]
  refine .done ?_
  constructor <;> simp [*]

/-- The tasks of S_B while no sample is being taken, with `i` samples recorded:
`H_Task_SB` has suspended itself. -/
structure RestSB (i : Nat) (s : TestState B EntryFn) : Prop where
  irq : s.NoIrq
  idle : s.ThreadAt idleThread taskIdlePrio false .no
    (iTaskLoopSB cfg i :: kcall (.kThreadAbort sbLowPrioThread) ::
      kcall (.kThreadAbort sbHighPrioThread) :: verdictLoop)
  high : s.ThreadAt sbHighPrioThread taskSbHighPrio true .no
    (hTaskSBSample cfg ++ [.loop (hTaskSBLoop cfg)])
  dummies : ∀ i < cfg.dummyCount, s.ThreadAt (sbDummyThreads i) (cfg.sbDummyPrios i) false
    (.on testEvent) dummyTask
  dummyEvents : ∀ i < cfg.dummyCount, s.kern.events (sbDummyThreads i) = scenarioBEventMask
  mask : s.mem.vars.dummyTaskEventMask = scenarioBEventMask
  countA : s.mem.count scenarioA = cfg.measurementCount
  countB : s.mem.count scenarioB = i

/-- `L_Task_SB` runs and is about to signal the end of a pass. In the first
pass the signal of the last pass of S_A is still there. -/
structure TurnSB (i : Nat) (s : TestState B EntryFn) : Prop extends RestSB cfg i s where
  runs : s.Runs sbLowPrioThread [sbLowPrioThread, idleThread]
  event : ∃ x y, LeftSB cfg x ∧ y ||| signalizeYieldEventMask = x ||| signalizeYieldEventMask ∧
    s.ObjectAt testEvent (.event y) (dummiesSB cfg)
  low : s.ThreadAt sbLowPrioThread taskSbLowPrio false .no [.loop (lTaskSBLoop cfg)]

/-- `I_Task` runs, `L_Task_SB` waits or has suspended itself. -/
structure HeadSB (i : Nat) (s : TestState B EntryFn) : Prop extends RestSB cfg i s where
  runs : s.Runs idleThread [idleThread]
  event : ∃ x, LeftSB cfg x ∧ s.ObjectAt testEvent (.event (x ||| signalizeYieldEventMask))
    (dummiesSB cfg ++ if cfg.testSbHasWaiter then [sbLowPrioThread] else [])
  low : s.ThreadAt sbLowPrioThread taskSbLowPrio (!cfg.testSbHasWaiter)
    (if cfg.testSbHasWaiter then .on testEvent else .no) [.loop (lTaskSBLoop cfg)]
  lowEvents : cfg.testSbHasWaiter = true → s.kern.events sbLowPrioThread = scenarioBEventMask

/-- `H_Task_SB` has suspended itself again; the dummy tasks and `L_Task_SB`,
woken by the same post or resumed, are ready. -/
structure SampledSB (i : Nat) (s : TestState B EntryFn) : Prop where
  current : s.kern.current = (dummiesSB cfg ++ [sbLowPrioThread, idleThread]).head?
  readyq : s.kern.readyq = dummiesSB cfg ++ [sbLowPrioThread, idleThread]
  irq : s.NoIrq
  event : ∃ x, LeftSB cfg x ∧ s.ObjectAt testEvent (.event x) []
  idle : s.ThreadAt idleThread taskIdlePrio false .no
    (iTaskLoopSB cfg i :: kcall (.kThreadAbort sbLowPrioThread) ::
      kcall (.kThreadAbort sbHighPrioThread) :: verdictLoop)
  high : s.ThreadAt sbHighPrioThread taskSbHighPrio true .no
    (hTaskSBSample cfg ++ [.loop (hTaskSBLoop cfg)])
  low : s.ThreadAt sbLowPrioThread taskSbLowPrio false .no [.loop (lTaskSBLoop cfg)]
  dummies : ∀ i < cfg.dummyCount, s.kern.prio (sbDummyThreads i) = cfg.sbDummyPrios i ∧
    s.kern.suspended (sbDummyThreads i) = false ∧ s.code (sbDummyThreads i) = dummyTask
  mask : s.mem.vars.dummyTaskEventMask = scenarioBEventMask
  countA : s.mem.count scenarioA = cfg.measurementCount
  countB : s.mem.count scenarioB = i

/-- `L_Task_SB` is about to signal the end of its first turn. The signal of the
last pass of S_A is still there. -/
structure MergingSB (s : TestState B EntryFn) : Prop extends RestSB cfg 0 s where
  runs : s.Runs sbLowPrioThread [sbLowPrioThread, idleThread]
  event : s.ObjectAt testEvent (.event signalizeYieldEventMask) (dummiesSB cfg)
  low : s.ThreadAt sbLowPrioThread taskSbLowPrio false .no
    (lTaskSBLoop cfg ++ [.loop (lTaskSBLoop cfg)])

/-- `L_Task_SB` has signalled the end of its turn. -/
structure SignalledSB (i : Nat) (s : TestState B EntryFn) : Prop extends RestSB cfg i s where
  runs : s.Runs sbLowPrioThread [sbLowPrioThread, idleThread]
  event : ∃ x, LeftSB cfg x ∧
    s.ObjectAt testEvent (.event (x ||| signalizeYieldEventMask)) (dummiesSB cfg)
  low : s.ThreadAt sbLowPrioThread taskSbLowPrio false .no
    ((lTaskSBLoop cfg).tail ++ [.loop (lTaskSBLoop cfg)])

/-- A dummy task does not wait for what a post of S_B left. -/
theorem LeftSB.and_eq_zero {x : BitVec 32} (hx : LeftSB cfg x) :
    ∀ i < cfg.dummyCount, scenarioBEventMask &&& (x ||| signalizeYieldEventMask) = 0 := by
  rintro i hi
  rcases hx with rfl | ⟨-, hd, -⟩
  · decide
  · omega

/-- `L_Task_SB` waits or suspends itself. -/
theorem turnSB {i : Nat} (s : TestState B EntryFn) (h : SignalledSB cfg i s) :
    Leads (program (body cfg)).next (Sound (Good cfg) sbLowPrioThread) s (HeadSB cfg i) := by
  have hlt := dummyPrio_bounds_SB cfg
  obtain ⟨⟨_, _, _, _, _, _, _, _⟩, _, ⟨x, hx, _⟩, _⟩ := h
  have hins : insertPrio s.kern.prio sbLowPrioThread (dummiesSB cfg) =
      dummiesSB cfg ++ [sbLowPrioThread] :=
    insertPrio_of_le (by simpa +contextual [*] using fun j hj => Nat.le_of_lt (hlt j hj).2.1)
  cases hw : cfg.testSbHasWaiter with
  | true =>
    have hx' : x = 0 := hx.resolve_right (by simp [hw])
    refine .step (by simp [*]) ?_
    simp [*]
    refine .done ?_
    constructor
    · constructor <;> simp +contextual [*]
    all_goals simp [*, LeftSB]
  | false =>
    refine .step (by simp [*]) ?_
    simp [*]
    refine .done ?_
    constructor
    · constructor <;> simp +contextual [*]
    · simp [*]
    · exact ⟨x, hx, by simp [*]⟩
    all_goals simp [*]

/-- `L_Task_SB` signals the end of a turn that is not the first. -/
theorem signalSB {i : Nat} (s : TestState B EntryFn) (h : TurnSB cfg i s)
    (hclear : yieldPending s.kern = false) :
    Leads (program (body cfg)).next (Sound (Good cfg) sbLowPrioThread) s (SignalledSB cfg i) := by
  have hclear' := hclear
  obtain ⟨⟨_, _, _, _, _, _, _, _⟩, _, ⟨x, y, hx, hy, hevent⟩, _⟩ := h
  rw [yieldPending_of_event hevent.1] at hclear'
  have hy0 : y &&& signalizeYieldEventMask = 0 := by simpa using hclear'
  have hbits := hx.and_eq_zero
  have hmatch : Kernel.matching s.kern.events (x ||| signalizeYieldEventMask) (dummiesSB cfg) =
      [] :=
    Kernel.matching_eq_nil (by simpa +contextual [*] using hbits)
  have hrest : Kernel.notMatching s.kern.events (x ||| signalizeYieldEventMask)
      (dummiesSB cfg) = dummiesSB cfg :=
    Kernel.notMatching_eq_self (by simpa +contextual [*] using hbits)
  simp only [signalizeYieldEventMask, BitVec.ofNat_eq_ofNat] at hy0 hy hmatch hrest
  iterate 2
    refine .step (by simp [*]) ?_
    simp [*]
  refine .done ?_
  constructor
  · constructor <;> simp +contextual [*]
  · simp [*]
  · exact ⟨x, hx, by simp [*]⟩
  · simp [*]

/-- The first signal of S_B changes nothing. -/
theorem mergeSB (s : TestState B EntryFn) (h : MergingSB cfg s) :
    SignalledSB cfg 0 ((program (body cfg)).next s) := by
  obtain ⟨⟨_, _, _, _, _, _, _, _⟩, _, _, _⟩ := h
  have hmatch : Kernel.matching s.kern.events signalizeYieldEventMask (dummiesSB cfg) = [] :=
    Kernel.matching_eq_nil (by simp +contextual [*])
  have hrest : Kernel.notMatching s.kern.events signalizeYieldEventMask (dummiesSB cfg) =
      dummiesSB cfg :=
    Kernel.notMatching_eq_self (by simp +contextual [*])
  simp only [signalizeYieldEventMask, BitVec.ofNat_eq_ofNat] at hmatch hrest
  constructor
  · constructor <;> simp +contextual [*]
  · simp [*]
  · exact ⟨0, .inl rfl, by simp [*]⟩
  · simp [*]

/-- The dummy tasks are created, then `L_Task_SB`, which posts the start. -/
theorem startSB (s : TestState B EntryFn) (h : BootedSB cfg s) :
    Leads (program (body cfg)).next (Sound (Good cfg) saHighPrioThread) s (MergingSB cfg) := by
  have hlt := dummyPrio_bounds_SB cfg
  refine (createDummies_leads (D := sbDummyThreads) (.eventOf _ _ h.event (by decide) h.mask)
    (.loop .plain) (fun _ _ => sbDummyThreads.inj) (by simp) (by simp)
    (sound_of_scaffold cfg (D := sbDummyThreads) nofun saHighPrioThread) h.runs h.irq
    h.idle.2.2.2 ?_ ?_).bind fun t ht => ?_
  · simpa [h.idle.1] using fun j hj => (hlt j hj).2.2
  · simpa [h.high.1] using fun j hj => (hlt j hj).1
  cases h
  cases ht
  have hmatch : Kernel.matching t.kern.events (signalizeYieldEventMask ||| startEventMask)
      ((dummyOrder cfg.sbDummyPrios cfg.dummyCount).map sbDummyThreads) = [] :=
    Kernel.matching_eq_nil (by simp +contextual [*])
  have hrest : Kernel.notMatching t.kern.events (signalizeYieldEventMask ||| startEventMask)
      ((dummyOrder cfg.sbDummyPrios cfg.dummyCount).map sbDummyThreads) = dummiesSB cfg :=
    Kernel.notMatching_eq_self (by simp +contextual [*])
  simp only [startEventMask, signalizeYieldEventMask, BitVec.ofNat_eq_ofNat, BitVec.reduceOr]
    at hmatch hrest
  -- L_Task_SB is created and posts
  iterate 2
    refine .step (by simp [*, iTaskSB]) ?_
    simp [*, iTaskSB]
  -- H_Task_SB suspends itself, L_Task_SB enters its loop
  iterate 3
    refine .step (by simp [*]) ?_
    simp [*]
  refine .done ?_
  constructor
  · constructor <;> simp +contextual [*]
  all_goals simp [*]

/-- From the head of the loop of `I_Task` to the suspension of `H_Task_SB`,
where the post also wakes `L_Task_SB`. -/
theorem sampleSB_waiter {i : Nat} (hi : i ≤ cfg.measurementCount - 1)
    (hw : cfg.testSbHasWaiter = true) (s : TestState B EntryFn) (h : HeadSB cfg i s) :
    Leads (program (body cfg)).next (Sound (Good cfg) sbLowPrioThread)
      s (SampledSB cfg (i + 1)) := by
  have hlt := dummyPrio_bounds_SB cfg
  have hperm := (dummiesSB_perm cfg).append_right [sbLowPrioThread]
  obtain ⟨⟨_, _, _, _, _, _, _, _⟩, _, ⟨x, hx, _⟩, _, _⟩ := h
  have hx' : x = 0 := hx.resolve_right (by simp [hw])
  have hmatch : Kernel.matching s.kern.events scenarioBEventMask
      (dummiesSB cfg ++ [sbLowPrioThread]) = dummiesSB cfg ++ [sbLowPrioThread] :=
    Kernel.matching_eq_self (by simp +contextual [*, or_imp])
  have hrest : Kernel.notMatching s.kern.events scenarioBEventMask
      (dummiesSB cfg ++ [sbLowPrioThread]) = [] :=
    Kernel.notMatching_eq_nil (by simp +contextual [*, or_imp])
  have hconsumed : Kernel.consumedBits s.kern.events scenarioBEventMask
      (dummiesSB cfg ++ [sbLowPrioThread]) = scenarioBEventMask :=
    Kernel.consumedBits_eq (by simp +contextual [*, or_imp]) (by simp)
  simp only [scenarioBEventMask, BitVec.ofNat_eq_ofNat] at hmatch hrest hconsumed
  have hawake : awake (Function.update s.kern.suspended sbHighPrioThread false)
      (dummiesSB cfg ++ [sbLowPrioThread]) = dummiesSB cfg ++ [sbLowPrioThread] :=
    awake_eq_self (by simp +contextual [*, or_imp])
  have hready : enqueueAll s.kern.prio (dummiesSB cfg ++ [sbLowPrioThread])
      [sbHighPrioThread, idleThread] =
      sbHighPrioThread :: (dummiesSB cfg ++ [sbLowPrioThread, idleThread]) := by
    have hdummies : enqueueAll s.kern.prio (dummiesSB cfg) [sbHighPrioThread, idleThread] =
        (sbHighPrioThread :: dummiesSB cfg) ++ [idleThread] :=
      enqueueAll_dummies (a := [sbHighPrioThread]) (b := [idleThread])
        (by simp +contextual [*]) (by simp +contextual [*]) (by simp +contextual [*])
    rw [enqueueAll_append, hdummies, enqueueAll_cons, enqueueAll_nil, insertPrio_between]
    · simp
    · simpa +contextual [*] using fun j hj => Nat.le_of_lt (hlt j hj).2.1
    · simp [*]
  -- I_Task takes the YIELD bit and resumes H_Task_SB
  iterate 3
    refine .step (by simp [*]) ?_
    simp [*]
  -- one sample
  iterate 7
    refine .step (by simp [*, hTaskSBSample, Matching, waitersSB]) ?_
    simp [*, hTaskSBSample]
  -- H_Task_SB suspends itself
  iterate 2
    refine .step (by simp [*]) ?_
    simp [*]
  refine .done ?_
  constructor <;> simp +contextual [*, LeftSB, hTaskSBSample]

/-- From the head of the loop of `I_Task` to the suspension of `H_Task_SB`,
which resumes `L_Task_SB` before the window. -/
theorem sampleSB_resumed {i : Nat} (hi : i ≤ cfg.measurementCount - 1)
    (hw : cfg.testSbHasWaiter = false) (s : TestState B EntryFn) (h : HeadSB cfg i s) :
    Leads (program (body cfg)).next (Sound (Good cfg) sbLowPrioThread)
      s (SampledSB cfg (i + 1)) := by
  have hlt := dummyPrio_bounds_SB cfg
  have hperm := dummiesSB_perm cfg
  obtain ⟨⟨_, _, _, _, _, _, _, _⟩, _, ⟨x, hx, _⟩, _, _⟩ := h
  have hmatch : Kernel.matching s.kern.events scenarioBEventMask (dummiesSB cfg) =
      dummiesSB cfg :=
    Kernel.matching_eq_self (by simp +contextual [*])
  have hrest : Kernel.notMatching s.kern.events scenarioBEventMask (dummiesSB cfg) = [] :=
    Kernel.notMatching_eq_nil (by simp +contextual [*])
  -- without waiters the measured bit stays in the event
  have hleft : ∃ y, LeftSB cfg y ∧ scenarioBEventMask &&&
      ~~~Kernel.consumedBits s.kern.events scenarioBEventMask (dummiesSB cfg) = y := by
    by_cases hd : cfg.dummyCount = 0
    · refine ⟨scenarioBEventMask, .inr ⟨rfl, hd, hw⟩, ?_⟩
      have hnil : dummiesSB cfg = [] := by simp [dummiesSB, hd]
      simp [hnil]
    · refine ⟨0, .inl rfl, ?_⟩
      rw [Kernel.consumedBits_eq (m := scenarioBEventMask) (by simp +contextual [*])
        (by simp [dummiesSB, hd])]
      decide
  obtain ⟨y, hy, hleft⟩ := hleft
  simp only [scenarioBEventMask, BitVec.ofNat_eq_ofNat] at hmatch hrest hleft
  have hawake : awake (Function.update (Function.update s.kern.suspended sbHighPrioThread false)
      sbLowPrioThread false) (dummiesSB cfg) = dummiesSB cfg :=
    awake_eq_self (by simp +contextual [*])
  have hready : enqueueAll s.kern.prio (dummiesSB cfg)
      [sbHighPrioThread, sbLowPrioThread, idleThread] =
      sbHighPrioThread :: (dummiesSB cfg ++ [sbLowPrioThread, idleThread]) :=
    enqueueAll_dummies (a := [sbHighPrioThread]) (b := [sbLowPrioThread, idleThread])
      (by simp +contextual [*]) (by simp +contextual [*]) (by simp +contextual [*])
  have htake : signalizeYieldEventMask &&& (x ||| signalizeYieldEventMask) =
      signalizeYieldEventMask ∧
      (x ||| signalizeYieldEventMask) &&& ~~~signalizeYieldEventMask = x ∧
      x ||| scenarioBEventMask = scenarioBEventMask ∧
      ¬ (x ||| signalizeYieldEventMask) &&& signalizeYieldEventMask = 0 := by
    rcases hx with rfl | ⟨rfl, -, -⟩ <;> decide
  simp only [scenarioBEventMask, signalizeYieldEventMask, BitVec.ofNat_eq_ofNat,
    BitVec.reduceNot] at htake
  -- I_Task takes the YIELD bit and resumes H_Task_SB
  iterate 3
    refine .step (by simp [*]) ?_
    simp [*]
  -- one sample
  iterate 8
    refine .step (by simp [*, hTaskSBSample, Matching, waitersSB]) ?_
    simp [*, hTaskSBSample]
  -- H_Task_SB suspends itself
  iterate 2
    refine .step (by simp [*]) ?_
    simp [*]
  refine .done ?_
  constructor <;> simp +contextual [*, hTaskSBSample]

/-- One iteration cycle of S_B: a sample, the dummy tasks wait again, then
`L_Task_SB` signals. -/
theorem passSB {i : Nat} (hi : i ≤ cfg.measurementCount - 1) (s : TestState B EntryFn)
    (h : HeadSB cfg i s) :
    Leads (program (body cfg)).next (Sound (Good cfg) sbLowPrioThread) s (HeadSB cfg (i + 1)) := by
  have hsample : Leads (program (body cfg)).next (Sound (Good cfg) sbLowPrioThread)
    s (SampledSB cfg (i + 1)) := by
    cases hw : cfg.testSbHasWaiter with
    | true => exact sampleSB_waiter cfg hi hw s h
    | false => exact sampleSB_resumed cfg hi hw s h
  refine hsample.bind ?_
  intro s h
  obtain ⟨x, hx, hevent⟩ := h.event
  have hbits : cfg.dummyCount = 0 ∨ scenarioBEventMask &&& x = 0 := by
    rcases hx with rfl | ⟨-, hd, -⟩
    · exact .inr rfl
    · exact .inl hd
  refine (requeue_leads (D := sbDummyThreads) .plain (fun _ _ => sbDummyThreads.inj)
    (sound_of_scaffold cfg (D := sbDummyThreads) nofun sbLowPrioThread)
    h.current h.readyq h.irq hevent hbits (fun i hi => (h.dummies i hi).1) (by simp)
    (fun i hi => (h.dummies i hi).2.2) h.mask).bind ?_
  intro t ht
  have hclear : yieldPending t.kern = false := by
    have hobj : t.kern.obj testEvent = .event x := by rw [ht.obj, hevent.1]
    rw [yieldPending_of_event hobj]
    rcases hx with rfl | ⟨rfl, -, -⟩ <;> decide
  refine (signalSB cfg t ?_ hclear).bind (turnSB cfg)
  cases h
  cases ht
  constructor
  · constructor <;> simp +contextual [*]
  · simp [*]
  · exact ⟨x, x, hx, rfl, by simp [*, dummiesSB]⟩
  · simp [*]

theorem endSB (s : TestState B EntryFn) (h : HeadSB cfg cfg.measurementCount s) :
    Leads (program (body cfg)).next (Sound (Good cfg) sbLowPrioThread) s
      (AtVerdict cfg.measurementCount cfg.measurementCount) := by
  have hexit : ¬ cfg.measurementCount ≤ cfg.measurementCount - 1 := by
    have := cfg.one_le_measurementCount
    omega
  obtain ⟨⟨_, _, _, _, _, _, _, _⟩, _, _, _, _⟩ := h
  iterate 3
    refine .step (by simp [*]) ?_
    simp [*]
  refine .done ?_
  constructor <;> simp [*, VerdictCode.head]

/-! ## 4. The whole run -/

/-- Up to the first signal of S_B. -/
theorem run_leads_SA :
    Leads (program (body cfg)).next (Sound (Good (B := B) cfg) saHighPrioThread)
      (start (body cfg) .iTask) (MergingSB cfg) := by
  refine (boot_leads cfg).bind ?_
  intro s hs
  refine (startSA cfg s hs).bind ?_
  intro s hs
  refine (Leads.loop (S := fun i => HeadSA cfg (i + 1) (iTaskLoopSA cfg i :: _))
    (fun i hi => cycleSA cfg hi) hs).bind ?_
  intro s hs
  refine (endSA cfg s hs).bind ?_
  intro s hs
  refine (leaveSA cfg s hs).bind ?_
  intro s hs
  exact startSB cfg s hs

/-- From the first signal of S_B on. -/
theorem run_leads_SB (s : TestState B EntryFn) (hs : MergingSB cfg s) :
    Leads (program (body cfg)).next (Sound (Good cfg) sbLowPrioThread)
      ((program (body cfg)).next s) (AtVerdict cfg.measurementCount cfg.measurementCount) := by
  refine (turnSB cfg _ (mergeSB cfg s hs)).bind ?_
  intro s hs
  exact (Leads.loop (S := HeadSB cfg) (fun i hi => passSB cfg (Nat.le_sub_one_of_lt hi)) hs).bind
    (endSB cfg)

theorem merging_of_mergingSB (s : TestState B EntryFn) (h : MergingSB cfg s) :
    Merging sbLowPrioThread s := by
  obtain ⟨⟨_, _, _, _, _, _, _, _⟩, _, _, _⟩ := h
  constructor <;> simp [*, CallsNext]

theorem good_of_mergingSB (s : TestState B EntryFn) (h : MergingSB cfg s) : Good cfg s := by
  obtain ⟨⟨_, _, _, _, _, _, _, _⟩, _, _, _⟩ := h
  simp [*]

theorem run_leads :
    Leads (program (body cfg)).next (Good (B := B) cfg) (start (body cfg) .iTask)
      (AtVerdict cfg.measurementCount cfg.measurementCount) :=
  leads_of_sound (run_leads_SA cfg) (good_of_mergingSB cfg) (run_leads_SB cfg)

/-- Every pass of S_A but the last and every turn of S_B but the first is
acknowledged. -/
theorem eventPreempt_acknowledged {K : Type} (Z : Zephyr K Thread Object Empty EntryFn) :
    ∃ first, Acknowledged saHighPrioThread sbLowPrioThread first
      (run (B := B) Z (body cfg) .iTask) :=
  acknowledged_of_leads Z ((run_leads_SA cfg).imp fun _ h => h.2) (merging_of_mergingSB cfg)
    fun s hs => (run_leads_SB cfg s hs).imp fun _ h => h.2

theorem good_of_atVerdict {a b : Nat} (s : TestState B EntryFn) (h : AtVerdict a b s) :
    Good cfg s :=
  h.atStmt trivial (fun _ _ => trivial) fun _ => trivial

/-- The run over any documented kernel gets to the verdict with
`MEASUREMENT_COUNT` samples in each scenario; every sample that is recorded
has the window it should have, and every post of a measured bit finds the
waiters it should find. -/
theorem eventPreempt_settles {K : Type} (Z : Zephyr K Thread Object Empty EntryFn) :
    Ends (run (B := B) Z (body cfg) .iTask)
        (AtVerdict cfg.measurementCount cfg.measurementCount) ∧
      ∀ n, Good cfg (run (B := B) Z (body cfg) .iTask n) :=
  run_of_leads Z (run_leads cfg) (good_of_atVerdict cfg)

end ZephyrBench.TaskSwitching.EventPreempt

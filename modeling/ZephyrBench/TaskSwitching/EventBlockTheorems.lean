/-
ZephyrBench.TaskSwitching.EventBlockTheorems — what `event_block` measures.

`eventBlock_settles`: both scenarios record `MEASUREMENT_COUNT` samples, for
every number of dummy tasks and every documented kernel. The window of a sample
of S_A has nothing but the wait of `H_Task_SA` and the switch to `L_Task_SA`; the
measured bit is clear when it opens, and all dummy tasks wait.

## How the proof goes

One post of the measured bit of S_A wakes the dummy tasks and `H_Task_SA`
(`postSA`). The dummy tasks outrank it, so they close the window and wait again
before `H_Task_SA` opens it, and only `L_Task_SA` runs after that (`passSA`). The
post leaves the bit clear, since every waiter consumes the same mask.

`L_Task_SA` passes once before there is a start marker: then the window is
closed and nothing is recorded. That is why `Good` asks for the window of a
sample of S_A only when the series is open, and why S_A has `MEASUREMENT_COUNT`
cycles of `I_Task` where S_B has one less.

The run is cut at the first signal of S_B (`MergingSB`), the only one that finds
its bit set. Everything shown of a state is shown together with what the signals
are about (`Sound`), so the same two executions also give
`eventBlock_acknowledged`.
-/
import ZephyrBench.TaskSwitching.Dummies
import ZephyrBench.TaskSwitching.EventBlock
import ZephyrBench.TaskSwitching.Signals

namespace ZephyrBench.TaskSwitching.EventBlock

open Rtos Rtos.Exec Thread Object Series Marker

variable {B : Bmth} (cfg : Config)

/-! ## 1. What is claimed of every state -/

/-- The window of a sample of S_A, latest entry first. -/
def windowSA : List (HistEntry EntryFn) :=
  [ .exec saLowPrioThread (.prim (.getStopCnt testStopTime)),
    .switch (some saHighPrioThread) (some saLowPrioThread),
    .exec saHighPrioThread (.call (.kEventWaitSafe testEvent scenarioAEventMask .forever)),
    .exec saHighPrioThread (.prim (.getStartCnt testStartTime)) ]

/-- The window of a sample of S_B. -/
def windowSB : List (HistEntry EntryFn) :=
  [ .exec sbHighPrioThread (.prim (.getStopCnt testStopTime)),
    .exec sbHighPrioThread (.call (.kEventWaitSafe testEvent scenarioBEventMask .noWait)),
    .exec sbHighPrioThread (.prim (.getStartCnt testStartTime)) ]

/-- What `t` is about to execute finds the state as it should be. `L_Task_SA`
iterates once outside of the window, before there is a start marker. -/
def Good (s : TestState B EntryFn) : Prop :=
  s.AtStmt fun t (st : Statement B EntryFn) =>
    match st with
    | .prim (.mseriesIterate scenarioA start stop _) =>
      t = saLowPrioThread ∧ (s.mem.isOpen scenarioA = true → s.Window start stop windowSA)
    | .prim (.mseriesIterate scenarioB start stop _) =>
      t = sbHighPrioThread ∧ s.mem.isOpen scenarioB = true ∧ s.Window start stop windowSB
    | .prim (.getStartCnt _) =>
      t = saHighPrioThread → ∃ bits, s.kern.obj testEvent = .event bits ∧
        scenarioAEventMask &&& bits = 0 ∧
        (s.kern.waitq testEvent).Perm ((List.range cfg.dummyCount).map saDummyThreads)
    | .call c =>
      c s.mem = .kEventWaitSafe testEvent scenarioBEventMask .noWait →
        t = sbHighPrioThread ∧ ∃ bits, s.kern.obj testEvent = .event bits ∧
          scenarioBEventMask &&& bits = 0
    | _ => True

/-! ## 2. S_A -/

/-- The dummy tasks of S_A in the order in which they wait. -/
def dummiesSA : List Thread := (dummyOrder cfg.saDummyPrios cfg.dummyCount).map saDummyThreads

@[local simp] theorem mem_dummiesSA {t : Thread} :
    t ∈ dummiesSA cfg ↔ ∃ i < cfg.dummyCount, saDummyThreads i = t := by
  simp [dummiesSA]

theorem dummiesSA_perm :
    (dummiesSA cfg).Perm ((List.range cfg.dummyCount).map saDummyThreads) :=
  dummyOrder_perm.map _

theorem dummyPrio_bounds_SA : ∀ i < cfg.dummyCount,
    cfg.saDummyPrios i ≤ 6 ∧ cfg.saDummyPrios i < 7 ∧ cfg.saDummyPrios i < 15 ∧
      cfg.saDummyPrios i < 6 := by
  intro i hi
  have h := cfg.saDummyPrios_lt i hi
  simp only [taskSaHighPrio] at h
  omega

/-- At the head of the loop over the iteration cycles of S_A. -/
structure HeadSA (k : Nat) (s : TestState B EntryFn) : Prop where
  runs : s.Runs idleThread [idleThread]
  irq : s.NoIrq
  event : s.ObjectAt testEvent (.event signalizeYieldEventMask)
    (dummiesSA cfg ++ [saHighPrioThread])
  idle : s.ThreadAt idleThread taskIdlePrio false .no
    (iTaskLoopSA cfg k :: kcall (.kThreadAbort saLowPrioThread) ::
      kcall (.kThreadAbort saHighPrioThread) :: abortDummies cfg.dummyCount 0 :: iTaskSB cfg)
  low : s.ThreadAt saLowPrioThread taskSaLowPrio true .no
    [kcall (.kEventPost testEvent scenarioAEventMask), .loop lTaskSALoop]
  high : s.ThreadAt saHighPrioThread taskSaHighPrio false (.on testEvent) [.loop hTaskSALoop]
  highEvents : s.kern.events saHighPrioThread = scenarioAEventMask
  dummies : ∀ i < cfg.dummyCount, s.ThreadAt (saDummyThreads i) (cfg.saDummyPrios i) false
    (.on testEvent) dummyTask
  dummyEvents : ∀ i < cfg.dummyCount, s.kern.events (saDummyThreads i) = scenarioAEventMask
  mask : s.mem.vars.dummyTaskEventMask = scenarioAEventMask
  countA : s.mem.count scenarioA = k
  countB : s.mem.count scenarioB = 0

/-- `L_Task_SA` has posted: the dummy tasks and `H_Task_SA` are ready. -/
structure PostedSA (k : Nat) (s : TestState B EntryFn) : Prop where
  current : s.kern.current =
    (dummiesSA cfg ++ [saHighPrioThread, saLowPrioThread, idleThread]).head?
  readyq : s.kern.readyq = dummiesSA cfg ++ [saHighPrioThread, saLowPrioThread, idleThread]
  irq : s.NoIrq
  event : s.ObjectAt testEvent (.event 0) []
  idle : s.ThreadAt idleThread taskIdlePrio false .no
    (iTaskLoopSA cfg (k + 1) :: kcall (.kThreadAbort saLowPrioThread) ::
      kcall (.kThreadAbort saHighPrioThread) :: abortDummies cfg.dummyCount 0 :: iTaskSB cfg)
  low : s.ThreadAt saLowPrioThread taskSaLowPrio false .no [.loop lTaskSALoop]
  high : s.ThreadAt saHighPrioThread taskSaHighPrio false .no [.loop hTaskSALoop]
  dummies : ∀ i < cfg.dummyCount, s.kern.prio (saDummyThreads i) = cfg.saDummyPrios i ∧
    s.kern.suspended (saDummyThreads i) = false ∧ s.code (saDummyThreads i) = dummyTask
  mask : s.mem.vars.dummyTaskEventMask = scenarioAEventMask
  countA : s.mem.count scenarioA = k
  countB : s.mem.count scenarioB = 0

attribute [local simp] Sound Signals SignalCall Good State.Window windowSA windowSB taskIdlePrio
  taskSaLowPrio taskSaHighPrio taskSbHighPrio signalizeYieldEventMask startEventMask
  scenarioAEventMask scenarioBEventMask iTaskLoopSA iTaskLoopSB lTaskSALoop hTaskSALoop
  hTaskSBLoop dummyTaskLoop body lTaskSA hTaskSA hTaskSB dummyTask

theorem sound_of_scaffold (poster : Thread) (s : TestState B EntryFn)
    (h : s.AtStmt fun _ st => ScaffoldOf saDummyThreads waitOnMask st) :
    Sound (Good cfg) poster s := by
  constructor
  · exact h.mono fun _ _ h => by cases h <;> simp [waitOnMask]
  · exact h.mono fun _ _ h => by cases h <;> simp [waitOnMask]

theorem sound_of_removal (poster : Thread) (s : TestState B EntryFn)
    (h : s.AtStmt fun _ st => Removal st) : Sound (Good cfg) poster s := by
  constructor
  · exact h.mono fun _ _ h => by cases h <;> simp
  · exact h.mono fun _ _ h => by cases h <;> simp

/-- `I_Task` resumes `L_Task_SA`, which posts. -/
theorem postSA {k : Nat} (hk : k ≤ cfg.measurementCount - 1) (s : TestState B EntryFn)
    (h : HeadSA cfg k s) :
    Leads (program (body cfg)).next (Sound (Good cfg) saLowPrioThread) s (PostedSA cfg k) := by
  have hlt := dummyPrio_bounds_SA cfg
  cases h
  have hmatch : Kernel.matching s.kern.events scenarioAEventMask
      (dummiesSA cfg ++ [saHighPrioThread]) = dummiesSA cfg ++ [saHighPrioThread] :=
    Kernel.matching_eq_self (by simp +contextual [*, or_imp])
  have hrest : Kernel.notMatching s.kern.events scenarioAEventMask
      (dummiesSA cfg ++ [saHighPrioThread]) = [] :=
    Kernel.notMatching_eq_nil (by simp +contextual [*, or_imp])
  have hconsumed : Kernel.consumedBits s.kern.events scenarioAEventMask
      (dummiesSA cfg ++ [saHighPrioThread]) = scenarioAEventMask :=
    Kernel.consumedBits_eq (by simp +contextual [*, or_imp]) (by simp)
  simp only [scenarioAEventMask, BitVec.ofNat_eq_ofNat] at hmatch hrest hconsumed
  have hawake : awake (Function.update s.kern.suspended saLowPrioThread false)
      (dummiesSA cfg ++ [saHighPrioThread]) = dummiesSA cfg ++ [saHighPrioThread] :=
    awake_eq_self (by simp +contextual [*, or_imp])
  have hready : enqueueAll s.kern.prio (dummiesSA cfg ++ [saHighPrioThread])
      [saLowPrioThread, idleThread] =
      dummiesSA cfg ++ [saHighPrioThread, saLowPrioThread, idleThread] := by
    have hdummies : enqueueAll s.kern.prio (dummiesSA cfg) [saLowPrioThread, idleThread] =
        dummiesSA cfg ++ [saLowPrioThread, idleThread] :=
      enqueueAll_dummies (a := []) (by simp +contextual [*]) (by simp) (by simp +contextual [*])
    rw [enqueueAll_append, hdummies, enqueueAll_cons, enqueueAll_nil, insertPrio_between]
    · simp +contextual [*]
    · simp [*]
  iterate 4
    refine .step (by simp [*]) ?_
    simp [*]
  refine .done ?_
  constructor <;> simp +contextual [*]

/-- A whole pass of S_A: the dummy tasks close the window and wait again,
`H_Task_SA` opens it and waits behind them, `L_Task_SA` records. -/
theorem passSA {k : Nat} (hk : k ≤ cfg.measurementCount - 1) (s : TestState B EntryFn)
    (h : HeadSA cfg k s) :
    Leads (program (body cfg)).next (Sound (Good cfg) saLowPrioThread) s (HeadSA cfg (k + 1)) := by
  refine (postSA cfg hk s h).bind ?_
  intro s h
  refine (requeue_leads (D := saDummyThreads) .close (fun _ _ => saDummyThreads.inj)
    (sound_of_scaffold cfg saLowPrioThread) h.current h.readyq h.irq h.event (.inr (by decide))
    (fun i hi => (h.dummies i hi).1) (by simp) (fun i hi => (h.dummies i hi).2.2)
    h.mask).bind ?_
  intro t ht
  have hlt := dummyPrio_bounds_SA cfg
  have hperm := dummiesSA_perm cfg
  have hwait : t.kern.waitq testEvent = dummiesSA cfg := ht.waiting
  obtain ⟨_, _, _, _, _, _, _, _, _, -, _, _, _, _, _, _⟩ := ht
  cases h
  have hins : insertPrio s.kern.prio saHighPrioThread (dummiesSA cfg) =
      dummiesSA cfg ++ [saHighPrioThread] :=
    insertPrio_of_le (by simp +contextual [*])
  have hmatch : Kernel.matching (Function.update t.kern.events saHighPrioThread scenarioAEventMask)
      signalizeYieldEventMask (dummiesSA cfg ++ [saHighPrioThread]) = [] :=
    Kernel.matching_eq_nil (by simp +contextual [*, or_imp])
  have hrest : Kernel.notMatching
      (Function.update t.kern.events saHighPrioThread scenarioAEventMask) signalizeYieldEventMask
      (dummiesSA cfg ++ [saHighPrioThread]) = dummiesSA cfg ++ [saHighPrioThread] :=
    Kernel.notMatching_eq_self (by simp +contextual [*, or_imp])
  simp only [scenarioAEventMask, signalizeYieldEventMask, BitVec.ofNat_eq_ofNat] at hmatch hrest
  -- H_Task_SA opens the window, takes the start marker and waits
  iterate 5
    refine .step (by simp [*]) ?_
    simp [*]
  -- L_Task_SA takes the stop marker and records
  iterate 6
    refine .step (by simp [*]) ?_
    simp [*]
  refine .done ?_
  constructor <;> simp +contextual [*]

/-- `I_Task` is about to create the dummy tasks. -/
structure BootedSA (s : TestState B EntryFn) : Prop where
  runs : s.Runs idleThread [idleThread]
  irq : s.NoIrq
  event : s.ObjectAt testEvent (.event 0) []
  idle : s.ThreadAt idleThread taskIdlePrio false .no
    (createDummies saDummyThreads .dummyTask cfg.saDummyPrios cfg.dummyCount 0 :: iTaskSA cfg)
  mask : s.mem.vars.dummyTaskEventMask = scenarioAEventMask
  isOpen : s.mem.isOpen scenarioA = false
  countA : s.mem.count scenarioA = 0
  countB : s.mem.count scenarioB = 0

theorem boot_leads :
    Leads (program (body cfg)).next (Sound (Good (B := B) cfg) saLowPrioThread)
      (start (body cfg) .iTask)
      (BootedSA cfg) := by
  iterate 2
    refine .step (by simp [start, iTask, Kernel.boot]) ?_
    simp [start, iTask, Kernel.boot]
  refine .done ?_
  constructor <;> simp [Mem.initial]

/-- The dummy tasks wait; `H_Task_SA` waits for the start, `L_Task_SA` makes a
pass without a window, then the post of the start lets `H_Task_SA` wait for the
measured bit for the first time. -/
theorem startSA (s : TestState B EntryFn) (h : BootedSA cfg s) :
    Leads (program (body cfg)).next (Sound (Good cfg) saLowPrioThread) s (HeadSA cfg 0) := by
  have hlt := dummyPrio_bounds_SA cfg
  refine (createDummies_leads (D := saDummyThreads) (.eventOf _ _ h.event (by decide) h.mask)
    (.loop .close) (fun _ _ => saDummyThreads.inj) (by simp) (by simp)
    (sound_of_scaffold cfg saLowPrioThread) h.runs h.irq h.idle.2.2.2 ?_
    (by simp)).bind fun t ht => ?_
  · simpa [h.idle.1] using fun j hj => (hlt j hj).2.2.1
  have hwait : t.kern.waitq testEvent = dummiesSA cfg := ht.waiting
  obtain ⟨_, _, _, _, _, _, _, -, _, _, _, _, _, _, _, _, _, _, _⟩ := ht
  cases h
  have hins : ∀ pr : Thread → Nat, pr saHighPrioThread = 6 →
      (∀ i < cfg.dummyCount, pr (saDummyThreads i) = cfg.saDummyPrios i) →
      insertPrio pr saHighPrioThread (dummiesSA cfg) = dummiesSA cfg ++ [saHighPrioThread] :=
    fun pr h h' => insertPrio_of_le (by simp +contextual [*])
  have hmatch : Kernel.matching (Function.update t.kern.events saHighPrioThread startEventMask)
      signalizeYieldEventMask (dummiesSA cfg ++ [saHighPrioThread]) = [] :=
    Kernel.matching_eq_nil (by simp +contextual [*, or_imp])
  have hrest : Kernel.notMatching (Function.update t.kern.events saHighPrioThread startEventMask)
      signalizeYieldEventMask (dummiesSA cfg ++ [saHighPrioThread]) =
      dummiesSA cfg ++ [saHighPrioThread] :=
    Kernel.notMatching_eq_self (by simp +contextual [*, or_imp])
  -- the start wakes H_Task_SA only
  have hmatch' : Kernel.matching (Function.update t.kern.events saHighPrioThread startEventMask)
      (signalizeYieldEventMask ||| startEventMask) (dummiesSA cfg ++ [saHighPrioThread]) =
      [saHighPrioThread] := by
    rw [Kernel.matching_append, Kernel.matching_eq_nil (by simp +contextual [*])]
    simp
  have hrest' : Kernel.notMatching (Function.update t.kern.events saHighPrioThread startEventMask)
      (signalizeYieldEventMask ||| startEventMask) (dummiesSA cfg ++ [saHighPrioThread]) =
      dummiesSA cfg := by
    rw [Kernel.notMatching_append, Kernel.notMatching_eq_self (by simp +contextual [*])]
    simp
  simp only [startEventMask, signalizeYieldEventMask, BitVec.ofNat_eq_ofNat, BitVec.reduceOr]
    at hmatch hrest hmatch' hrest'
  have hperm := dummiesSA_perm cfg
  -- H_Task_SA is created and waits for the start
  iterate 2
    refine .step (by simp [*, iTaskSA]) ?_
    simp +contextual [*, iTaskSA]
  -- L_Task_SA is created
  iterate 7
    refine .step (by simp [*]) ?_
    simp [*]
  -- the start
  iterate 6
    refine .step (by simp [*]) ?_
    simp +contextual [*]
  refine .done ?_
  constructor <;> simp +contextual [*]

/-- `I_Task` has left the loop of S_A and removed the two measured tasks. -/
structure LeavingSA (s : TestState B EntryFn) : Prop where
  runs : s.Runs idleThread [idleThread]
  irq : s.NoIrq
  event : s.ObjectAt testEvent (.event signalizeYieldEventMask) (dummiesSA cfg)
  idle : s.ThreadAt idleThread taskIdlePrio false .no
    (abortDummies cfg.dummyCount 0 :: iTaskSB cfg)
  pend : ∀ i < cfg.dummyCount, s.kern.pend (saDummyThreads i) = .on testEvent
  countA : s.mem.count scenarioA = cfg.measurementCount
  countB : s.mem.count scenarioB = 0

theorem endSA (s : TestState B EntryFn) (h : HeadSA cfg cfg.measurementCount s) :
    Leads (program (body cfg)).next (Sound (Good cfg) saLowPrioThread) s (LeavingSA cfg) := by
  have hexit : ¬ cfg.measurementCount ≤ cfg.measurementCount - 1 := by
    have := cfg.one_le_measurementCount
    omega
  have herase : (dummiesSA cfg ++ [saHighPrioThread]).erase saHighPrioThread = dummiesSA cfg := by
    rw [List.erase_append_right _ (by simp)]
    simp
  cases h
  iterate 3
    refine .step (by simp [*]) ?_
    simp [*]
  refine .done ?_
  constructor <;> simp +contextual [*]

/-! ## 3. S_B -/

/-- At the head of the loop over the iteration cycles of S_B. -/
structure HeadSB (i : Nat) (s : TestState B EntryFn) : Prop where
  runs : s.Runs idleThread [idleThread]
  irq : s.NoIrq
  event : s.ObjectAt testEvent (.event signalizeYieldEventMask) []
  idle : s.ThreadAt idleThread taskIdlePrio false .no (iTaskLoopSB cfg i :: verdictLoop)
  high : s.ThreadAt sbHighPrioThread taskSbHighPrio true .no [.loop hTaskSBLoop]
  countA : s.mem.count scenarioA = cfg.measurementCount
  countB : s.mem.count scenarioB = i + 1

/-- `H_Task_SB` is about to signal the end of its first pass. The signal of the
last pass of S_A is still there. -/
structure MergingSB (s : TestState B EntryFn) : Prop where
  runs : s.Runs sbHighPrioThread [sbHighPrioThread, idleThread]
  irq : s.NoIrq
  event : s.ObjectAt testEvent (.event signalizeYieldEventMask) []
  idle : s.ThreadAt idleThread taskIdlePrio false .no (iTaskLoopSB cfg 0 :: verdictLoop)
  high : s.ThreadAt sbHighPrioThread taskSbHighPrio false .no
    (kcall (.kEventPost testEvent signalizeYieldEventMask) :: kcall .kThreadSuspendCurrent ::
      [.loop hTaskSBLoop])
  countA : s.mem.count scenarioA = cfg.measurementCount
  countB : s.mem.count scenarioB = 1

/-- The dummy tasks are removed, `H_Task_SB` is created and runs its first
pass on the post of the start bit. -/
theorem startSB (s : TestState B EntryFn) (h : LeavingSA cfg s) :
    Leads (program (body cfg)).next (Sound (Good cfg) saLowPrioThread) s (MergingSB cfg) := by
  have hwait : (s.kern.waitq testEvent).Perm ((List.range cfg.dummyCount).map saDummyThreads) :=
    h.event.2.symm ▸ dummiesSA_perm cfg
  refine (abortDummies_leads (sound_of_removal cfg saLowPrioThread) h.runs h.irq h.idle.2.2.2
    hwait h.pend).bind ?_
  intro t ht
  have hnil := ht.waitq_eq_nil
  cases h
  cases ht
  -- H_Task_SB is created and waits for the start
  iterate 3
    refine .step (by simp [*, iTaskSB]) ?_
    simp [*, iTaskSB]
  -- the start, and the first sample
  iterate 9
    refine .step (by simp [*]) ?_
    simp [*]
  refine .done ?_
  constructor <;> simp [*]

/-- The first signal of S_B changes nothing, then `H_Task_SB` suspends itself. -/
theorem mergeSB (s : TestState B EntryFn) (h : MergingSB cfg s) :
    Leads (program (body cfg)).next (Sound (Good cfg) sbHighPrioThread)
      ((program (body cfg)).next s) (HeadSB cfg 0) := by
  cases h
  simp [*]
  refine .step (by simp [*]) ?_
  simp [*]
  refine .done ?_
  constructor <;> simp [*]

theorem passSB {i : Nat} (hi : i < cfg.measurementCount - 1) (s : TestState B EntryFn)
    (h : HeadSB cfg i s) :
    Leads (program (body cfg)).next (Sound (Good cfg) sbHighPrioThread) s (HeadSB cfg (i + 1)) := by
  cases h
  -- I_Task takes the YIELD bit and resumes H_Task_SB
  iterate 3
    refine .step (by simp [*]) ?_
    simp [*]
  -- one sample
  iterate 10
    refine .step (by simp [*]) ?_
    simp [*]
  refine .done ?_
  constructor <;> simp [*]

theorem endSB (s : TestState B EntryFn) (h : HeadSB cfg (cfg.measurementCount - 1) s) :
    Leads (program (body cfg)).next (Sound (Good cfg) sbHighPrioThread) s
      (AtVerdict cfg.measurementCount cfg.measurementCount) := by
  have hN : cfg.measurementCount - 1 + 1 = cfg.measurementCount :=
    Nat.sub_add_cancel cfg.one_le_measurementCount
  cases h
  refine .step (by simp [*]) ?_
  simp [*]
  refine .done ?_
  constructor <;> simp [*, VerdictCode.head]

/-! ## 4. The whole run -/

/-- Up to the first signal of S_B. -/
theorem run_leads_SA :
    Leads (program (body cfg)).next (Sound (Good (B := B) cfg) saLowPrioThread)
      (start (body cfg) .iTask) (MergingSB cfg) := by
  refine (boot_leads cfg).bind ?_
  intro s hs
  refine (startSA cfg s hs).bind ?_
  intro s hs
  refine (Leads.loop (S := HeadSA cfg)
    (fun k hk => passSA cfg (Nat.le_sub_one_of_lt hk)) hs).bind ?_
  intro s hs
  refine (endSA cfg s hs).bind ?_
  intro s hs
  exact startSB cfg s hs

/-- From the first signal of S_B on. -/
theorem run_leads_SB (s : TestState B EntryFn) (hs : MergingSB cfg s) :
    Leads (program (body cfg)).next (Sound (Good cfg) sbHighPrioThread)
      ((program (body cfg)).next s) (AtVerdict cfg.measurementCount cfg.measurementCount) := by
  refine (mergeSB cfg s hs).bind ?_
  intro s hs
  exact (Leads.loop (S := HeadSB cfg) (fun i hi => passSB cfg hi) hs).bind (endSB cfg)

theorem merging_of_mergingSB (s : TestState B EntryFn) (h : MergingSB cfg s) :
    Merging sbHighPrioThread s := by
  cases h
  constructor <;> simp [*, CallsNext]

theorem good_of_mergingSB (s : TestState B EntryFn) (h : MergingSB cfg s) : Good cfg s := by
  cases h
  simp [*]

theorem run_leads :
    Leads (program (body cfg)).next (Good (B := B) cfg) (start (body cfg) .iTask)
      (AtVerdict cfg.measurementCount cfg.measurementCount) :=
  leads_of_sound (run_leads_SA cfg) (good_of_mergingSB cfg) (run_leads_SB cfg)

/-- Every pass of S_A but the last and every pass of S_B but the first is
acknowledged. -/
theorem eventBlock_acknowledged {K : Type} (Z : Zephyr K Thread Object Empty EntryFn) :
    ∃ first, Acknowledged saLowPrioThread sbHighPrioThread first
      (run (B := B) Z (body cfg) .iTask) :=
  acknowledged_of_leads Z ((run_leads_SA cfg).imp fun _ h => h.2) (merging_of_mergingSB cfg)
    fun s hs => (run_leads_SB cfg s hs).imp fun _ h => h.2

theorem good_of_atVerdict {a b : Nat} (s : TestState B EntryFn) (h : AtVerdict a b s) :
    Good cfg s :=
  h.atStmt trivial (fun _ _ => trivial) fun _ => trivial

/-- The run over any documented kernel gets to the verdict with
`MEASUREMENT_COUNT` samples in each scenario; every sample that is recorded
has the window it should have, and every measured wait finds its bit clear
and the waiters it should find. -/
theorem eventBlock_settles {K : Type} (Z : Zephyr K Thread Object Empty EntryFn) :
    Ends (run (B := B) Z (body cfg) .iTask)
        (AtVerdict cfg.measurementCount cfg.measurementCount) ∧
      ∀ n, Good cfg (run (B := B) Z (body cfg) .iTask n) :=
  run_of_leads Z (run_leads cfg) (good_of_atVerdict cfg)

end ZephyrBench.TaskSwitching.EventBlock

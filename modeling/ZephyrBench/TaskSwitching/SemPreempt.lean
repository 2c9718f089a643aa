/-
ZephyrBench.TaskSwitching.SemPreempt — the test `sem_preempt`: a task switch
via `k_sem_give()` to a waiter of higher priority.

The thread bodies of `time_task_switch_sem.c`, statement by statement. In S_A the
give wakes `H_Task_SA`, which outranks the caller; in S_B the caller is the task
of higher priority and keeps the CPU. `testSbHasWaiter` is the build option that
decides whether `L_Task_SB` waits for the give of S_B or is resumed after it.

The dummy tasks take the same semaphore as the measured tasks. `Config` carries
the order of priorities that the four test cases have, and `testCase` shows that
the values of `benchmark_testcases.h` satisfy it. It also bounds
`MEASUREMENT_COUNT` by `K_SEM_MAX_LIMIT`: a give beyond the limit is lost.
-/
import ZephyrBench.TaskSwitching.Common

namespace ZephyrBench.TaskSwitching.SemPreempt

open Rtos

inductive EntryFn
  | lTaskSA
  | hTaskSA
  | hTaskSB
  | lTaskSB
  | dummyTask
  | iTask

/-! ## Configuration (`benchmark_testcases.h`) -/

def taskSaLowPrio : Nat := 7

def taskSaHighPrio : Nat := 2

def taskSbHighPrio : Nat := 8

def taskSbLowPrio : Nat := 10

/-- The parameters of a build, with the order of priorities that the test
cases have: the dummy tasks of S_B stand between `L_Task_SB` and `I_Task`. -/
structure Config where
  measurementCount : Nat
  testSbHasWaiter : Bool
  dummyCount : Nat
  saDummyPrios : Nat → Nat
  sbDummyPrios : Nat → Nat
  one_le_measurementCount : 1 ≤ measurementCount
  measurementCount_le : measurementCount ≤ Kernel.semMaxLimit
  saDummyPrios_between : ∀ i < dummyCount,
    taskSaHighPrio < saDummyPrios i ∧ saDummyPrios i < taskSaLowPrio
  sbDummyPrios_between : ∀ i < dummyCount,
    taskSbLowPrio < sbDummyPrios i ∧ sbDummyPrios i < taskIdlePrio

/-- `TEST_CASE_III` and `TEST_CASE_IV` with `d` of the four dummy tasks; with
none of them, `TEST_CASE_I` and `TEST_CASE_II`. -/
def testCase (measurementCount d : Nat) (testSbHasWaiter : Bool) (hN : 1 ≤ measurementCount)
    (hN' : measurementCount ≤ Kernel.semMaxLimit) (hd : d ≤ dummyPoolSize) : Config where
  measurementCount
  testSbHasWaiter
  dummyCount := d
  saDummyPrios i := 3 + i
  sbDummyPrios i := 11 + i
  one_le_measurementCount := hN
  measurementCount_le := hN'
  saDummyPrios_between i hi := by
    simp only [dummyPoolSize, taskSaHighPrio, taskSaLowPrio] at *
    omega
  sbDummyPrios_between i hi := by
    simp only [dummyPoolSize, taskSbLowPrio, taskIdlePrio] at *
    omega

/-! ## Threads -/

variable {B : Bmth}

def lTaskSALoop : Code B EntryFn :=
  [ .prim (.mwindowOpen .scenarioA),
    .prim .resetCounter,
    .prim (.getStartCnt .testStartTime),
    kcall (.kSemGive .testSem),
    kcall .kThreadSuspendCurrent ]

def lTaskSA : Code B EntryFn :=
  [ kcall (.kEventWaitSafe .testEvent startEventMask .forever),
    .loop lTaskSALoop ]

def hTaskSALoop : Code B EntryFn :=
  [ kcall (.kSemTake .testSem .forever),
    .prim (.getStopCnt .testStopTime),
    .prim (.mseriesIterate .scenarioA .testStartTime .testStopTime false),
    .prim (.mwindowClose .scenarioA),
    kcall (.kEventPost .testEvent signalizeYieldEventMask) ]

def hTaskSA : Code B EntryFn :=
  [ kcall (.kEventPost .testEvent startEventMask),
    .loop hTaskSALoop ]

/-- The wait of a dummy task. -/
def takeTestSem : Statement B EntryFn := kcall (.kSemTake .testSem .forever)

def dummyTask : Code B EntryFn := [.loop [takeTestSem]]

variable (cfg : Config)

/-- The part of the loop of `H_Task_SB` after it has suspended itself. -/
def hTaskSBSample : Code B EntryFn :=
  [ .prim (.mwindowOpen .scenarioB),
    .prim .resetCounter,
    .prim (.getStartCnt .testStartTime),
    kcall (.kSemGive .testSem),
    .prim (.getStopCnt .testStopTime),
    .prim (.mseriesIterate .scenarioB .testStartTime .testStopTime false),
    .prim (.mwindowClose .scenarioB) ] ++
  if cfg.testSbHasWaiter then [] else [kcall (.kThreadResume .sbLowPrioThread)]

def hTaskSBLoop : Code B EntryFn := kcall .kThreadSuspendCurrent :: hTaskSBSample cfg

def hTaskSB : Code B EntryFn :=
  [ kcall (.kEventWaitSafe .testEvent startEventMask .forever),
    .loop (hTaskSBLoop cfg) ]

def lTaskSBLoop : Code B EntryFn :=
  [ kcall (.kEventPost .testEvent signalizeYieldEventMask),
    if cfg.testSbHasWaiter then kcall (.kSemTake .testSem .forever)
    else kcall .kThreadSuspendCurrent ]

def lTaskSB : Code B EntryFn :=
  [ kcall (.kEventPost .testEvent startEventMask),
    .loop (lTaskSBLoop cfg) ]

/-- The loop of `I_Task` over the iteration cycles of S_A, from cycle `i`. -/
def iTaskLoopSA (i : Nat) : Statement B EntryFn :=
  .forUp i (fun i => i < cfg.measurementCount - 1) fun _ =>
    [ kcall (.kEventWaitSafe .testEvent signalizeYieldEventMask .forever),
      kcall (.kThreadResume .saLowPrioThread) ]

def iTaskLoopSB (i : Nat) : Statement B EntryFn :=
  .forUp i (fun i => i ≤ cfg.measurementCount - 1) fun _ =>
    [ kcall (.kEventWaitSafe .testEvent signalizeYieldEventMask .forever),
      kcall (.kThreadResume .sbHighPrioThread) ]

/-- `I_Task` once the dummy tasks of S_B are created. -/
def iTaskSB : Code B EntryFn :=
  [ iTaskLoopSB cfg 0,
    kcall (.kThreadAbort .sbLowPrioThread),
    kcall (.kThreadAbort .sbHighPrioThread) ] ++ verdictLoop

/-- `I_Task` once the tasks of S_A are gone. -/
def iTaskStartSB : Code B EntryFn :=
  [ kcall (.kSemReset .testSem),
    kcall (.kThreadCreate .sbHighPrioThread .hTaskSB taskSbHighPrio),
    kcall (.kThreadCreate .sbLowPrioThread .lTaskSB taskSbLowPrio),
    createDummies .sbDummyThreads .dummyTask cfg.sbDummyPrios cfg.dummyCount 0 ] ++ iTaskSB cfg

/-- `I_Task` once the dummy tasks of S_A are created. -/
def iTaskSA : Code B EntryFn :=
  [ kcall (.kThreadCreate .saLowPrioThread .lTaskSA taskSaLowPrio),
    iTaskLoopSA cfg 0,
    kcall (.kThreadAbort .saLowPrioThread),
    kcall (.kThreadAbort .saHighPrioThread),
    abortDummies cfg.dummyCount 0 ] ++ iTaskStartSB cfg

def iTask : Code B EntryFn :=
  [ kcall (.kEventInit .testEvent),
    kcall (.kSemInit .testSem 0 Kernel.semMaxLimit),
    kcall (.kThreadCreate .saHighPrioThread .hTaskSA taskSaHighPrio),
    createDummies .saDummyThreads .dummyTask cfg.saDummyPrios cfg.dummyCount 0 ] ++ iTaskSA cfg

def body : EntryFn → Code B EntryFn
  | .lTaskSA => lTaskSA
  | .hTaskSA => hTaskSA
  | .hTaskSB => hTaskSB cfg
  | .lTaskSB => lTaskSB cfg
  | .dummyTask => dummyTask
  | .iTask => iTask cfg

end ZephyrBench.TaskSwitching.SemPreempt

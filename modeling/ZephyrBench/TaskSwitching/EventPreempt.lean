/-
ZephyrBench.TaskSwitching.EventPreempt — the test `event_preempt`: a task
switch via `k_event_post()` to a waiter of higher priority.

The thread bodies of `time_task_switch_event.c`, statement by statement. In S_A
the post wakes `H_Task_SA`, which outranks the caller; in S_B the caller is the
task of higher priority and keeps the CPU. `testSbHasWaiter` is the build option
that decides whether `L_Task_SB` waits for the post of S_B or is resumed beside
it.

The dummy tasks wait on the measured bit of the scenario they are created for,
through the address of a variable of `I_Task`, which is assigned before each
group is created. `Config` carries the order of priorities that the four test
cases have, and `testCase` shows that the values of `benchmark_testcases.h`
satisfy it.
-/
import ZephyrBench.TaskSwitching.Common

namespace ZephyrBench.TaskSwitching.EventPreempt

open Rtos

inductive EntryFn
  | lTaskSA
  | hTaskSA
  | hTaskSB
  | lTaskSB
  | dummyTask
  | iTask

/-! ## Event bits -/

def scenarioAEventMask : BitVec 32 := 0x0001

def scenarioBEventMask : BitVec 32 := 0x0002

/-! ## Configuration (`benchmark_testcases.h`) -/

def taskSaLowPrio : Nat := 7

def taskSaHighPrio : Nat := 2

def taskSbHighPrio : Nat := 8

def taskSbLowPrio : Nat := 14

/-- The parameters of a build, with the order of priorities that the test
cases have. -/
structure Config where
  measurementCount : Nat
  testSbHasWaiter : Bool
  dummyCount : Nat
  saDummyPrios : Nat → Nat
  sbDummyPrios : Nat → Nat
  one_le_measurementCount : 1 ≤ measurementCount
  saDummyPrios_between : ∀ i < dummyCount,
    taskSaHighPrio < saDummyPrios i ∧ saDummyPrios i < taskSaLowPrio
  sbDummyPrios_between : ∀ i < dummyCount,
    taskSbHighPrio < sbDummyPrios i ∧ sbDummyPrios i < taskSbLowPrio

/-- `TEST_CASE_III` and `TEST_CASE_IV` with `d` of the four dummy tasks; with
none of them, `TEST_CASE_I` and `TEST_CASE_II`. -/
def testCase (measurementCount d : Nat) (testSbHasWaiter : Bool) (hN : 1 ≤ measurementCount)
    (hd : d ≤ dummyPoolSize) : Config where
  measurementCount
  testSbHasWaiter
  dummyCount := d
  saDummyPrios i := 3 + i
  sbDummyPrios i := 10 + i
  one_le_measurementCount := hN
  saDummyPrios_between i hi := by
    simp only [dummyPoolSize, taskSaHighPrio, taskSaLowPrio] at *
    omega
  sbDummyPrios_between i hi := by
    simp only [dummyPoolSize, taskSbHighPrio, taskSbLowPrio] at *
    omega

/-! ## Threads -/

variable {B : Bmth}

def lTaskSALoop : Code B EntryFn :=
  [ .prim (.mwindowOpen .scenarioA),
    .prim .resetCounter,
    .prim (.getStartCnt .testStartTime),
    kcall (.kEventPost .testEvent scenarioAEventMask),
    kcall .kThreadSuspendCurrent ]

def lTaskSA : Code B EntryFn :=
  [ kcall (.kEventWaitSafe .testEvent startEventMask .forever),
    .loop lTaskSALoop ]

def hTaskSALoop : Code B EntryFn :=
  [ kcall (.kEventWaitSafe .testEvent scenarioAEventMask .forever),
    .prim (.getStopCnt .testStopTime),
    .prim (.mseriesIterate .scenarioA .testStartTime .testStopTime true),
    .prim (.mwindowClose .scenarioA),
    kcall (.kEventPost .testEvent signalizeYieldEventMask) ]

def hTaskSA : Code B EntryFn :=
  [ kcall (.kEventPost .testEvent startEventMask),
    .loop hTaskSALoop ]

def dummyTask : Code B EntryFn := [.loop [waitOnMask]]

variable (cfg : Config)

/-- The part of the loop of `H_Task_SB` after it has suspended itself. -/
def hTaskSBSample : Code B EntryFn :=
  (if cfg.testSbHasWaiter then [] else [kcall (.kThreadResume .sbLowPrioThread)]) ++
  [ .prim (.mwindowOpen .scenarioB),
    .prim .resetCounter,
    .prim (.getStartCnt .testStartTime),
    kcall (.kEventPost .testEvent scenarioBEventMask),
    .prim (.getStopCnt .testStopTime),
    .prim (.mseriesIterate .scenarioB .testStartTime .testStopTime true),
    .prim (.mwindowClose .scenarioB) ]

def hTaskSBLoop : Code B EntryFn := kcall .kThreadSuspendCurrent :: hTaskSBSample cfg

def hTaskSB : Code B EntryFn :=
  [ kcall (.kEventWaitSafe .testEvent startEventMask .forever),
    .loop (hTaskSBLoop cfg) ]

def lTaskSBLoop : Code B EntryFn :=
  [ kcall (.kEventPost .testEvent signalizeYieldEventMask),
    if cfg.testSbHasWaiter then kcall (.kEventWaitSafe .testEvent scenarioBEventMask .forever)
    else kcall .kThreadSuspendCurrent ]

def lTaskSB : Code B EntryFn :=
  [ kcall (.kEventPost .testEvent startEventMask),
    .loop (lTaskSBLoop cfg) ]

/-- The loop of `I_Task` over the iteration cycles of S_A, from cycle `i`. -/
def iTaskLoopSA (i : Nat) : Statement B EntryFn :=
  .forUp i (fun i => i < cfg.measurementCount - 1) fun _ =>
    [ kcall (.kEventWaitSafe .testEvent signalizeYieldEventMask .forever),
      kcall (.kThreadResume .saLowPrioThread) ]

def iTaskLoopSB (i : Nat) : Statement B EntryFn :=
  .forUp i (fun i => i ≤ cfg.measurementCount - 1) fun _ =>
    [ kcall (.kEventWaitSafe .testEvent signalizeYieldEventMask .forever),
      kcall (.kThreadResume .sbHighPrioThread) ]

/-- `I_Task` once the dummy tasks of S_B are created. -/
def iTaskSB : Code B EntryFn :=
  [ kcall (.kThreadCreate .sbLowPrioThread .lTaskSB taskSbLowPrio),
    iTaskLoopSB cfg 0,
    kcall (.kThreadAbort .sbLowPrioThread),
    kcall (.kThreadAbort .sbHighPrioThread) ] ++ verdictLoop

/-- `I_Task` once the tasks of S_A are gone. -/
def iTaskStartSB : Code B EntryFn :=
  [ kcall (.kThreadCreate .sbHighPrioThread .hTaskSB taskSbHighPrio),
    .prim (.assign (.dummyTaskEventMask scenarioBEventMask)),
    createDummies .sbDummyThreads .dummyTask cfg.sbDummyPrios cfg.dummyCount 0 ] ++ iTaskSB cfg

/-- `I_Task` once the dummy tasks of S_A are created. -/
def iTaskSA : Code B EntryFn :=
  [ kcall (.kThreadCreate .saLowPrioThread .lTaskSA taskSaLowPrio),
    iTaskLoopSA cfg 0,
    kcall (.kThreadAbort .saLowPrioThread),
    kcall (.kThreadAbort .saHighPrioThread),
    abortDummies cfg.dummyCount 0 ] ++ iTaskStartSB cfg

def iTask : Code B EntryFn :=
  [ kcall (.kEventInit .testEvent),
    kcall (.kThreadCreate .saHighPrioThread .hTaskSA taskSaHighPrio),
    .prim (.assign (.dummyTaskEventMask scenarioAEventMask)),
    createDummies .saDummyThreads .dummyTask cfg.saDummyPrios cfg.dummyCount 0 ] ++ iTaskSA cfg

def body : EntryFn → Code B EntryFn
  | .lTaskSA => lTaskSA
  | .hTaskSA => hTaskSA
  | .hTaskSB => hTaskSB cfg
  | .lTaskSB => lTaskSB cfg
  | .dummyTask => dummyTask
  | .iTask => iTask cfg

end ZephyrBench.TaskSwitching.EventPreempt

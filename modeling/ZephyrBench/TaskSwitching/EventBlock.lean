/-
ZephyrBench.TaskSwitching.EventBlock — the test `event_block`: a task switch
via `k_event_wait_safe()` with a blocking waiter.

The thread bodies of `time_task_switch_event.c`, statement by statement. The
measured call is the wait of `H_Task_SA`, which finds its bit clear and lets
`L_Task_SA` run; in S_B it is a wait with `K_NO_WAIT`, which does not switch. The
dummy tasks close the window of S_A before they wait on its bit.

The masks are the test's own: `SCENARIO_A_EVENT_MASK` has another value here than
in `event_preempt`. `Config` carries the order of priorities that both test cases
have, dummy tasks above `H_Task_SA`, and `testCase` shows that the values of
`benchmark_testcases.h` satisfy it.
-/
import ZephyrBench.TaskSwitching.Common

namespace ZephyrBench.TaskSwitching.EventBlock

open Rtos

inductive EntryFn
  | lTaskSA
  | hTaskSA
  | hTaskSB
  | dummyTask
  | iTask

/-! ## Event bits -/

/-- Another bit than in `event_preempt`. -/
def scenarioAEventMask : BitVec 32 := 0x0010

def scenarioBEventMask : BitVec 32 := 0x0002

/-! ## Configuration (`benchmark_testcases.h`) -/

def taskSaLowPrio : Nat := 7

def taskSaHighPrio : Nat := 6

def taskSbHighPrio : Nat := 8

/-- The parameters of a build, with the order of priorities that the test
cases have. -/
structure Config where
  measurementCount : Nat
  dummyCount : Nat
  saDummyPrios : Nat → Nat
  one_le_measurementCount : 1 ≤ measurementCount
  saDummyPrios_lt : ∀ i < dummyCount, saDummyPrios i < taskSaHighPrio

/-- `TEST_CASE_II` with `d` of the four dummy tasks; with none of them,
`TEST_CASE_I`. -/
def testCase (measurementCount d : Nat) (hN : 1 ≤ measurementCount) (hd : d ≤ dummyPoolSize) :
    Config where
  measurementCount
  dummyCount := d
  saDummyPrios i := 2 + i
  one_le_measurementCount := hN
  saDummyPrios_lt i hi := by
    simp only [dummyPoolSize, taskSaHighPrio] at *
    omega

/-! ## Threads -/

variable {B : Bmth}

def lTaskSALoop : Code B EntryFn :=
  [ .prim (.getStopCnt .testStopTime),
    .prim (.mseriesIterate .scenarioA .testStartTime .testStopTime false),
    .prim (.mwindowClose .scenarioA),
    kcall (.kEventPost .testEvent signalizeYieldEventMask),
    kcall .kThreadSuspendCurrent,
    kcall (.kEventPost .testEvent scenarioAEventMask) ]

def lTaskSA : Code B EntryFn := [.loop lTaskSALoop]

def hTaskSALoop : Code B EntryFn :=
  [ .prim (.mwindowOpen .scenarioA),
    .prim .resetCounter,
    .prim (.getStartCnt .testStartTime),
    kcall (.kEventWaitSafe .testEvent scenarioAEventMask .forever) ]

def hTaskSA : Code B EntryFn :=
  [ kcall (.kEventWaitSafe .testEvent startEventMask .forever),
    .loop hTaskSALoop ]

def hTaskSBLoop : Code B EntryFn :=
  [ .prim (.mwindowOpen .scenarioB),
    .prim .resetCounter,
    .prim (.getStartCnt .testStartTime),
    kcall (.kEventWaitSafe .testEvent scenarioBEventMask .noWait),
    .prim (.getStopCnt .testStopTime),
    .prim (.mseriesIterate .scenarioB .testStartTime .testStopTime false),
    .prim (.mwindowClose .scenarioB),
    kcall (.kEventPost .testEvent signalizeYieldEventMask),
    kcall .kThreadSuspendCurrent ]

def hTaskSB : Code B EntryFn :=
  [ kcall (.kEventWaitSafe .testEvent startEventMask .forever),
    .loop hTaskSBLoop ]

def dummyTaskLoop : Code B EntryFn := [.prim (.mwindowClose .scenarioA), waitOnMask]

def dummyTask : Code B EntryFn := [.loop dummyTaskLoop]

variable (cfg : Config)

/-- The loop of `I_Task` over the iteration cycles of S_A, from cycle `i`. -/
def iTaskLoopSA (i : Nat) : Statement B EntryFn :=
  .forUp i (fun i => i ≤ cfg.measurementCount - 1) fun _ =>
    [ kcall (.kEventWaitSafe .testEvent signalizeYieldEventMask .forever),
      kcall (.kThreadResume .saLowPrioThread) ]

def iTaskLoopSB (i : Nat) : Statement B EntryFn :=
  .forUp i (fun i => i < cfg.measurementCount - 1) fun _ =>
    [ kcall (.kEventWaitSafe .testEvent signalizeYieldEventMask .forever),
      kcall (.kThreadResume .sbHighPrioThread) ]

/-- `I_Task` once the tasks of S_A are gone. -/
def iTaskSB : Code B EntryFn :=
  [ kcall (.kEventClear .testEvent scenarioAEventMask),
    kcall (.kThreadCreate .sbHighPrioThread .hTaskSB taskSbHighPrio),
    kcall (.kEventPost .testEvent startEventMask),
    iTaskLoopSB cfg 0 ] ++ verdictLoop

/-- `I_Task` once the dummy tasks of S_A are created. -/
def iTaskSA : Code B EntryFn :=
  [ kcall (.kThreadCreate .saHighPrioThread .hTaskSA taskSaHighPrio),
    kcall (.kThreadCreate .saLowPrioThread .lTaskSA taskSaLowPrio),
    kcall (.kEventPost .testEvent startEventMask),
    iTaskLoopSA cfg 0,
    kcall (.kThreadAbort .saLowPrioThread),
    kcall (.kThreadAbort .saHighPrioThread),
    abortDummies cfg.dummyCount 0 ] ++ iTaskSB cfg

def iTask : Code B EntryFn :=
  [ kcall (.kEventInit .testEvent),
    .prim (.assign (.dummyTaskEventMask scenarioAEventMask)),
    createDummies .saDummyThreads .dummyTask cfg.saDummyPrios cfg.dummyCount 0 ] ++ iTaskSA cfg

def body : EntryFn → Code B EntryFn
  | .lTaskSA => lTaskSA
  | .hTaskSA => hTaskSA
  | .hTaskSB => hTaskSB
  | .dummyTask => dummyTask
  | .iTask => iTask cfg

end ZephyrBench.TaskSwitching.EventBlock

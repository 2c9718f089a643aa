/-
ZephyrBench.TaskSwitching.SemBlock — the test `sem_block`: a task switch via
`k_sem_take()` with a blocking waiter.

The thread bodies of `time_task_switch_sem.c`, statement by statement. The
measured call is the take of `H_Task_SA`, which finds no count and lets
`L_Task_SA` run; in S_B it is a take with `K_NO_WAIT`, which fails at once. The
semaphore is reset before every pass of S_B.

The dummy tasks have the priority of `H_Task_SA` and take the same semaphore.
`Config` has no condition on priorities, since these are constants of
`benchmark_testcases.h` here; it bounds the number of dummy tasks by the size of
the pool, as the source does.
-/
import ZephyrBench.TaskSwitching.Common

namespace ZephyrBench.TaskSwitching.SemBlock

open Rtos

inductive EntryFn
  | lTaskSA
  | hTaskSA
  | hTaskSB
  | dummyTask
  | iTask

/-! ## Configuration (`benchmark_testcases.h`) -/

def taskSaLowPrio : Nat := 7

def taskSaHighPrio : Nat := 2

def taskSbHighPrio : Nat := 8

/-- `TASK_SA_DUMMY_1_PRIO` to `TASK_SA_DUMMY_4_PRIO` are equal. -/
def taskSaDummyPrio : Nat := 2

/-- The parameters of a build. -/
structure Config where
  measurementCount : Nat
  dummyCount : Nat
  one_le_measurementCount : 1 ≤ measurementCount
  dummyCount_le : dummyCount ≤ dummyPoolSize

/-! ## Threads -/

variable {B : Bmth}

def lTaskSALoop : Code B EntryFn :=
  [ .prim (.getStopCnt .testStopTime),
    .prim (.mseriesIterate .scenarioA .testStartTime .testStopTime false),
    .prim (.mwindowClose .scenarioA),
    kcall (.kEventPost .testEvent signalizeYieldEventMask),
    kcall .kThreadSuspendCurrent,
    kcall (.kSemGive .testSem) ]

def lTaskSA : Code B EntryFn := [.loop lTaskSALoop]

def hTaskSALoop : Code B EntryFn :=
  [ .prim (.mwindowOpen .scenarioA),
    .prim .resetCounter,
    .prim (.getStartCnt .testStartTime),
    kcall (.kSemTake .testSem .forever) ]

def hTaskSA : Code B EntryFn :=
  [ kcall (.kEventWaitSafe .testEvent startEventMask .forever),
    .loop hTaskSALoop ]

def hTaskSBLoop : Code B EntryFn :=
  [ .prim (.mwindowOpen .scenarioB),
    .prim .resetCounter,
    .prim (.getStartCnt .testStartTime),
    kcall (.kSemTake .testSem .noWait),
    .prim (.getStopCnt .testStopTime),
    .prim (.mseriesIterate .scenarioB .testStartTime .testStopTime false),
    .prim (.mwindowClose .scenarioB),
    kcall (.kEventPost .testEvent signalizeYieldEventMask),
    kcall .kThreadSuspendCurrent ]

def hTaskSB : Code B EntryFn :=
  [ kcall (.kEventWaitSafe .testEvent startEventMask .forever),
    .loop hTaskSBLoop ]

def dummyTaskLoop : Code B EntryFn :=
  [ .prim (.mwindowClose .scenarioA),
    kcall (.kSemTake .testSem .forever) ]

def dummyTask : Code B EntryFn := [.loop dummyTaskLoop]

variable (cfg : Config)

/-- The loop of `I_Task` over the iteration cycles of S_A, from cycle `i`. -/
def iTaskLoopSA (i : Nat) : Statement B EntryFn :=
  .forUp i (fun i => i ≤ cfg.measurementCount - 1) fun _ =>
    [ kcall (.kEventWaitSafe .testEvent signalizeYieldEventMask .forever),
      kcall (.kThreadResume .saLowPrioThread) ]

def iTaskLoopSB (i : Nat) : Statement B EntryFn :=
  .forUp i (fun i => i < cfg.measurementCount - 1) fun _ =>
    [ kcall (.kEventWaitSafe .testEvent signalizeYieldEventMask .forever),
      kcall (.kSemReset .testSem),
      kcall (.kThreadResume .sbHighPrioThread) ]

/-- `I_Task` once the tasks of S_A are gone. -/
def iTaskSB : Code B EntryFn :=
  [ kcall (.kSemReset .testSem),
    kcall (.kThreadCreate .sbHighPrioThread .hTaskSB taskSbHighPrio),
    kcall (.kEventPost .testEvent startEventMask),
    iTaskLoopSB cfg 0 ] ++ verdictLoop

/-- `I_Task` once the dummy tasks of S_A are created. -/
def iTaskSA : Code B EntryFn :=
  [ kcall (.kThreadCreate .saHighPrioThread .hTaskSA taskSaHighPrio),
    kcall (.kThreadCreate .saLowPrioThread .lTaskSA taskSaLowPrio),
    kcall (.kEventPost .testEvent startEventMask),
    iTaskLoopSA cfg 0,
    kcall (.kThreadAbort .saLowPrioThread),
    kcall (.kThreadAbort .saHighPrioThread),
    abortDummies cfg.dummyCount 0 ] ++ iTaskSB cfg

def iTask : Code B EntryFn :=
  [ kcall (.kEventInit .testEvent),
    kcall (.kSemInit .testSem 0 Kernel.semMaxLimit),
    createDummies .saDummyThreads .dummyTask (fun _ => taskSaDummyPrio) cfg.dummyCount 0 ] ++
  iTaskSA cfg

def body : EntryFn → Code B EntryFn
  | .lTaskSA => lTaskSA
  | .hTaskSA => hTaskSA
  | .hTaskSB => hTaskSB
  | .dummyTask => dummyTask
  | .iTask => iTask cfg

end ZephyrBench.TaskSwitching.SemBlock

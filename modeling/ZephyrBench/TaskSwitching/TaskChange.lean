/-
ZephyrBench.TaskSwitching.TaskChange — the test `task_change`: a task switch
via `k_yield()` between two tasks of one priority.

The thread bodies of `time_task_switch.c`, statement by statement. All tasks of
S_A, the dummy tasks included, have one priority, so `k_yield()` goes round among
them, and S_B measures the yield of a task that is alone at its priority.

Who ends S_A depends on the build: without dummy tasks `H_Task_SA` does
(`hTaskSAClose`), with dummy tasks the dummy task that gets the CPU next. `I_Task`
runs when the measured tasks and all dummy tasks are suspended.

The event carries only the start signal here. The source also defines masks for
S_A and for the end of a pass, which no task of it uses; they are left out.
-/
import ZephyrBench.TaskSwitching.Common

namespace ZephyrBench.TaskSwitching.TaskChange

open Rtos

inductive EntryFn
  | lTaskSA
  | hTaskSA
  | taskSB
  | dummyTask
  | iTask
  deriving DecidableEq

/-! ## Configuration (`benchmark_testcases.h`) -/

def taskSaLowPrio : Nat := 3

def taskSaHighPrio : Nat := 3

/-- `TASK_SA_DUMMY_1_PRIO` to `TASK_SA_DUMMY_4_PRIO` are equal. -/
def taskSaDummyPrio : Nat := 3

def taskSbHighPrio : Nat := 2

/-- The parameters of a build. `dummyCount` is `dummy_count`, which a build bounds
by `DUMMY_POOL_SIZE`; nothing here needs the bound. -/
structure Config where
  measurementCount : Nat
  dummyCount : Nat
  one_le_measurementCount : 1 ≤ measurementCount

/-! ## Threads -/

variable {B : Bmth}

def lTaskSALoop : Code B EntryFn :=
  [ .prim (.mwindowOpen .scenarioA),
    .prim .resetCounter,
    .prim (.getStartCnt .testStartTime),
    kcall .kYield ]

def lTaskSA : Code B EntryFn :=
  [ kcall (.kEventWaitSafe .testEvent startEventMask .forever),
    .loop lTaskSALoop ]

variable (cfg : Config)

/-- `iteration_count >= MEASUREMENT_COUNT`. -/
def complete (m : Series) (mem : TestMem B) : Bool := cfg.measurementCount ≤ mem.count m

/-- The branch of `H_Task_SA` for a build without dummy tasks. -/
def hTaskSAClose : Code B EntryFn :=
  if cfg.dummyCount = 0 then
    [ .prim (.mwindowClose .scenarioA),
      .ite (complete cfg .scenarioA)
        [ kcall (.kThreadSuspend .saLowPrioThread),
          kcall .kThreadSuspendCurrent ] [] ]
  else []

def hTaskSALoop : Code B EntryFn :=
  [ kcall .kYield,
    .prim (.getStopCnt .testStopTime),
    .prim (.mseriesIterate .scenarioA .testStartTime .testStopTime false) ] ++ hTaskSAClose cfg

def hTaskSA : Code B EntryFn :=
  [ kcall (.kEventWaitSafe .testEvent startEventMask .forever),
    .loop (hTaskSALoop cfg) ]

def taskSBLoop : Code B EntryFn :=
  [ .prim (.mwindowOpen .scenarioB),
    .prim .resetCounter,
    .prim (.getStartCnt .testStartTime),
    kcall .kYield,
    .prim (.getStopCnt .testStopTime),
    .prim (.mseriesIterate .scenarioB .testStartTime .testStopTime false),
    .prim (.mwindowClose .scenarioB),
    .ite (complete cfg .scenarioB) [kcall .kThreadSuspendCurrent] [] ]

def taskSB : Code B EntryFn := [.loop (taskSBLoop cfg)]

def dummyTaskLoop : Code B EntryFn :=
  [ .prim (.mwindowClose .scenarioA),
    .ite (complete cfg .scenarioA)
      [ kcall (.kThreadSuspend .saLowPrioThread),
        kcall (.kThreadSuspend .saHighPrioThread),
        kcall .kThreadSuspendCurrent ] [],
    kcall .kYield ]

def dummyTask : Code B EntryFn :=
  [ kcall (.kEventWaitSafe .testEvent startEventMask .forever),
    .loop (dummyTaskLoop cfg) ]

/-- `I_Task` after the post of the start bit. -/
def iTaskSB : Code B EntryFn :=
  [ kcall (.kThreadAbort .saHighPrioThread),
    kcall (.kThreadAbort .saLowPrioThread),
    abortDummies cfg.dummyCount 0,
    kcall (.kThreadCreate .sbThread .taskSB taskSbHighPrio) ] ++ verdictLoop

/-- `I_Task` once the dummy tasks are created. -/
def iTaskSA : Code B EntryFn := kcall (.kEventPost .testEvent startEventMask) :: iTaskSB cfg

def iTask : Code B EntryFn :=
  [ kcall (.kEventInit .testEvent),
    kcall (.kThreadCreate .saLowPrioThread .lTaskSA taskSaLowPrio),
    kcall (.kThreadCreate .saHighPrioThread .hTaskSA taskSaHighPrio),
    createDummies .saDummyThreads .dummyTask (fun _ => taskSaDummyPrio) cfg.dummyCount 0 ] ++
    iTaskSA cfg

def body : EntryFn → Code B EntryFn
  | .lTaskSA => lTaskSA
  | .hTaskSA => hTaskSA cfg
  | .taskSB => taskSB cfg
  | .dummyTask => dummyTask cfg
  | .iTask => iTask cfg

end ZephyrBench.TaskSwitching.TaskChange

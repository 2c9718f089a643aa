/-
ZephyrBench.TaskSwitching.TaskPreempt — the test `task_preempt`: a task switch
via `k_thread_resume()` of a task of higher priority.

The thread bodies of `time_task_switch.c`, statement by statement. `H_Task_SA`
takes part in both scenarios: in S_A it outranks the task that resumes it, in S_B
`Task_SB` outranks it. The dummy tasks belong to S_B alone; they are ready during
the window and suspended outside of it.

`Config` carries the order of priorities that both test cases have: the dummy
tasks stand between `Task_SB` and `H_Task_SA`. `testCase` shows that the values
of `benchmark_testcases.h` satisfy it.
-/
import ZephyrBench.TaskSwitching.Common

namespace ZephyrBench.TaskSwitching.TaskPreempt

open Rtos

inductive EntryFn
  | lTaskSA
  | hTaskSA
  | taskSB
  | dummyTaskB
  | iTask

/-! ## Configuration (`benchmark_testcases.h`) -/

def taskSaLowPrio : Nat := 9

def taskSaHighPrio : Nat := 8

def taskSbHighPrio : Nat := 2

/-- The parameters of a build, with the order of priorities that the test
cases have. -/
structure Config where
  measurementCount : Nat
  dummyCount : Nat
  sbDummyPrios : Nat → Nat
  one_le_measurementCount : 1 ≤ measurementCount
  sbDummyPrios_between : ∀ i < dummyCount,
    taskSbHighPrio < sbDummyPrios i ∧ sbDummyPrios i < taskSaHighPrio

/-- `TEST_CASE_II` with `d` of the four dummy tasks; with none of them,
`TEST_CASE_I`. -/
def testCase (measurementCount d : Nat) (hN : 1 ≤ measurementCount) (hd : d ≤ dummyPoolSize) :
    Config where
  measurementCount
  dummyCount := d
  sbDummyPrios i := 3 + i
  one_le_measurementCount := hN
  sbDummyPrios_between i hi := by
    simp only [dummyPoolSize, taskSbHighPrio, taskSaHighPrio] at *
    omega

/-! ## Threads -/

variable {B : Bmth}

def dummyTaskB : Code B EntryFn := [.loop [kcall .kThreadSuspendCurrent]]

def lTaskSALoop : Code B EntryFn :=
  [ kcall (.kThreadSuspend .saHighPrioThread),
    .prim (.mwindowOpen .scenarioA),
    .prim .resetCounter,
    .prim (.getStartCnt .testStartTime),
    kcall (.kThreadResume .saHighPrioThread) ]

def lTaskSA : Code B EntryFn :=
  [ kcall (.kEventWaitSafe .testEvent startEventMask .forever),
    .loop lTaskSALoop ]

variable (cfg : Config)

/-- `iteration_count >= MEASUREMENT_COUNT`. -/
def complete (m : Series) (mem : TestMem B) : Bool := cfg.measurementCount ≤ mem.count m

def hTaskSALoop : Code B EntryFn :=
  [ kcall .kThreadSuspendCurrent,
    .prim (.getStopCnt .testStopTime),
    .prim (.mseriesIterate .scenarioA .testStartTime .testStopTime false),
    .prim (.mwindowClose .scenarioA),
    .ite (complete cfg .scenarioA)
      [ kcall (.kThreadSuspend .saLowPrioThread),
        kcall .kThreadSuspendCurrent ] [] ]

def hTaskSA : Code B EntryFn :=
  [ kcall (.kEventWaitSafe .testEvent startEventMask .forever),
    .loop (hTaskSALoop cfg) ]

/-- The loop of `Task_SB` that makes the dummy tasks ready, from dummy `i` on. -/
def resumeDummies (i : Nat) : Statement B EntryFn :=
  .forUp i (fun i => i < cfg.dummyCount) fun i => [kcall (.kThreadResume (.sbDummyThreads i))]

/-- The loop of `Task_SB` that suspends the dummy tasks, from dummy `i` on. -/
def suspendDummies (i : Nat) : Statement B EntryFn :=
  .forUp i (fun i => i < cfg.dummyCount) fun i => [kcall (.kThreadSuspend (.sbDummyThreads i))]

/-- A pass of `Task_SB` with the dummy tasks ready. -/
def taskSBSample : Code B EntryFn :=
  [ kcall (.kThreadSuspend .saHighPrioThread),
    .prim (.mwindowOpen .scenarioB),
    .prim .resetCounter,
    .prim (.getStartCnt .testStartTime),
    kcall (.kThreadResume .saHighPrioThread),
    .prim (.getStopCnt .testStopTime),
    .prim (.mseriesIterate .scenarioB .testStartTime .testStopTime false),
    .prim (.mwindowClose .scenarioB),
    .ite (complete cfg .scenarioB) [kcall .kThreadSuspendCurrent] [],
    suspendDummies cfg 0 ]

def taskSBLoop : Code B EntryFn := resumeDummies cfg 0 :: taskSBSample cfg

def taskSB : Code B EntryFn := [.loop (taskSBLoop cfg)]

/-- `I_Task` once `L_Task_SA` is gone. -/
def iTaskSB : Code B EntryFn :=
  [ createDummies .sbDummyThreads .dummyTaskB cfg.sbDummyPrios cfg.dummyCount 0,
    kcall (.kThreadCreate .sbThread .taskSB taskSbHighPrio) ] ++ verdictLoop

def iTask : Code B EntryFn :=
  [ kcall (.kEventInit .testEvent),
    kcall (.kThreadCreate .saHighPrioThread .hTaskSA taskSaHighPrio),
    kcall (.kThreadCreate .saLowPrioThread .lTaskSA taskSaLowPrio),
    kcall (.kEventPost .testEvent startEventMask),
    kcall (.kThreadAbort .saLowPrioThread) ] ++ iTaskSB cfg

def body : EntryFn → Code B EntryFn
  | .lTaskSA => lTaskSA
  | .hTaskSA => hTaskSA cfg
  | .taskSB => taskSB cfg
  | .dummyTaskB => dummyTaskB
  | .iTask => iTask cfg

end ZephyrBench.TaskSwitching.TaskPreempt

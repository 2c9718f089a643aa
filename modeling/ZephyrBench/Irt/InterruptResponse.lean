/-
ZephyrBench.Irt.InterruptResponse — the interrupt response test.

The thread bodies and the interrupt handler of `time_interrupt_response.c`,
statement by statement, for the four ways in which the handler releases
`A_Task_SA` (one of them is not to) and the two ways in which it is dispatched.

A build chooses them by macros, and so does the model: `testIsrBody` and
`testIsrReschedule` are functions of `SA_RELEASE`, and what only the builds with
`A_Task_SA` have goes through `ifRelease`. `L_Task_SA` iterates the series in all
builds; with a release the window is closed by then and the iteration does not
count. The dispatch decides whether the handler reschedules: from the table it
always does, dispatched directly it does as `TEST_ISR_RESCHEDULE` says.

In S_B the interrupt is disabled: `Task_SB` makes it pending, takes the stop
marker and clears it, so the handler must never run there.
-/
import ZephyrBench.Verdict

namespace ZephyrBench.Irt

open Rtos Rtos.Exec

/-! ## 1. Names -/

inductive Thread
  | idleThread
  | saLowPrioThread
  | saAperiodicThread
  | sbThread
  deriving DecidableEq

inductive Object
  | testEvent
  | testReleaseEvent
  | testSem
  deriving DecidableEq

inductive Series
  | scenarioA
  | scenarioB
  deriving DecidableEq

inductive Marker
  | testStartTime
  | testStopTime
  deriving DecidableEq

inductive EntryFn
  | aTaskSA
  | lTaskSA
  | taskSB
  | iTask
  deriving DecidableEq

def signalizeDoneEventMask : BitVec 32 := 0x0001

def startEventMask : BitVec 32 := 0x0008

def scenarioAEventMask : BitVec 32 := 0x0010

def taskIdlePrio : Nat := 15

/-! ## 2. Configuration (`benchmark_testcases.h`) -/

def taskSaLowPrio : Nat := 3

def taskSaAperiodicPrio : Nat := 2

def taskSbPrio : Nat := 3

/-- `SA_RELEASE`. -/
inductive SaRelease
  | resume
  | sem
  | event
  | none
  deriving DecidableEq

/-- `TEST_IRQ_DISPATCH`. -/
inductive IrqDispatch
  | table
  | direct
  deriving DecidableEq

/-- The parameters of a build. -/
structure Config where
  measurementCount : Nat
  saRelease : SaRelease
  testIrqDispatch : IrqDispatch
  one_le_measurementCount : 1 ≤ measurementCount

/-! ## 3. Programs -/

section Types

variable (B : Bmth)

abbrev TestMem := Mem B Series Marker Unit

abbrev Statement := Stmt Thread Object Empty EntryFn (Prim Series Marker Empty) (TestMem B)

abbrev Code := List (Statement B)

abbrev TestState := DocState Thread Object Empty EntryFn (Prim Series Marker Empty) (TestMem B)

abbrev Action := Act Thread Object Empty EntryFn (Prim Series Marker Empty)

abbrev HistEntry := Entry Thread Object Empty EntryFn (Prim Series Marker Empty)

end Types

variable {B : Bmth}

/-- A call whose arguments are constants. -/
abbrev kcall (c : Call Thread Object Empty EntryFn) : Statement B := .call fun _ => c

/-- `TEST_ISR_BODY()`. -/
def testIsrBody : SaRelease → Action
  | .resume => .call (.kThreadResume .saAperiodicThread)
  | .sem => .call (.kSemGive .testSem)
  | .event => .call (.kEventPost .testReleaseEvent scenarioAEventMask)
  | .none => .prim (.getStopCnt .testStopTime)

/-- `TEST_ISR_RESCHEDULE`. -/
def testIsrReschedule : SaRelease → Bool
  | .none => false
  | _ => true

/-- `A_Task_SA` after its wait. -/
def aTaskSASample : Code B :=
  [ .prim (.getStopCnt .testStopTime),
    .prim (.mseriesIterate .scenarioA .testStartTime .testStopTime false),
    .prim (.mwindowClose .scenarioA) ]

def aTaskSALoop : SaRelease → Code B
  | .resume => kcall .kThreadSuspendCurrent :: aTaskSASample
  | .sem => kcall (.kSemTake .testSem .forever) :: aTaskSASample
  | .event =>
    kcall (.kEventWaitSafe .testReleaseEvent scenarioAEventMask .forever) :: aTaskSASample
  -- the build has no `A_Task_SA`
  | .none => []

variable (cfg : Config)

/-- `iteration_count >= MEASUREMENT_COUNT`. -/
def complete (m : Series) (mem : TestMem B) : Bool := cfg.measurementCount ≤ mem.count m

/-- The end of a pass of `L_Task_SA` and of `Task_SB`. -/
def signalizeDone (m : Series) : Statement B :=
  .ite (complete cfg m)
    [ kcall (.kEventPost .testEvent signalizeDoneEventMask),
      kcall .kThreadSuspendCurrent ] []

def lTaskSALoop : Code B :=
  [ .prim (.mwindowOpen .scenarioA),
    .prim .resetCounter,
    .prim (.getStartCnt .testStartTime),
    kcall .nvicSetPendingIrq,
    .prim (.mseriesIterate .scenarioA .testStartTime .testStopTime false),
    .prim (.mwindowClose .scenarioA),
    signalizeDone cfg .scenarioA ]

def lTaskSA : Code B :=
  [ kcall (.kEventWaitSafe .testEvent startEventMask .forever),
    .loop (lTaskSALoop cfg) ]

def taskSBLoop : Code B :=
  [ .prim (.mwindowOpen .scenarioB),
    .prim .resetCounter,
    .prim (.getStartCnt .testStartTime),
    kcall .nvicSetPendingIrq,
    .prim (.getStopCnt .testStopTime),
    .prim (.mseriesIterate .scenarioB .testStartTime .testStopTime false),
    .prim (.mwindowClose .scenarioB),
    kcall .nvicClearPendingIrq,
    signalizeDone cfg .scenarioB ]

def taskSB : Code B :=
  [ kcall (.kEventWaitSafe .testEvent startEventMask .forever),
    .loop (taskSBLoop cfg) ]

/-- The condition of the last loop of `I_Task`. -/
def outliers (mem : TestMem B) : Bool :=
  B.valuesOutlierCount (mem.series .scenarioA) != 0 ||
    B.valuesOutlierCount (mem.series .scenarioB) != 0

/-- A statement of the builds that have `A_Task_SA`. -/
def ifRelease (st : Statement B) : Code B :=
  if cfg.saRelease = .none then [] else [st]

/-- `I_Task` once S_A is over. -/
def iTaskSB : Code B :=
  [ kcall .irqDisable,
    kcall .nvicClearPendingIrq,
    kcall (.kThreadCreate .sbThread .taskSB taskSbPrio),
    kcall (.kEventPost .testEvent startEventMask),
    kcall (.kEventWaitSafe .testEvent signalizeDoneEventMask .forever),
    kcall (.kThreadAbort .sbThread) ] ++ verdictLoop outliers

/-- `I_Task` from the post that starts S_A. -/
def iTaskSA : Code B :=
  [ kcall (.kEventPost .testEvent startEventMask),
    kcall (.kEventWaitSafe .testEvent signalizeDoneEventMask .forever),
    kcall (.kThreadAbort .saLowPrioThread) ] ++
  ifRelease cfg (kcall (.kThreadAbort .saAperiodicThread)) ++ iTaskSB

def iTask : Code B :=
  [ kcall (.kEventInit .testEvent),
    kcall (.kEventInit .testReleaseEvent),
    kcall (.kSemInit .testSem 0 1),
    kcall .irqEnable ] ++
  ifRelease cfg (kcall (.kThreadCreate .saAperiodicThread .aTaskSA taskSaAperiodicPrio)) ++
  [ kcall (.kThreadCreate .saLowPrioThread .lTaskSA taskSaLowPrio) ] ++ iTaskSA cfg

def program : Prog Thread Object Empty EntryFn (Prim Series Marker Empty) (TestMem B) where
  body
    | .aTaskSA => [.loop (aTaskSALoop cfg.saRelease)]
    | .lTaskSA => lTaskSA cfg
    | .taskSB => taskSB cfg
    | .iTask => iTask cfg
  prim q now ret mem := q.run nofun now ret mem
  isr := [testIsrBody cfg.saRelease]
  isrResched := match cfg.testIrqDispatch with
    | .table => true
    | .direct => testIsrReschedule cfg.saRelease

/-- The data of the kernel at boot; the test hands none to it. -/
def noData : Data Thread Empty where
  ret _ := none
  swap _ := .none
  buf := nofun
  msg := nofun
  asyncFree := 0

/-- `main()` initialises the series for markers in two functions and for
markers in one. -/
def readWindow : Series → ReadWindow
  | .scenarioA => .crossFunctionsFileScopeVars
  | .scenarioB => .insideFunctionFileScopeVars

/-- The run of the test from the start of `I_Task`. -/
def run {K : Type} (Z : Zephyr K Thread Object Empty EntryFn) (n : Nat) : TestState B :=
  ((program cfg).run Z .idleThread taskIdlePrio .iTask noData (.initial readWindow ()) n).view Z

/-- The state in which `I_Task` starts. -/
def start : TestState B where
  kern := .boot .idleThread taskIdlePrio noData
  code := fun u => if u = .idleThread then iTask cfg else []
  mem := .initial readWindow ()
  log := []

end ZephyrBench.Irt

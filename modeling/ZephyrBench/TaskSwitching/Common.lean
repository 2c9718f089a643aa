/-
ZephyrBench.TaskSwitching.Common — what the task switching tests share.

Every test of the family has the control task `I_Task` on the thread
`idle_thread`, one event object, at most one semaphore, two time markers and
two series, `scenario_a` and `scenario_b`. `I_Task` ends in a loop that
signals the verdict, so a run is over when it gets there (`AtVerdict`).

Thread, object, series and marker names are those of the six source files
together; a test uses some of them. What the files define alike is here: the
two masks by which `I_Task` and the measured tasks signal to each other, the
priority of `I_Task`, the size of the dummy pool, and the loops that create and
remove the dummy tasks. What a test defines for itself, its other masks and all
its priorities, stands in the module of the test.

`run_of_leads` is how each of the theorems about one test ends: a symbolic
execution over the documented kernel, from the start of `I_Task` to its last
loop, gives the run over every kernel that behaves as documented.
-/
import ZephyrBench.Verdict

namespace ZephyrBench.TaskSwitching

open Rtos Rtos.Exec

/-! ## 1. Names -/

/-- The thread objects of the tests; each test has some of them. -/
inductive Thread
  | idleThread
  | saHighPrioThread
  | saLowPrioThread
  | sbHighPrioThread
  | sbLowPrioThread
  | sbThread
  | saDummyThreads (i : Nat)
  | sbDummyThreads (i : Nat)
  deriving DecidableEq

inductive Object
  | testEvent
  | testSem
  deriving DecidableEq

inductive Series
  | scenarioA
  | scenarioB
  deriving DecidableEq

inductive Marker
  | testStartTime
  | testStopTime
  deriving DecidableEq

/-- The local variable of `I_Task` whose address the event tests hand to
their dummy tasks. -/
structure Vars where
  dummyTaskEventMask : BitVec 32

inductive Assign
  | dummyTaskEventMask (mask : BitVec 32)
  deriving DecidableEq

def signalizeYieldEventMask : BitVec 32 := 0x0004

def startEventMask : BitVec 32 := 0x0008

def taskIdlePrio : Nat := 15

def dummyPoolSize : Nat := 4

/-! ## 2. Programs -/

section Types

variable (B : Bmth) (F : Type)

abbrev TestMem := Mem B Series Marker Vars

abbrev Statement := Stmt Thread Object Empty F (Prim Series Marker Assign) (TestMem B)

abbrev Code := List (Statement B F)

abbrev Program := Prog Thread Object Empty F (Prim Series Marker Assign) (TestMem B)

abbrev TestState :=
  DocState Thread Object Empty F (Prim Series Marker Assign) (TestMem B)

abbrev HistEntry := Entry Thread Object Empty F (Prim Series Marker Assign)

end Types

variable {K : Type} {B : Bmth} {F : Type}

/-- A call whose arguments are constants. -/
abbrev kcall (c : Call Thread Object Empty F) : Statement B F := .call fun _ => c

def Assign.set (mem : TestMem B) : Assign → TestMem B
  | .dummyTaskEventMask mask => { mem with vars := { mem.vars with dummyTaskEventMask := mask } }

/-- A test without an interrupt handler. -/
def program (body : F → Code B F) : Program B F where
  body
  prim q now ret mem := q.run (fun w _ mem => w.set mem) now ret mem
  isr := []
  isrResched := false

attribute [scoped simp] Assign.set

@[simp] theorem program_body (body : F → Code B F) : (program body).body = body := rfl

@[simp] theorem program_prim (body : F → Code B F) (q : Prim Series Marker Assign) (now : Nat)
    (ret : Option Empty) (mem : TestMem B) :
    (program body).prim q now ret mem = q.run (fun w _ mem => w.set mem) now ret mem := rfl

/-- The data of the kernel at boot; these tests hand none to it. -/
def noData : Data Thread Empty where
  ret _ := none
  swap _ := .none
  buf := nofun
  msg := nofun
  asyncFree := 0

/-- `main()` initialises the series for markers in two functions and for
markers in one. -/
def readWindow : Series → ReadWindow
  | .scenarioA => .crossFunctionsFileScopeVars
  | .scenarioB => .insideFunctionFileScopeVars

/-- The run of a test from the start of `I_Task`. -/
def run (Z : Zephyr K Thread Object Empty F) (body : F → Code B F) (iTask : F) (n : Nat) :
    TestState B F :=
  ((program body).run Z .idleThread taskIdlePrio iTask noData (.initial readWindow ⟨0⟩) n).view Z

/-- The state in which `I_Task` starts. -/
def start (body : F → Code B F) (iTask : F) : TestState B F where
  kern := .boot .idleThread taskIdlePrio noData
  code := fun u => if u = .idleThread then body iTask else []
  mem := .initial readWindow ⟨0⟩
  log := []

/-- The wait of a dummy task for the mask it is given by address. -/
def waitOnMask : Statement B F :=
  .call fun mem => .kEventWaitSafe .testEvent mem.vars.dummyTaskEventMask .forever

/-- The loop of `I_Task` that creates the dummy tasks `D`, from dummy `i` on. -/
def createDummies (D : Nat → Thread) (dummyTask : F) (prios : Nat → Nat) (d i : Nat) :
    Statement B F :=
  .forUp i (fun i => i < d) fun i => [kcall (.kThreadCreate (D i) dummyTask (prios i))]

/-- The loop of `I_Task` that removes the dummy tasks, from dummy `i` on. -/
def abortDummies (d i : Nat) : Statement B F :=
  .forUp i (fun i => i < d) fun i => [kcall (.kThreadAbort (.saDummyThreads i))]

/-! ## 3. The verdict -/

def outliers (mem : TestMem B) : Bool :=
  B.valuesOutlierCount (mem.series .scenarioA) != 0 ||
    B.valuesOutlierCount (mem.series .scenarioB) != 0

/-- The loop at the end of `I_Task`. -/
abbrev verdictLoop : Code B F := ZephyrBench.verdictLoop outliers

/-- `I_Task` is in its last loop, with `a` samples in `scenario_a` and `b` in
`scenario_b`. -/
abbrev AtVerdict (a b : Nat) : TestState B F → Prop :=
  Settled .idleThread outliers fun _ series =>
    B.iterationCount (series .scenarioA) = a ∧ B.iterationCount (series .scenarioB) = b

/-- A symbolic execution from the start of `I_Task` to its last loop settles a
run over any documented kernel. -/
theorem run_of_leads (Z : Zephyr K Thread Object Empty F) {body : F → Code B F} {iTask : F}
    {Good : TestState B F → Prop}
    {R : Kernel Thread Object Empty → (Series → B.Series) → Prop}
    (h : Leads (program body).next Good (start body iTask) (Settled .idleThread outliers R))
    (hGood : ∀ s, Settled .idleThread outliers R s → Good s) :
    Ends (run Z body iTask) (Settled .idleThread outliers R) ∧ ∀ n, Good (run Z body iTask n) :=
  ZephyrBench.run_of_leads Z (program_prim body) h hGood

end ZephyrBench.TaskSwitching

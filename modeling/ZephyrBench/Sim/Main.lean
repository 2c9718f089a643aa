/-
ZephyrBench.Sim.Main — `main()` of the tests that run probes.

Before the test starts, `main()` initialises the series of the two scenarios and
has three probes fill a series each, from which it is known what the markers of
the scenarios leave out. Which probes these are, in which order and with which
series, is `probeCalls` of each test; `sem_preempt` is built with and without a
waiter, and its probe of the give is told which.

`mainUpTo` is the state after some of the calls, so that a statement can be about
the moment in which a probe begins. The set-up of the hardware, the check of the
counter and the creation of `I_Task` are not modelled: they touch neither the
machine nor a series.
-/
import ZephyrBench.Sim.TaskProbes
import ZephyrBench.TaskSwitching.Common

namespace ZephyrBench.Sim

variable {B : Bmth} {V : Type}

/-- The measurement series in static storage, of all tests. -/
inductive MainSeries
  | scenario (m : TaskSwitching.Series)
  | zSwapOverhead
  | swapPrologue
  | suspendTail
  | eventTail
  | waitTail
  | waitTailNoWait
  | postTail
  | giveTail
  | takeTail
  | takeTailNoWait
  deriving DecidableEq

/-- What `main()` works on. The machine has the series of the running probe. -/
structure MainState (B : Bmth) (V : Type) where
  machine : Machine B V
  series : MainSeries → B.Series

/-- The machine of a probe that is called with the address of the series `m`. -/
def MainState.select (s : MainState B V) (m : MainSeries) : Machine B V :=
  { s.machine with series := s.series m }

/-- The call of a probe with the address of the series `m`. -/
def Probe.fill (p : Probe B V) (m : MainSeries) (loopCount : BitVec 32) (s : MainState B V) :
    MainState B V :=
  let machine := p.run loopCount (s.select m)
  ⟨machine, Function.update s.series m machine.series⟩

/-- `BMTH_mseries_initialize()`. -/
def MainState.mseriesInitialize (s : MainState B V) (m : MainSeries) (window : ReadWindow) :
    MainState B V :=
  { s with series := Function.update s.series m (B.mseriesInitialize window) }

/-- The initialisation of `scenario_a` and `scenario_b`. -/
def initScenarios (s : MainState B V) : MainState B V :=
  (s.mseriesInitialize (.scenario .scenarioA) .crossFunctionsFileScopeVars).mseriesInitialize
    (.scenario .scenarioB) .insideFunctionFileScopeVars

/-! ## The calls of each `main()` -/

/-- What a test takes from its header. -/
structure MainConfig where
  measurementCount : BitVec 32
  testSbHasWaiter : BitVec 32

def EventBlock.probeCalls : List (MainSeries × EventBlock.Call) :=
  [(.zSwapOverhead, .zSwap .prologue), (.postTail, .postTail),
    (.waitTailNoWait, .waitTailNoWait)]

def EventPreempt.probeCalls : List (MainSeries × EventPreempt.Call) :=
  [(.eventTail, .eventTail), (.waitTail, .wait .tail), (.zSwapOverhead, .zSwap .prologue)]

def SemBlock.probeCalls : List (MainSeries × SemBlock.Call) :=
  [(.zSwapOverhead, .zSwap .prologue), (.giveTail, .giveTail),
    (.takeTailNoWait, .takeTailNoWait)]

def SemPreempt.probeCalls (cfg : MainConfig) : List (MainSeries × SemPreempt.Call) :=
  [(.giveTail, .giveTailNoSwap cfg.testSbHasWaiter), (.takeTail, .takeTail),
    (.zSwapOverhead, .zSwap .prologue)]

/-- The tail of the resume goes into the series of the swap. -/
def TaskPreempt.probeCalls : List (MainSeries × TaskPreempt.Call) :=
  [(.zSwapOverhead, .threadResumeTail), (.suspendTail, .threadSuspendTail),
    (.swapPrologue, .swapPrologue)]

/-- The probes that `main()` calls, each with the series it fills. -/
def Test.probeCalls (L : IrqLock) (cfg : MainConfig) :
    (test : Test) → List (MainSeries × (test.image B L).Call)
  | .eventBlock => EventBlock.probeCalls
  | .eventPreempt => EventPreempt.probeCalls
  | .semBlock => SemBlock.probeCalls
  | .semPreempt => SemPreempt.probeCalls cfg
  | .taskPreempt => TaskPreempt.probeCalls

/-- A list of such calls, all with one loop count. -/
def Image.fillAll (image : Image B) (loopCount : BitVec 32)
    (calls : List (MainSeries × image.Call)) (s : MainState B image.Vars) :
    MainState B image.Vars :=
  calls.foldl (fun s c => (image.probe c.2).fill c.1 loopCount s) s

/-- The static storage at boot. -/
def Image.mainState (image : Image B) (series : MainSeries → B.Series) :
    MainState B image.Vars where
  machine := image.boot (series .zSwapOverhead)
  series

/-- `main()` after its first `k` calls of probes. -/
def Test.mainUpTo (L : IrqLock) (cfg : MainConfig) (series : MainSeries → B.Series) (test : Test)
    (k : Nat) : MainState B (test.image B L).Vars :=
  (test.image B L).fillAll cfg.measurementCount ((test.probeCalls L cfg).take k)
    (initScenarios ((test.image B L).mainState series))

/-- `main()` up to the creation of `I_Task`. -/
def Test.main (L : IrqLock) (cfg : MainConfig) (series : MainSeries → B.Series) (test : Test) :
    MainState B (test.image B L).Vars :=
  (test.image B L).fillAll cfg.measurementCount (test.probeCalls L cfg)
    (initScenarios ((test.image B L).mainState series))

end ZephyrBench.Sim

/-
ZephyrBench.Sim.TaskProbes — the probes of `task_preempt`, and all images.

`task_preempt` times the tails of `k_thread_resume()` and of a thread that
suspends itself, and the swap prologue. It has no static variables but its sink.

`Test` lists the tests that run probes: a statement about all of them is one about
`Test.image`, and its proof a case for each.
-/
import ZephyrBench.Sim.SemProbes

namespace ZephyrBench.Sim

variable {B : Bmth} {V : Type}

/-! ## 1. `task_preempt` -/

namespace TaskPreempt

def simZImplKThreadResumeTail : SimM B V Unit := simRescheduleTail 0

def simResumeThreadTail : SimM B V Unit := simZImplKThreadResumeTail

def measureResumeTail : SimM B V Unit := do
  mwindowOpen
  simResumeThreadTail
  let rv : BitVec 32 := 0
  getStopCnt
  tell (.sink rv)
  mseriesIterate
  mwindowClose

def measureSwapPrologue : SimM B V Unit := do
  mwindowOpen
  getStartCnt
  let rv ← simZSwapPrologue 0
  tell (.sink (BitVec.ofInt 32 rv))
  mseriesIterate
  mwindowClose

def measureSwapPrologueOverhead : Probe B V where
  prepare := do
    simKernelInit
    mseriesInitialize .crossFunctionsFileScopeVars
  iteration := measureSwapPrologue

def simZImplKThreadSuspendTail (swap : BitVec 32) : SimM B V Unit := do
  if swap = 0 then
    tell (.arm .swap)
    simReached
    let _ ← simZSwapTail swap
  else
    tell (.arm .noSwap)
    simUnreached
    irqUnlock 0

def simSuspendThreadTail : SimM B V Unit := simZImplKThreadSuspendTail 0

def measureSuspendTail : SimM B V Unit := do
  mwindowOpen
  simSuspendThreadTail
  let rv : BitVec 32 := 0
  getStopCnt
  tell (.sink rv)
  mseriesIterate
  mwindowClose

def measureThreadSuspendTail : Probe B V where
  prepare := do
    simKernelInit
    mseriesInitialize .insideFunctionFileScopeVars
  iteration := measureSuspendTail

def measureThreadResumeTail : Probe B V where
  prepare := do
    simKernelInit
    mseriesInitialize .insideFunctionFileScopeVars
  iteration := measureResumeTail

inductive Call
  | swapPrologue
  | threadSuspendTail
  | threadResumeTail
  deriving DecidableEq

def image (B : Bmth) : Image B where
  Vars := Unit
  Call := Call
  vars := ()
  probe
    | .swapPrologue => measureSwapPrologueOverhead
    | .threadSuspendTail => measureThreadSuspendTail
    | .threadResumeTail => measureThreadResumeTail

end TaskPreempt

/-! ## 2. The images -/

inductive Test
  | eventBlock
  | eventPreempt
  | semBlock
  | semPreempt
  | taskPreempt
  deriving DecidableEq

def Test.image (B : Bmth) (L : IrqLock) : Test → Image B
  | .eventBlock => EventBlock.image B L
  | .eventPreempt => EventPreempt.image B L
  | .semBlock => SemBlock.image B L
  | .semPreempt => SemPreempt.image B L
  | .taskPreempt => TaskPreempt.image B

end ZephyrBench.Sim

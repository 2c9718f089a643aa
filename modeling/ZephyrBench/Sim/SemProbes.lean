/-
ZephyrBench.Sim.SemProbes — the probes of `sem_block` and `sem_preempt`.

`sem_block` times the take that does not wait and a give with a swap,
`sem_preempt` the take that blocks and a give without a swap. The takes have the
three arms of `z_impl_k_sem_take()`, of which a probe takes one. In `sem_preempt`
the arm that pends writes no key back, so it returns with interrupts masked.

The wait queue of `tail_sem` is the list of the threads in its dlist. The probe of
the give without a swap puts a waiter there, or none, as its last argument says.
-/
import ZephyrBench.Sim.EventProbes

namespace ZephyrBench.Sim

variable {B : Bmth}

open SimThread

structure KSem where
  count : BitVec 32
  limit : BitVec 32
  waitQ : List SimThread
  deriving DecidableEq

def kSemMaxLimit : BitVec 32 := -1

/-- What `k_sem_init()` makes of a semaphore. -/
def kSemInit (count limit : BitVec 32) : KSem := ⟨count, limit, []⟩

/-- A semaphore in static storage. -/
def KSem.zeroed : KSem := ⟨0, 0, []⟩

/-! ## 1. `sem_block` -/

namespace SemBlock

structure Vars where
  tailSem : KSem
  simTakeTicks : BitVec 64
  simGiveKey : BitVec 32
  deriving DecidableEq

def Vars.initial : Vars where
  tailSem := .zeroed
  simTakeTicks := 0
  simGiveKey := 0

def measureSemZSwapOverhead (part : SimZSwapPart) : Probe B Vars where
  prepare := do
    simKernelInit
    mseriesInitialize .crossFunctionsFileScopeVars
  iteration := measureZSwap part

def simZImplKSemTakeTail (L : IrqLock) (timeout : KTimeout) : SimM B Vars Int := do
  let key ← kSpinLock L
  let vars ← getVars
  if vars.tailSem.count ≠ 0 then
    tell (.arm .takeCount)
    modifyVars fun v => { v with tailSem := { v.tailSem with count := v.tailSem.count - 1 } }
    kSpinUnlock key
    pure 0
  else if timeout = kNoWait then
    tell (.arm .takeNoWait)
    getStartCnt
    kSpinUnlock key
    pure (-ebusy)
  else
    tell (.arm .takePend)
    simZPendCurrPrologue L key (some .tailSem) timeout

def measureTakeTail (L : IrqLock) : SimM B Vars Unit := do
  let vars ← getVars
  let timeout : KTimeout := ⟨vars.simTakeTicks⟩
  mwindowOpen
  let rv ← simZImplKSemTakeTail L timeout
  getStopCnt
  tell (.sink (BitVec.ofInt 32 rv))
  mseriesIterate
  mwindowClose

def measureTakeTailNoWaitOverhead (L : IrqLock) : Probe B Vars where
  prepare := do
    simKernelInit
    modifyVars fun v => { v with tailSem := kSemInit 0 kSemMaxLimit }
    mseriesInitialize .insideFunctionFileScopeVars
  iteration := measureTakeTail L

def simZImplKSemGiveTail : SimM B Vars Unit := do
  let vars ← getVars
  simZRescheduleSwapTail vars.simGiveKey

def measureGiveTail : SimM B Vars Unit := do
  mwindowOpen
  simZImplKSemGiveTail
  getStopCnt
  mseriesIterate
  mwindowClose

def measureGiveTailOverhead : Probe B Vars where
  prepare := do
    simKernelInit
    mseriesInitialize .insideFunctionFileScopeVars
  iteration := measureGiveTail

inductive Call
  | zSwap (part : SimZSwapPart)
  | takeTailNoWait
  | giveTail
  deriving DecidableEq

def image (B : Bmth) (L : IrqLock) : Image B where
  Vars := Vars
  Call := Call
  vars := .initial
  probe
    | .zSwap part => measureSemZSwapOverhead part
    | .takeTailNoWait => measureTakeTailNoWaitOverhead L
    | .giveTail => measureGiveTailOverhead

end SemBlock

/-! ## 2. `sem_preempt` -/

namespace SemPreempt

structure Vars where
  tailSem : KSem
  simTakeTicks : BitVec 64
  deriving DecidableEq

def Vars.initial : Vars where
  tailSem := .zeroed
  simTakeTicks := 0

def measureSemZSwapOverhead (part : SimZSwapPart) : Probe B Vars where
  prepare := do
    simKernelInit
    mseriesInitialize .crossFunctionsFileScopeVars
  iteration := measureZSwap part

def simZPendCurrSwapTail (key : BitVec 32) (_waitQ : Option WaitQ) (_timeout : KTimeout) :
    SimM B Vars Int :=
  simZSwapIrqlockTail key

/-- The pend arm writes no key back. -/
def simZImplKSemTakeSwapTail (L : IrqLock) (timeout : KTimeout) : SimM B Vars Int := do
  let key ← kSpinLock L
  let vars ← getVars
  if vars.tailSem.count ≠ 0 then
    tell (.arm .takeCount)
    modifyVars fun v => { v with tailSem := { v.tailSem with count := v.tailSem.count - 1 } }
    kSpinUnlock key
    pure 0
  else if timeout = kNoWait then
    tell (.arm .takeNoWait)
    kSpinUnlock key
    pure (-ebusy)
  else
    tell (.arm .takePend)
    simZPendCurrSwapTail key (some .tailSem) timeout

def measureTakeTail (L : IrqLock) : SimM B Vars Unit := do
  let vars ← getVars
  let timeout : KTimeout := ⟨vars.simTakeTicks⟩
  mwindowOpen
  let rv ← simZImplKSemTakeSwapTail L timeout
  getStopCnt
  tell (.sink (BitVec.ofInt 32 rv))
  mseriesIterate
  mwindowClose

def measureTakeTailOverhead (L : IrqLock) : Probe B Vars where
  prepare := do
    simKernelInit
    modifyVars fun v => { v with tailSem := kSemInit 0 kSemMaxLimit }
    modifyVars fun v => { v with simTakeTicks := kForever.ticks }
    mseriesInitialize .insideFunctionFileScopeVars
  iteration := measureTakeTail L

def simRescheduleNoSwapTail (key : BitVec 32) : SimM B Vars Unit := do
  let s ← getMachine
  if key = 0 ∧ s.ipsr = 0 ∧ s.kernel.cache ≠ s.kernel.current then
    tell (.arm .swap)
    let _ ← simZSwapIrqlockTail key
  else
    tell (.arm .noSwap)
    getStartCnt
    irqUnlock key

def simZRescheduleNoSwapTail (key : BitVec 32) : SimM B Vars Unit := simRescheduleNoSwapTail key

def simZImplKSemGiveTail (L : IrqLock) : SimM B Vars Unit := do
  let key ← kSpinLock L
  let vars ← getVars
  match vars.tailSem.waitQ.head? with
  | some thread =>
    tell (.arm .giveWaiter)
    modifyThread thread fun t => { t with swapReturnValue := 0 }
    simZRescheduleNoSwapTail key
  | none =>
    tell (.arm .giveCount)
    modifyVars fun v => { v with tailSem := { v.tailSem with
      count := v.tailSem.count + if v.tailSem.count ≠ v.tailSem.limit then 1 else 0 } }
    getStartCnt
    kSpinUnlock key

def measureGiveTail (L : IrqLock) : SimM B Vars Unit := do
  mwindowOpen
  simZImplKSemGiveTail L
  getStopCnt
  mseriesIterate
  mwindowClose

def measureGiveTailNoSwapOverhead (L : IrqLock) (hasWaiter : BitVec 32) : Probe B Vars where
  prepare := do
    simKernelInit
    modifyMachine fun s => { s with kernel := { s.kernel with cache := s.kernel.current } }
    modifyVars fun v => { v with tailSem := kSemInit 0 kSemMaxLimit }
    if hasWaiter ≠ 0 then
      modifyVars fun v => { v with tailSem := { v.tailSem with
        waitQ := v.tailSem.waitQ ++ [simWaiterThread] } }
    mseriesInitialize .insideFunctionFileScopeVars
  iteration := measureGiveTail L

inductive Call
  | zSwap (part : SimZSwapPart)
  | takeTail
  | giveTailNoSwap (hasWaiter : BitVec 32)
  deriving DecidableEq

def image (B : Bmth) (L : IrqLock) : Image B where
  Vars := Vars
  Call := Call
  vars := .initial
  probe
    | .zSwap part => measureSemZSwapOverhead part
    | .takeTail => measureTakeTailOverhead L
    | .giveTailNoSwap hasWaiter => measureGiveTailNoSwapOverhead L hasWaiter

end SemPreempt

end ZephyrBench.Sim

/-
ZephyrBench.Sim.Kernel — the simulated kernel, `zephyr_api_simulation/`.

The functions of `sim_init.c`, `sim_kswap.h` and `sim_sched.c`, each under its
own name and with the branches of the source. Where a branch is marked by
`sim_reached()` or `sim_unreached()`, the mark goes into the history, so that it
can be asked which branches a probe takes.

The locks they are passed are not modelled: on a uniprocessor kernel a spinlock
is the interrupt mask alone.

`sim_kernel_init()` resets the current thread and not the ready queue, as in the
source. What a probe finds there therefore depends on the probes before it, and
the contracts of the images are about that (`Sim.Runs`).
-/
import ZephyrBench.Sim.Machine

namespace ZephyrBench.Sim

variable {B : Bmth} {V : Type}

open SimThread

/-! ## `sim_common.h`, `sim_init.c` -/

def simReached : SimM B V Unit := tell .reached

def simUnreached : SimM B V Unit := tell .unreached

def simUnreachedInt : SimM B V Int := do
  tell .unreached
  pure 0

def simCurrentThreadQuery : SimM B V SimThread := pure simCurrentThread

/-- It resets the current thread, not the ready queue. -/
def simKernelInit : SimM B V Unit := do
  modifyMachine fun s => { s with kernel := { s.kernel with current := some simCurrentThread } }
  modifyThread simCurrentThread fun t => { t with swapReturnValue := 0 }
  modifyThread simCurrentThread fun t => { t with events := 1 }

/-! ## `sim_kswap.h` -/

/-- The thread that `cpus[0].current` points to, written. -/
def modifyCurrent (f : KThread → KThread) : SimM B V Unit := do
  let s ← getMachine
  deref s.kernel.current (fun t => modifyThread t f) ()

/-- `cpus[0].current->arch.swap_return_value`. -/
def currentSwapReturnValue : SimM B V Int := do
  let s ← getMachine
  deref s.kernel.current (fun t => do
    let thread ← getThread t
    pure thread.swapReturnValue) 0

/-- The branch of `CONFIG_ARMV7_M_ARMV8_M_MAINLINE`. -/
def simArchSwapPrologue (simKey : BitVec 32) : SimM B V Int := do
  modifyCurrent fun t => { t with basepri := simKey }
  modifyCurrent fun t => { t with swapReturnValue := -eagain }
  setBASEPRI 0
  getStopCnt
  currentSwapReturnValue

def simZSwapIrqlockPrologue (simKey : BitVec 32) : SimM B V Int := simArchSwapPrologue simKey

def simZSwapPrologue (key : BitVec 32) : SimM B V Int := do
  kSpinRelease
  simZSwapIrqlockPrologue key

def simArchSwapTail (simKey : BitVec 32) : SimM B V Int := do
  modifyThread simCurrentThread fun t => { t with basepri := simKey }
  getStartCnt
  currentSwapReturnValue

def simZSwapIrqlockTail (simKey : BitVec 32) : SimM B V Int := simArchSwapTail simKey

def simZSwapTail (simKey : BitVec 32) : SimM B V Int := simZSwapIrqlockTail simKey

/-! ## `sim_sched.c` -/

def simAddToWaitqLocked (thread : Option SimThread) (waitQ : Option WaitQ) : SimM B V Unit := do
  if thread = none ∨ waitQ = none then
    let _ ← simUnreachedInt
  else
    pure ()

def simAddThreadTimeout (thread : Option SimThread) (timeout : KTimeout) : SimM B V Unit := do
  if thread = none ∨ timeout.ticks = 0 then
    let _ ← simUnreachedInt
  else
    pure ()

def simPendLocked (thread : Option SimThread) (waitQ : Option WaitQ) (timeout : KTimeout) :
    SimM B V Unit := do
  simAddToWaitqLocked thread waitQ
  simAddThreadTimeout thread timeout

def simZPendCurrPrologue (L : IrqLock) (simKey : BitVec 32) (waitQ : Option WaitQ)
    (timeout : KTimeout) : SimM B V Int := do
  let _ ← kSpinLock L
  simPendLocked (some simCurrentThread) waitQ timeout
  kSpinRelease
  simZSwapPrologue simKey

def simZPendCurrTail (simKey : BitVec 32) (_simWq : BitVec 32) : SimM B V Int := do
  simPendLocked (some simCurrentThread) none kNoWait
  simZSwapTail simKey

def simRescheduleTail (swap : BitVec 32) : SimM B V Unit := do
  if swap = 0 then
    tell (.arm .noSwap)
    simReached
    getStartCnt
    irqUnlock swap
  else
    tell (.arm .swap)
    simUnreached
    let _ ← simZSwapTail swap

def simZRescheduleTail (swap : BitVec 32) : SimM B V Unit := simRescheduleTail swap

attribute [scoped simp] getMachine modifyMachine getVars modifyVars tell getThread modifyThread
  deref getBASEPRI setBASEPRI irqLock kSpinLock irqUnlock kSpinUnlock kSpinRelease
  getStartCnt getStopCnt mseriesInitialize mwindowOpen mwindowClose mseriesIterate

attribute [scoped simp] simReached simUnreached simUnreachedInt simCurrentThreadQuery simKernelInit
  modifyCurrent currentSwapReturnValue simArchSwapPrologue simZSwapIrqlockPrologue
  simZSwapPrologue simArchSwapTail simZSwapIrqlockTail simZSwapTail simAddToWaitqLocked
  simAddThreadTimeout simPendLocked simZPendCurrPrologue simZPendCurrTail simRescheduleTail
  simZRescheduleTail

end ZephyrBench.Sim

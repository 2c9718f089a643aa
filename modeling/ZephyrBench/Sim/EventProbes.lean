/-
ZephyrBench.Sim.EventProbes — the probes of `event_block` and `event_preempt`.

The two files `zephyr_sim.c` share the z_swap probe, which the semaphore tests
have too, and the simulated `k_event_wait_safe()`, of which the tail half passes
its arguments through an array of words. They differ in the post: in
`event_block` it ends in a swap, in `event_preempt` it does not.

The files are copies of each other where they agree, and so the wait is one
definition with what `event_block` adds to it as a parameter (`compensation`);
each test then has the function under its own name. `image` collects the static
variables and the probes of a test, with the selectors that `measure_*()` is
given as constructors of `Call`.
-/
import ZephyrBench.Sim.Kernel

namespace ZephyrBench.Sim

variable {B : Bmth} {V : Type}

/-! ## 1. The z_swap probe -/

inductive SimZSwapPart
  | prologue
  | tail
  deriving DecidableEq

/-- `measure_event_z_swap()` and `measure_sem_z_swap()`. -/
def measureZSwap : SimZSwapPart → SimM B V Unit
  | .prologue => do
    mwindowOpen
    getStartCnt
    let rv ← simZSwapPrologue 0
    tell (.sink (BitVec.ofInt 32 rv))
    mseriesIterate
    mwindowClose
  | .tail => do
    mwindowOpen
    getStartCnt
    let rv ← simZSwapTail 1
    getStopCnt
    tell (.sink (BitVec.ofInt 32 rv))
    mseriesIterate
    mwindowClose

/-! ## 2. `reschedule()` with a swap -/

/-- `sim_reschedule_swap_tail()` of `event_block` and `sem_block`. -/
def simRescheduleSwapTail (key : BitVec 32) : SimM B V Unit := do
  let s ← getMachine
  if key = 0 ∧ s.ipsr = 0 ∧ s.kernel.cache ≠ s.kernel.current then
    tell (.arm .swap)
    let _ ← simZSwapIrqlockTail key
  else
    tell (.arm .noSwap)
    irqUnlock key

def simZRescheduleSwapTail (key : BitVec 32) : SimM B V Unit := simRescheduleSwapTail key

/-! ## 3. The simulated wait -/

structure KEvent where
  events : BitVec 32
  deriving DecidableEq

/-- The static variables; `simPostKey` is one of `event_block` alone. -/
structure EventVars where
  tailEvent : KEvent
  simGuard : BitVec 32
  simWaitRequest : BitVec 32
  simPostKey : BitVec 32
  deriving DecidableEq

def EventVars.initial : EventVars where
  tailEvent := ⟨0⟩
  simGuard := 0x20
  simWaitRequest := 0x1
  simPostKey := 0

def simAreWaitConditionsMet (desired current waitCondition : BitVec 32) : BitVec 32 :=
  let matched := current &&& desired
  if waitCondition = 1 ∧ matched ≠ desired then 0 else matched

open SimThread

/-- `sim_k_event_wait_internal_tail()`; `compensation` is what `event_block`
does at the end of the no-wait arm. -/
def simKEventWaitInternalTail (compensation : SimM B EventVars Unit) (events options : BitVec 32)
    (timeout : KTimeout) : SimM B EventVars (BitVec 32) := do
  let waitCondition := options &&& 1
  if events = 0 then
    tell (.arm .emptyMask)
    pure 0
  else
    let thread ← simCurrentThreadQuery
    let vars ← getVars
    -- the words of the array `data`
    let data0 := vars.simGuard
    let data1 := options
    let data2 := timeout.ticks.setWidth 32
    let rv := simAreWaitConditionsMet events data0 waitCondition
    if rv ≠ 0 then
      tell (.arm .conditionsMet)
      pure rv
    else if data2 = 0 then
      tell (.arm .waitNoWait)
      getStartCnt
      irqUnlock 0
      compensation
      pure rv
    else
      tell (.arm .waitPend)
      modifyThread thread fun t => { t with events := events }
      modifyThread thread fun t => { t with eventOptions := data1 }
      let ret ← simZPendCurrTail data1 data2
      if ret = 0 then
        let t ← getThread thread
        pure t.events
      else
        pure rv

/-- `sim_k_event_wait_internal()`: without an unlock on the arm of met
conditions. -/
def simKEventWaitInternal (L : IrqLock) (event : KEvent) (events options : BitVec 32)
    (timeout : KTimeout) : SimM B V (BitVec 32) := do
  if events = 0 then
    tell (.arm .emptyMask)
    pure 0
  else
    let waitCondition := options &&& 1
    let thread ← simCurrentThreadQuery
    let key ← irqLock L
    let rv := simAreWaitConditionsMet events event.events waitCondition
    if rv ≠ 0 then
      tell (.arm .conditionsMet)
      pure rv
    else if timeout.ticks = 0 then
      tell (.arm .waitNoWait)
      irqUnlock 0
      pure rv
    else
      tell (.arm .waitPend)
      getStartCnt
      modifyThread thread fun t => { t with events := events }
      modifyThread thread fun t => { t with eventOptions := options }
      let ret ← simZPendCurrPrologue L key (some .tailEvent) timeout
      if ret = 0 then
        let t ← getThread thread
        pure t.events
      else
        pure rv

def simZImplKEventWaitSafeTail (compensation : SimM B EventVars Unit) (events : BitVec 32)
    (reset : Bool) (timeout : KTimeout) : SimM B EventVars (BitVec 32) :=
  let options := if reset then 0x06 else 0x04
  simKEventWaitInternalTail compensation events options timeout

def simZImplKEventWaitSafe (L : IrqLock) (event : KEvent) (events : BitVec 32) (reset : Bool)
    (timeout : KTimeout) : SimM B V (BitVec 32) :=
  let options := if reset then 0x06 else 0x04
  simKEventWaitInternal L event events options timeout

def measureWaitTail (compensation : SimM B EventVars Unit) (timeout : KTimeout) :
    SimM B EventVars Unit := do
  mwindowOpen
  let vars ← getVars
  let rv ← simZImplKEventWaitSafeTail compensation vars.simWaitRequest false timeout
  getStopCnt
  tell (.sink rv)
  mseriesIterate
  mwindowClose

def measureWaitPrologue (L : IrqLock) (timeout : KTimeout) : SimM B EventVars Unit := do
  mwindowOpen
  let vars ← getVars
  let rv ← simZImplKEventWaitSafe L vars.tailEvent vars.simWaitRequest false timeout
  tell (.sink rv)
  mseriesIterate
  mwindowClose

inductive SimWaitPart
  | tail
  | prologue
  deriving DecidableEq

/-! ## 4. `event_block` -/

namespace EventBlock

/-- `__asm__ volatile("mov r0, r0")`. -/
def quickCompensation : SimM B EventVars Unit := tell .compensation

def simKEventWaitInternalTail (events options : BitVec 32) (timeout : KTimeout) :
    SimM B EventVars (BitVec 32) :=
  Sim.simKEventWaitInternalTail quickCompensation events options timeout

def simKEventWaitInternal (L : IrqLock) (event : KEvent) (events options : BitVec 32)
    (timeout : KTimeout) : SimM B EventVars (BitVec 32) :=
  Sim.simKEventWaitInternal L event events options timeout

def measureEventZSwapOverhead (part : SimZSwapPart) : Probe B EventVars where
  prepare := do
    simKernelInit
    mseriesInitialize .crossFunctionsFileScopeVars
  iteration := measureZSwap part

def measureWaitOverhead (L : IrqLock) (part : SimWaitPart) : Probe B EventVars where
  prepare := do
    simKernelInit
    mseriesInitialize .insideFunctionFileScopeVars
  iteration :=
    match part with
    | .tail => measureWaitTail quickCompensation kForever
    | .prologue => measureWaitPrologue L kForever

def measureWaitTailNoWaitOverhead : Probe B EventVars where
  prepare := do
    simKernelInit
    mseriesInitialize .insideFunctionFileScopeVars
  iteration := measureWaitTail quickCompensation kNoWait

def simKEventPostInternalSwapTail : SimM B EventVars (BitVec 32) := do
  let vars ← getVars
  let data0 := vars.simGuard
  let data1 : BitVec 32 := 0
  modifyVars fun v => { v with tailEvent := ⟨data0 &&& ~~~data1⟩ }
  simZRescheduleSwapTail vars.simPostKey
  pure data0

def simZImplKEventPostSwapTail : SimM B EventVars (BitVec 32) := simKEventPostInternalSwapTail

def measurePostTail : SimM B EventVars Unit := do
  mwindowOpen
  let rv ← simZImplKEventPostSwapTail
  getStopCnt
  tell (.sink rv)
  mseriesIterate
  mwindowClose

def measurePostTailOverhead : Probe B EventVars where
  prepare := do
    simKernelInit
    mseriesInitialize .insideFunctionFileScopeVars
  iteration := measurePostTail

inductive Call
  | zSwap (part : SimZSwapPart)
  | wait (part : SimWaitPart)
  | waitTailNoWait
  | postTail
  deriving DecidableEq

def image (B : Bmth) (L : IrqLock) : Image B where
  Vars := EventVars
  Call := Call
  vars := .initial
  probe
    | .zSwap part => measureEventZSwapOverhead part
    | .wait part => measureWaitOverhead L part
    | .waitTailNoWait => measureWaitTailNoWaitOverhead
    | .postTail => measurePostTailOverhead

end EventBlock

/-! ## 5. `event_preempt` -/

namespace EventPreempt

def simKEventWaitInternalTail (events options : BitVec 32) (timeout : KTimeout) :
    SimM B EventVars (BitVec 32) :=
  Sim.simKEventWaitInternalTail (pure ()) events options timeout

def simKEventWaitInternal (L : IrqLock) (event : KEvent) (events options : BitVec 32)
    (timeout : KTimeout) : SimM B EventVars (BitVec 32) :=
  Sim.simKEventWaitInternal L event events options timeout

def simKEventPostInternal : SimM B EventVars (BitVec 32) := do
  let vars ← getVars
  let swap : BitVec 32 := 0
  let data0 := vars.simGuard
  let data1 : BitVec 32 := 0
  modifyVars fun v => { v with tailEvent := ⟨data0 &&& ~~~data1⟩ }
  simZRescheduleTail swap
  pure data0

def simZImplKEventPost : SimM B EventVars (BitVec 32) := simKEventPostInternal

def measureEventTail : SimM B EventVars Unit := do
  mwindowOpen
  let rv ← simZImplKEventPost
  getStopCnt
  tell (.sink rv)
  mseriesIterate
  mwindowClose

def measureEventTailOverhead : Probe B EventVars where
  prepare := do
    simKernelInit
    mseriesInitialize .insideFunctionFileScopeVars
  iteration := measureEventTail

def measureEventZSwapOverhead (part : SimZSwapPart) : Probe B EventVars where
  prepare := do
    simKernelInit
    mseriesInitialize (if part = .prologue then .crossFunctionsFileScopeVars
      else .insideFunctionFileScopeVars)
  iteration := measureZSwap part

def measureWaitOverhead (L : IrqLock) (part : SimWaitPart) : Probe B EventVars where
  prepare := do
    simKernelInit
    match part with
    | .tail => mseriesInitialize .insideFunctionFileScopeVars
    | .prologue => mseriesInitialize .crossFunctionsFileScopeVars
  iteration :=
    match part with
    | .tail => measureWaitTail (pure ()) kForever
    | .prologue => measureWaitPrologue L kForever

inductive Call
  | eventTail
  | zSwap (part : SimZSwapPart)
  | wait (part : SimWaitPart)
  deriving DecidableEq

def image (B : Bmth) (L : IrqLock) : Image B where
  Vars := EventVars
  Call := Call
  vars := .initial
  probe
    | .eventTail => measureEventTailOverhead
    | .zSwap part => measureEventZSwapOverhead part
    | .wait part => measureWaitOverhead L part

end EventPreempt

end ZephyrBench.Sim

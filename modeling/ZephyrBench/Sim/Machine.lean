/-
ZephyrBench.Sim.Machine — what the simulation probes run on.

The task switching tests measure halves of kernel call chains on a simulated
kernel: the code of `zephyr_api_simulation/` and of the files `zephyr_sim.c`
writes a `struct z_kernel` and a `struct k_thread` of its own. The machine has
these, the interrupt mask of the processor, the static variables `V` of an image,
and the measurement series that the running probe fills.

The history `log` holds what can be told about a probe from outside, newest
first: the time markers, the branches that were taken, the marks `sim_reached()`
and `sim_unreached()`, and what was stored to a sink, which is what the simulated
function returned. A marker's time is the length of the history, as in the tests.

Statements are functions on machines (`SimM`), so a probe can be evaluated. A
`Probe` is what a function `measure_*()` does before its loop and the body of the
loop; `Image` is a program with its variables and all its probes, and
`Image.after` the state after any list of calls. What the port makes of the mask
in `irq_lock()` is a parameter, of which it is assumed that it is not zero
(`IrqLock`).
-/
import Mathlib.Logic.Function.Iterate
import ZephyrBench.Bmth

namespace ZephyrBench.Sim

/-! ## 1. The state -/

/-- The thread objects that the simulation points to. -/
inductive SimThread
  | simCurrentThread
  | simWaiterThread
  deriving DecidableEq

/-- The wait queues whose addresses are passed on. -/
inductive WaitQ
  | tailEvent
  | tailSem
  deriving DecidableEq

/-- The branches that depend on the state or on a timeout. -/
inductive Arm
  | emptyMask
  | conditionsMet
  | waitNoWait
  | waitPend
  | takeCount
  | takeNoWait
  | takePend
  | giveWaiter
  | giveCount
  | swap
  | noSwap
  deriving DecidableEq

inductive Mark
  | start
  | stop
  | arm (a : Arm)
  | reached
  | unreached
  | sink (value : BitVec 32)
  | compensation
  | nullDereference
  deriving DecidableEq

/-- The fields of a `struct k_thread` that the simulation reads or writes. -/
structure KThread where
  basepri : BitVec 32
  swapReturnValue : Int
  events : BitVec 32
  eventOptions : BitVec 32
  deriving DecidableEq

/-- `_sim_kernel`: `cpus[0].current` and `ready_q.cache`. -/
structure ZKernel where
  current : Option SimThread
  cache : Option SimThread
  deriving DecidableEq

structure KTimeout where
  ticks : BitVec 64
  deriving DecidableEq

def kNoWait : KTimeout := ⟨0⟩

def kForever : KTimeout := ⟨-1⟩

def eagain : Int := 11

def ebusy : Int := 16

/-- The state of a probe. The registers are `BASEPRI` and `IPSR`, which is zero
in thread mode. -/
structure Machine (B : Bmth) (V : Type) where
  basepri : BitVec 32
  ipsr : BitVec 32
  kernel : ZKernel
  thread : SimThread → KThread
  vars : V
  series : B.Series
  simTestStartTime : Nat
  simTestStopTime : Nat
  jitterDetected : Bool
  log : List Mark

/-- How `irq_lock()` raises the interrupt mask. -/
structure IrqLock where
  raise : BitVec 32 → BitVec 32
  raise_ne_zero : ∀ basepri, raise basepri ≠ 0

/-- A statement of a probe, with its value. -/
def SimM (B : Bmth) (V α : Type) : Type := Machine B V → α × Machine B V

variable {B : Bmth} {V α β : Type}

instance : Monad (SimM B V) where
  pure a s := (a, s)
  bind m f s := f (m s).1 (m s).2

@[simp] theorem pure_apply (a : α) (s : Machine B V) : (pure a : SimM B V α) s = (a, s) := rfl

@[simp] theorem bind_apply (m : SimM B V α) (f : α → SimM B V β) (s : Machine B V) :
    (m >>= f) s = f (m s).1 (m s).2 := rfl

@[simp] theorem ite_apply_simM (p : Prop) [Decidable p] (m m' : SimM B V α) (s : Machine B V) :
    (if p then m else m' : SimM B V α) s = if p then m s else m' s := by
  split <;> rfl

/-! ## 2. Registers, variables and markers -/

def getMachine : SimM B V (Machine B V) := fun s => (s, s)

def modifyMachine (f : Machine B V → Machine B V) : SimM B V Unit := fun s => ((), f s)

def getVars : SimM B V V := fun s => (s.vars, s)

def modifyVars (f : V → V) : SimM B V Unit := modifyMachine fun s => { s with vars := f s.vars }

def tell (x : Mark) : SimM B V Unit := modifyMachine fun s => { s with log := x :: s.log }

def getThread (t : SimThread) : SimM B V KThread := fun s => (s.thread t, s)

def modifyThread (t : SimThread) (f : KThread → KThread) : SimM B V Unit :=
  modifyMachine fun s => { s with thread := Function.update s.thread t (f (s.thread t)) }

/-- What a pointer to a thread points to. -/
def deref (p : Option SimThread) (f : SimThread → SimM B V α) (fault : α) : SimM B V α :=
  match p with
  | some t => f t
  | none => do
    tell .nullDereference
    pure fault

def getBASEPRI : SimM B V (BitVec 32) := fun s => (s.basepri, s)

def setBASEPRI (value : BitVec 32) : SimM B V Unit :=
  modifyMachine fun s => { s with basepri := value }

section Lock

variable (L : IrqLock)

def irqLock : SimM B V (BitVec 32) := do
  let key ← getBASEPRI
  setBASEPRI (L.raise key)
  pure key

/-- `k_spin_lock()` on a uniprocessor kernel; the key is `key.key`. -/
def kSpinLock : SimM B V (BitVec 32) := irqLock L

end Lock

def irqUnlock (key : BitVec 32) : SimM B V Unit := setBASEPRI key

def kSpinUnlock (key : BitVec 32) : SimM B V Unit := irqUnlock key

def kSpinRelease : SimM B V Unit := pure ()

/-- `BMTH_GET_START_CNT(sim_test_start_time)`. The time is the length of the
history, as in the tests. -/
def getStartCnt : SimM B V Unit := do
  modifyMachine fun s => { s with simTestStartTime := s.log.length }
  tell .start

/-- `BMTH_GET_STOP_CNT(sim_test_stop_time)`. -/
def getStopCnt : SimM B V Unit := do
  modifyMachine fun s => { s with simTestStopTime := s.log.length }
  tell .stop

def mseriesInitialize (window : ReadWindow) : SimM B V Unit :=
  modifyMachine fun s => { s with series := B.mseriesInitialize window }

def mwindowOpen : SimM B V Unit :=
  modifyMachine fun s => { s with series := B.mwindowOpen s.series }

def mwindowClose : SimM B V Unit :=
  modifyMachine fun s => { s with series := B.mwindowClose s.series }

/-- `if (BMTH_mseries_iterate(..) == ..)` with its branch, which calls
`BMTH_signalize_jitter_detected()`. -/
def mseriesIterate : SimM B V Unit := modifyMachine fun s =>
  let r := B.mseriesIterate s.series s.simTestStartTime s.simTestStopTime
  { s with series := r.1, jitterDetected := s.jitterDetected || r.2 }

/-! ## 3. Probes -/

/-- A function `measure_*()` that runs a probe `loop_count` times: what it does
before its loop, and the body of the loop. -/
structure Probe (B : Bmth) (V : Type) where
  prepare : SimM B V Unit
  iteration : SimM B V Unit

/-- The state in which iteration `i` of a call begins. -/
def Probe.before (p : Probe B V) (s : Machine B V) (i : Nat) : Machine B V :=
  (fun s => (p.iteration s).2)^[i] (p.prepare s).2

/-- A call of the probe with a loop count. -/
def Probe.run (p : Probe B V) (loopCount : BitVec 32) (s : Machine B V) : Machine B V :=
  p.before s loopCount.toNat

/-- A program: its static variables, and the probes it calls. -/
structure Image (B : Bmth) where
  Vars : Type
  Call : Type
  vars : Vars
  probe : Call → Probe B Vars

/-- The static storage at boot, with interrupts unmasked. The series is what
the probe is given. -/
def Image.boot (image : Image B) (series : B.Series) : Machine B image.Vars where
  basepri := 0
  ipsr := 0
  kernel := ⟨none, none⟩
  thread _ := ⟨0, 0, 0, 0⟩
  vars := image.vars
  series
  simTestStartTime := 0
  simTestStopTime := 0
  jitterDetected := false
  log := []

/-- The state after a list of calls, each with its loop count. -/
def Image.after (image : Image B) (series : B.Series) (calls : List (image.Call × BitVec 32)) :
    Machine B image.Vars :=
  calls.foldl (fun s c => (image.probe c.1).run c.2 s) (image.boot series)

def Mark.arm? : Mark → Option Arm
  | .arm a => some a
  | _ => none

/-- What was added to the history between `s` and `t`. -/
def since (s t : Machine B V) : List Mark := t.log.take (t.log.length - s.log.length)

/-- The branches that were taken between `s` and `t`, in this order. -/
def armsSince (s t : Machine B V) : List Arm := ((since s t).filterMap Mark.arm?).reverse

end ZephyrBench.Sim

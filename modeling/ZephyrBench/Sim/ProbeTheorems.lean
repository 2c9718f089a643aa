/-
ZephyrBench.Sim.ProbeTheorems — the probes in any order.

  * `probes_history_independent` — whatever was called before, every iteration of
    a probe shows what its first iteration shows when the probe runs alone: the
    branch it is there to time, a start marker before its stop marker, and one
    value.
  * `probes_unmasked_iff` — every call leaves the interrupts unmasked, and begins
    every iteration with them unmasked, but for the take of `sem_preempt`.
  * `takeTail_masked` — one iteration of that take, from boot.

## How the proofs go

A contract fixes the trace of an iteration, so an iteration after any calls and
one alone have the same one. What a trace has to show is `Timed`: it is a
property of a list of marks and decided by looking at it, probe by probe. The
branches and values that are expected (`Test.arms`, `Test.returns`) are stated
apart from the traces, since the traces have more in them.

The gives of `sem_preempt` are the one exception to independence: without a
waiter they count. That shows in no mark, so the statement says it besides.
-/
import ZephyrBench.Sim.EventTheorems
import ZephyrBench.Sim.SemTheorems

namespace ZephyrBench.Sim

variable {B : Bmth}

/-! ## 1. What an iteration is to show -/

def Mark.sink? : Mark → Option (BitVec 32)
  | .sink value => some value
  | _ => none

def Mark.isMarker (x : Mark) : Bool := x == .start || x == .stop

/-- The history `τ` of an iteration, latest mark first, has the branches `arms`
in this order, stores `value` alone to a sink, takes one stop marker, after its
last start marker, and follows no NULL pointer. -/
structure Timed (arms : List Arm) (value : Option (BitVec 32)) (τ : List Mark) : Prop where
  arms : (τ.filterMap Mark.arm?).reverse = arms
  value : τ.filterMap Mark.sink? = value.toList
  markers : ∃ n, τ.filter Mark.isMarker = .stop :: List.replicate (n + 1) .start
  deref : .nullDereference ∉ τ

/-- What a z_swap probe returns: `-EAGAIN`, or zero. -/
def SimZSwapPart.returns : SimZSwapPart → BitVec 32
  | .prologue => BitVec.ofInt 32 (-eagain)
  | .tail => 0

/-- What the wait returns: the events, or zero. -/
def SimWaitPart.returns : SimWaitPart → BitVec 32
  | .tail => EventVars.initial.simWaitRequest
  | .prologue => 0

def EventBlock.Call.arms : EventBlock.Call → List Arm
  | .zSwap _ => []
  | .wait _ => [.waitPend]
  | .waitTailNoWait => [.waitNoWait]
  | .postTail => [.swap]

def EventBlock.Call.returns : EventBlock.Call → Option (BitVec 32)
  | .zSwap part => some part.returns
  | .wait part => some part.returns
  | .waitTailNoWait => some 0
  | .postTail => some EventVars.initial.simGuard

def EventPreempt.Call.arms : EventPreempt.Call → List Arm
  | .eventTail => [.noSwap]
  | .zSwap _ => []
  | .wait _ => [.waitPend]

def EventPreempt.Call.returns : EventPreempt.Call → Option (BitVec 32)
  | .eventTail => some EventVars.initial.simGuard
  | .zSwap part => some part.returns
  | .wait part => some part.returns

def SemBlock.Call.arms : SemBlock.Call → List Arm
  | .zSwap _ => []
  | .takeTailNoWait => [.takeNoWait]
  | .giveTail => [.swap]

def SemBlock.Call.returns : SemBlock.Call → Option (BitVec 32)
  | .zSwap part => some part.returns
  | .takeTailNoWait => some (BitVec.ofInt 32 (-ebusy))
  | .giveTail => none

def SemPreempt.Call.arms : SemPreempt.Call → List Arm
  | .zSwap _ => []
  | .takeTail => [.takePend]
  | .giveTailNoSwap hasWaiter => if hasWaiter ≠ 0 then [.giveWaiter, .noSwap] else [.giveCount]

def SemPreempt.Call.returns : SemPreempt.Call → Option (BitVec 32)
  | .zSwap part => some part.returns
  | .takeTail => some 0
  | .giveTailNoSwap _ => none

def TaskPreempt.Call.arms : TaskPreempt.Call → List Arm
  | .swapPrologue => []
  | .threadSuspendTail => [.swap]
  | .threadResumeTail => [.noSwap]

def TaskPreempt.Call.returns : TaskPreempt.Call → Option (BitVec 32)
  | .swapPrologue => some (SimZSwapPart.returns .prologue)
  | _ => some 0

/-- The branches that a probe is there to time. -/
def Test.arms (L : IrqLock) : (test : Test) → (test.image B L).Call → List Arm
  | .eventBlock => EventBlock.Call.arms
  | .eventPreempt => EventPreempt.Call.arms
  | .semBlock => SemBlock.Call.arms
  | .semPreempt => SemPreempt.Call.arms
  | .taskPreempt => TaskPreempt.Call.arms

/-- The value that it is to return. -/
def Test.returns (L : IrqLock) : (test : Test) → (test.image B L).Call → Option (BitVec 32)
  | .eventBlock => EventBlock.Call.returns
  | .eventPreempt => EventPreempt.Call.returns
  | .semBlock => SemBlock.Call.returns
  | .semPreempt => SemPreempt.Call.returns
  | .taskPreempt => TaskPreempt.Call.returns

/-- The probes that leave the interrupts masked. -/
def Test.masks (L : IrqLock) : (test : Test) → (test.image B L).Call → Prop
  | .semPreempt => (· = SemPreempt.Call.takeTail)
  | _ => fun _ => False

/-! ## 2. The traces -/

theorem SimZSwapPart.timed (part : SimZSwapPart) : Timed [] (some part.returns) part.trace := by
  cases part with
  | prologue => exact ⟨rfl, rfl, ⟨0, rfl⟩, by decide⟩
  | tail => exact ⟨rfl, rfl, ⟨1, rfl⟩, by decide⟩

theorem SimWaitPart.timed (part : SimWaitPart) :
    Timed [.waitPend] (some part.returns) part.trace := by
  cases part <;> exact ⟨rfl, rfl, ⟨0, rfl⟩, by decide⟩

theorem EventBlock.Call.timed (c : EventBlock.Call) : Timed c.arms c.returns c.trace := by
  cases c with
  | zSwap part => exact part.timed
  | wait part => exact part.timed
  | waitTailNoWait => exact ⟨rfl, rfl, ⟨0, rfl⟩, by decide⟩
  | postTail => exact ⟨rfl, rfl, ⟨0, rfl⟩, by decide⟩

theorem EventPreempt.Call.timed (c : EventPreempt.Call) : Timed c.arms c.returns c.trace := by
  cases c with
  | eventTail => exact ⟨rfl, rfl, ⟨0, rfl⟩, by decide⟩
  | zSwap part => exact part.timed
  | wait part => exact part.timed

theorem SemBlock.Call.timed (c : SemBlock.Call) : Timed c.arms c.returns c.trace := by
  cases c with
  | zSwap part => exact part.timed
  | takeTailNoWait => exact ⟨rfl, rfl, ⟨0, rfl⟩, by decide⟩
  | giveTail => exact ⟨rfl, rfl, ⟨0, rfl⟩, by decide⟩

theorem SemPreempt.Call.timed (c : SemPreempt.Call) : Timed c.arms c.returns c.trace := by
  cases c with
  | zSwap part => exact part.timed
  | takeTail => exact ⟨rfl, rfl, ⟨0, rfl⟩, by decide⟩
  | giveTailNoSwap hasWaiter =>
    by_cases hw : hasWaiter ≠ 0
    · rw [arms, trace, if_pos hw, if_pos hw]
      exact ⟨rfl, rfl, ⟨0, rfl⟩, by decide⟩
    · rw [arms, trace, if_neg hw, if_neg hw]
      exact ⟨rfl, rfl, ⟨0, rfl⟩, by decide⟩

theorem TaskPreempt.Call.timed (c : TaskPreempt.Call) : Timed c.arms c.returns c.trace := by
  cases c with
  | swapPrologue => exact SimZSwapPart.timed .prologue
  | threadSuspendTail => exact ⟨rfl, rfl, ⟨0, rfl⟩, by decide⟩
  | threadResumeTail => exact ⟨rfl, rfl, ⟨0, rfl⟩, by decide⟩

def Test.contract (B : Bmth) (L : IrqLock) : (test : Test) → Contract (test.image B L)
  | .eventBlock => EventBlock.contract B L
  | .eventPreempt => EventPreempt.contract B L
  | .semBlock => SemBlock.contract B L
  | .semPreempt => SemPreempt.contract B L
  | .taskPreempt => TaskPreempt.contract B

theorem Test.timed (L : IrqLock) (test : Test) (c : (test.image B L).Call) :
    Timed (test.arms L c) (test.returns L c) ((test.contract B L).trace c) := by
  cases test
  · exact EventBlock.Call.timed c
  · exact EventPreempt.Call.timed c
  · exact SemBlock.Call.timed c
  · exact SemPreempt.Call.timed c
  · exact TaskPreempt.Call.timed c

theorem Test.masks_contract (L : IrqLock) (test : Test) (c : (test.image B L).Call) :
    (test.contract B L).masks c ↔ test.masks L c := by
  cases test <;> exact Iff.rfl

/-! ## 3. Any order of calls -/

/-- What the first iteration shows of a probe that runs alone. -/
def Test.alone (L : IrqLock) (series : B.Series) (test : Test) (c : (test.image B L).Call) :
    List Mark :=
  since (((test.image B L).probe c).before ((test.image B L).boot series) 0)
    (((test.image B L).probe c).before ((test.image B L).boot series) 1)

/-- After any calls, every iteration of a probe shows what it shows alone: its
branch, its markers and its value. The gives of `sem_preempt` count without a
waiter. With one they do not count, and leave it queued. -/
theorem probes_history_independent (L : IrqLock) (series : B.Series) :
    (∀ (test : Test) (calls : List ((test.image B L).Call × BitVec 32))
      (c : (test.image B L).Call) (i : Nat),
      Timed (test.arms L c) (test.returns L c) (test.alone L series c) ∧
        since (((test.image B L).probe c).before ((test.image B L).after series calls) i)
          (((test.image B L).probe c).before ((test.image B L).after series calls) (i + 1)) =
            test.alone L series c) ∧
    ∀ (calls : List ((SemPreempt.image B L).Call × BitVec 32)) (hasWaiter : BitVec 32) (i : Nat),
      let s := (SemPreempt.measureGiveTailNoSwapOverhead L hasWaiter).before
        ((SemPreempt.image B L).after series calls) i
      s.vars.tailSem.count.toNat = (if hasWaiter = 0 then min i kSemMaxLimit.toNat else 0) ∧
        s.vars.tailSem.waitQ = if hasWaiter ≠ 0 then [.simWaiterThread] else [] := by
  constructor
  · intro test calls c i
    have halone : test.alone L series c = (test.contract B L).trace c :=
      (test.contract B L).since_before ((test.contract B L).boot series) 0
    rw [halone]
    exact ⟨test.timed L c, (test.contract B L).since_before
      ((test.contract B L).static_after series calls) i⟩
  · intro calls hasWaiter i
    have hstatic := (SemPreempt.contract B L).static_after series calls
    exact ⟨SemPreempt.giveTail_count hstatic i, SemPreempt.giveTail_waitQ hstatic i⟩

/-- After any calls, a call that is made with interrupts unmasked begins every
iteration with them unmasked and returns so, if and only if it is not the take
of `sem_preempt` with an iteration to make. -/
theorem probes_unmasked_iff (L : IrqLock) (series : B.Series) (test : Test)
    (calls : List ((test.image B L).Call × BitVec 32)) (c : (test.image B L).Call)
    (n : BitVec 32) :
    let s := { (test.image B L).after series calls with basepri := 0 }
    ((∀ i < n.toNat, (((test.image B L).probe c).before s i).basepri = 0) ∧
      (((test.image B L).probe c).run n s).basepri = 0) ↔ ¬ (test.masks L c ∧ n ≠ 0) := by
  have hstatic := (test.contract B L).unmask _ ((test.contract B L).static_after series calls)
  rw [← test.masks_contract L c]
  exact (test.contract B L).unmasked_iff hstatic rfl n

/-- The default priority of interrupts, as `BASEPRI` has it. -/
def IrqLock.priority : IrqLock where
  raise _ := 0x20
  raise_ne_zero _ := by decide

/-- One iteration of the take of `sem_preempt`, from boot. -/
theorem takeTail_masked :
    ¬ ∀ (test : Test) (c : (test.image Bmth.plain IrqLock.priority).Call) (n : BitVec 32),
      (((test.image Bmth.plain IrqLock.priority).probe c).run n
        ((test.image Bmth.plain IrqLock.priority).boot (false, []))).basepri = 0 := by
  intro h
  have hmasked := h .semPreempt SemPreempt.Call.takeTail 1
  exact absurd hmasked (by decide)

end ZephyrBench.Sim

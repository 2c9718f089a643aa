/-
ZephyrBench.Sim.SemTheorems — the contracts of `sem_block`, `sem_preempt` and
`task_preempt`.

`k_sem_init()` before a series makes the take find an empty semaphore, so what
the gives before it counted does not matter. In `sem_preempt` the give puts the
giver into the ready queue for good, but no other probe of that test reads it;
and its take leaves the interrupts masked, so its contract is the one with a call
in `masks`. `task_preempt` has no variables, and its contract asks nothing of the
state between two calls but the thread mode.

`giveTail_count` and `giveTail_waitQ` say of the give what its trace does not
show: with a waiter no give counts and the waiter is left queued, without one
every give counts, up to the limit.
-/
import ZephyrBench.Sim.Runs

namespace ZephyrBench.Sim

variable {B : Bmth} {L : IrqLock}

open SimThread

/-! ## 1. `sem_block` -/

namespace SemBlock

variable {s : Machine B Vars}

/-- The variables that no probe writes have their initial values. -/
structure Vars.Intact (v : Vars) : Prop where
  takeTicks : v.simTakeTicks = 0
  giveKey : v.simGiveKey = 0

/-- What a probe needs of them: the take finds the semaphore empty. -/
def Call.Needs (c : Call) (v : Vars) : Prop :=
  v.Intact ∧ (c = .takeTailNoWait → v.tailSem.count = 0)

def Call.fresh : Call → Bool
  | .zSwap part => part.fresh
  | _ => true

def Call.trace : Call → List Mark
  | .zSwap part => part.trace
  | .takeTailNoWait => [.sink (BitVec.ofInt 32 (-ebusy)), .stop, .start, .arm .takeNoWait]
  | .giveTail => [.stop, .start, .arm .swap]

def Call.mask : Call → BitVec 32 → BitVec 32
  | .zSwap part => part.mask
  | _ => id

abbrev Ready (c : Call) : Machine B Vars → Prop := Head c.Needs (· = none) c.fresh

theorem measureTakeTail_iterates (h : Ready .takeTailNoWait s) :
    Iterates (Ready .takeTailNoWait) (measureTakeTail L) (Call.trace .takeTailNoWait)
      (Call.mask .takeTailNoWait) s := by
  have hreturns := h.returns rfl
  have hvars := h.vars
  have hcount := h.vars.2 rfl
  have hticks := h.vars.1.takeTicks
  refine h.iterates ?_ ?_ ?_ (fun _ => ?_) ?_ ?_ <;>
    simp [*, measureTakeTail, simZImplKSemTakeTail, kNoWait, Call.trace, Call.mask]

theorem measureGiveTail_iterates (h : Ready .giveTail s) :
    Iterates (Ready .giveTail) measureGiveTail (Call.trace .giveTail) (Call.mask .giveTail) s := by
  have hreturns := h.returns rfl
  have hipsr := h.ipsr
  have hcurrent := h.current
  have hcache := h.cache
  have hvars := h.vars
  have hkey := h.vars.1.giveKey
  refine h.iterates ?_ ?_ ?_ (fun _ => ?_) ?_ ?_ <;>
    simp [*, measureGiveTail, simZImplKSemGiveTail, simZRescheduleSwapTail,
      simRescheduleSwapTail, Call.trace, Call.mask]

theorem iterates (c : Call) (h : Ready c s) :
    Iterates (Ready c) ((image B L).probe c).iteration c.trace c.mask s := by
  cases c with
  | zSwap part => exact measureZSwap_iterates part h
  | takeTailNoWait => exact measureTakeTail_iterates h
  | giveTail => exact measureGiveTail_iterates h

theorem ready_prepare (c : Call) (h : Idle Vars.Intact (· = none) s) :
    Ready c (((image B L).probe c).prepare s).2 := by
  obtain ⟨hipsr, hvars, hcache⟩ := h
  cases c with
  | takeTailNoWait => exact ⟨⟨hipsr, ⟨⟨hvars.1, hvars.2⟩, fun _ => rfl⟩, hcache⟩, rfl, fun _ => rfl⟩
  | _ => exact ⟨⟨hipsr, ⟨hvars, nofun⟩, hcache⟩, rfl, fun _ => rfl⟩

def contract (B : Bmth) (L : IrqLock) : Contract (image B L) where
  Static := Idle Vars.Intact (· = none)
  Ready := Ready
  trace := Call.trace
  mask := Call.mask
  masks _ := False
  boot _ := ⟨rfl, ⟨rfl, rfl⟩, rfl⟩
  unmask _ h := h.unmask
  prepare c _ h := ready_prepare c h
  prepare_basepri c _ := by cases c <;> rfl
  static _ _ h := h.toIdle.mono (fun _ hv => hv.1) fun _ ht => ht
  iteration c _ h := iterates c h
  mask_zero c _ := by
    cases c with
    | zSwap part => exact part.mask_zero
    | _ => rfl
  mask_ne_zero _ h := h.elim

end SemBlock

/-! ## 2. `sem_preempt` -/

namespace SemPreempt

variable {s : Machine B Vars} {hasWaiter : BitVec 32}

/-- The threads that the give finds in the wait queue. -/
def waiters (hasWaiter : BitVec 32) : List SimThread :=
  if hasWaiter ≠ 0 then [simWaiterThread] else []

theorem waiters_of_ne (h : ¬ hasWaiter = 0#32) : waiters hasWaiter = [simWaiterThread] := if_pos h

/-- What a probe needs of the variables. -/
def Call.Needs : Call → Vars → Prop
  | .zSwap _, _ => True
  | .takeTail, v => v.tailSem.count = 0 ∧ v.simTakeTicks = kForever.ticks
  | .giveTailNoSwap hasWaiter, v =>
    v.tailSem.waitQ = waiters hasWaiter ∧ v.tailSem.limit = kSemMaxLimit

/-- What it needs of the ready queue: the give finds the giver there. -/
def Call.NeedsCache : Call → Option SimThread → Prop
  | .giveTailNoSwap _, t => t = some simCurrentThread
  | _, _ => True

def Call.fresh : Call → Bool
  | .zSwap part => part.fresh
  | _ => true

def Call.trace : Call → List Mark
  | .zSwap part => part.trace
  | .takeTail => [.sink 0, .stop, .start, .arm .takePend]
  | .giveTailNoSwap hasWaiter =>
    if hasWaiter ≠ 0 then [.stop, .start, .arm .noSwap, .arm .giveWaiter]
    else [.stop, .start, .arm .giveCount]

def Call.mask (L : IrqLock) : Call → BitVec 32 → BitVec 32
  | .zSwap part => part.mask
  | .takeTail => L.raise
  | .giveTailNoSwap _ => id

abbrev Ready (c : Call) : Machine B Vars → Prop := Head c.Needs c.NeedsCache c.fresh

/-- The take pends and nothing writes the key back. -/
theorem measureTakeTail_iterates (h : Ready .takeTail s) :
    Iterates (Ready .takeTail) (measureTakeTail L) (Call.trace .takeTail)
      (Call.mask L .takeTail) s := by
  have hreturns := h.returns rfl
  have hcurrent := h.current
  have hvars := h.vars
  obtain ⟨hcount, hticks⟩ := h.vars
  refine h.iterates ?_ ?_ ?_ (fun _ => ?_) ?_ ?_ <;>
    simp [*, measureTakeTail, simZImplKSemTakeSwapTail, simZPendCurrSwapTail, kNoWait, kForever,
      Call.trace, Call.mask]

theorem measureGiveTail_iterates (h : Ready (.giveTailNoSwap hasWaiter) s) :
    Iterates (Ready (.giveTailNoSwap hasWaiter)) (measureGiveTail L)
      (Call.trace (.giveTailNoSwap hasWaiter)) (Call.mask L (.giveTailNoSwap hasWaiter)) s := by
  have hreturns := h.returns rfl
  have hcurrent := h.current
  have hcache : s.kernel.cache = some simCurrentThread := h.cache
  have hvars := h.vars
  have hlimit := h.vars.2
  by_cases hw : hasWaiter = 0#32
  · subst hw
    have hwaitQ : s.vars.tailSem.waitQ = [] := h.vars.1
    refine h.iterates ?_ ?_ ⟨?_, ?_⟩ (fun _ => ?_) ?_ ?_ <;>
      simp [*, measureGiveTail, simZImplKSemGiveTail, Call.trace, Call.mask, waiters]
  · have hwaiters := waiters_of_ne hw
    have hwaitQ : s.vars.tailSem.waitQ = [simWaiterThread] := h.vars.1.trans hwaiters
    refine h.iterates ?_ ?_ ⟨?_, ?_⟩ (fun _ => ?_) ?_ ?_ <;>
      simp [*, measureGiveTail, simZImplKSemGiveTail, simZRescheduleNoSwapTail,
        simRescheduleNoSwapTail, Call.trace, Call.mask]

theorem iterates (c : Call) (h : Ready c s) :
    Iterates (Ready c) ((image B L).probe c).iteration c.trace (c.mask L) s := by
  cases c with
  | zSwap part => exact measureZSwap_iterates part h
  | takeTail => exact measureTakeTail_iterates h
  | giveTailNoSwap hasWaiter => exact measureGiveTail_iterates h

theorem ready_prepare (c : Call) (h : s.ipsr = 0) :
    Ready c (((image B L).probe c).prepare s).2 := by
  cases c with
  | zSwap part => exact ⟨⟨h, trivial, trivial⟩, rfl, fun _ => rfl⟩
  | takeTail => exact ⟨⟨h, ⟨rfl, rfl⟩, trivial⟩, rfl, fun _ => rfl⟩
  | giveTailNoSwap hasWaiter =>
    by_cases hw : hasWaiter = 0#32
    · subst hw
      exact ⟨⟨h, ⟨rfl, rfl⟩, rfl⟩, rfl, fun _ => rfl⟩
    · have hwaiters := waiters_of_ne hw
      constructor
      · constructor
        · simpa [image, measureGiveTailNoSwapOverhead, hw] using h
        · constructor <;> simp [image, measureGiveTailNoSwapOverhead, hw, hwaiters, kSemInit]
        · simp [image, measureGiveTailNoSwapOverhead, hw, Call.NeedsCache]
      · simp [image, measureGiveTailNoSwapOverhead, hw]
      · simp [image, measureGiveTailNoSwapOverhead, hw]

theorem basepri_prepare (c : Call) (s : Machine B Vars) :
    (((image B L).probe c).prepare s).2.basepri = s.basepri := by
  cases c with
  | giveTailNoSwap hasWaiter =>
    by_cases hw : hasWaiter = 0#32 <;> simp [image, measureGiveTailNoSwapOverhead, hw]
  | _ => rfl

def contract (B : Bmth) (L : IrqLock) : Contract (image B L) where
  Static s := s.ipsr = 0
  Ready := Ready
  trace := Call.trace
  mask := Call.mask L
  masks c := c = .takeTail
  boot _ := rfl
  unmask _ h := h
  prepare c _ h := ready_prepare c h
  prepare_basepri c s := basepri_prepare c s
  static _ _ h := h.ipsr
  iteration c _ h := iterates c h
  mask_zero c h := by
    cases c with
    | zSwap part => exact part.mask_zero
    | takeTail => exact absurd rfl h
    | giveTailNoSwap hasWaiter => rfl
  mask_ne_zero c h b := by
    subst h
    exact L.raise_ne_zero b

/-- What one give makes of the count. -/
theorem measureGiveTail_count (h : Ready (.giveTailNoSwap hasWaiter) s) :
    (measureGiveTail L s).2.vars.tailSem.count =
      if hasWaiter = 0#32 ∧ s.vars.tailSem.count ≠ kSemMaxLimit then s.vars.tailSem.count + 1
      else s.vars.tailSem.count := by
  have hcurrent := h.current
  have hcache : s.kernel.cache = some simCurrentThread := h.cache
  have hlimit := h.vars.2
  by_cases hw : hasWaiter = 0#32
  · subst hw
    have hwaitQ : s.vars.tailSem.waitQ = [] := h.vars.1
    by_cases hcount : s.vars.tailSem.count = kSemMaxLimit <;>
      simp [*, measureGiveTail, simZImplKSemGiveTail]
  · have hwaitQ : s.vars.tailSem.waitQ = [simWaiterThread] := h.vars.1.trans (waiters_of_ne hw)
    simp [*, measureGiveTail, simZImplKSemGiveTail, simZRescheduleNoSwapTail,
      simRescheduleNoSwapTail]

/-- With a waiter no give counts; without one every give does, up to the
limit. -/
theorem giveTail_count (h : s.ipsr = 0) (i : Nat) :
    ((measureGiveTailNoSwapOverhead L hasWaiter).before s i).vars.tailSem.count.toNat =
      if hasWaiter = 0#32 then min i kSemMaxLimit.toNat else 0 := by
  have hready : ∀ i, Ready (.giveTailNoSwap hasWaiter)
      ((measureGiveTailNoSwapOverhead L hasWaiter).before s i) :=
    fun i => (contract B L).ready_of_static (c := .giveTailNoSwap hasWaiter) h i
  have hmax : kSemMaxLimit.toNat = 2 ^ 32 - 1 := rfl
  induction i with
  | zero =>
    have hzero :
        ((measureGiveTailNoSwapOverhead L hasWaiter).before s 0).vars.tailSem.count = 0#32 := by
      by_cases hw : hasWaiter = 0#32 <;> simp [measureGiveTailNoSwapOverhead, hw, kSemInit]
    rw [hzero]
    simp
  | succ i ih =>
    have hnext := measureGiveTail_count (L := L) (hready i)
    rw [Probe.before_succ]
    change (measureGiveTail L _).2.vars.tailSem.count.toNat = _
    rw [hnext]
    generalize ((measureGiveTailNoSwapOverhead L hasWaiter).before s i).vars.tailSem.count = count
      at ih ⊢
    by_cases hw : hasWaiter = 0#32
    · rw [if_pos hw] at ih ⊢
      by_cases hcount : count = kSemMaxLimit
      · rw [if_neg (fun h => h.2 hcount), ih]
        subst hcount
        omega
      · have hne : count.toNat ≠ 2 ^ 32 - 1 := fun h => hcount (BitVec.eq_of_toNat_eq h)
        have hlt := count.isLt
        rw [if_pos ⟨hw, hcount⟩, BitVec.toNat_add]
        have hone : (1 : BitVec 32).toNat = 1 := rfl
        rw [hone, Nat.mod_eq_of_lt (by omega)]
        omega
    · rw [if_neg hw] at ih ⊢
      rw [if_neg (fun h => hw h.1)]
      exact ih

/-- The waiter is left queued. -/
theorem giveTail_waitQ (h : s.ipsr = 0) (i : Nat) :
    ((measureGiveTailNoSwapOverhead L hasWaiter).before s i).vars.tailSem.waitQ =
      waiters hasWaiter :=
  ((contract B L).ready_of_static (c := .giveTailNoSwap hasWaiter) h i).vars.1

end SemPreempt

/-! ## 3. `task_preempt` -/

namespace TaskPreempt

variable {V : Type} {s : Machine B V}

def Call.fresh : Call → Bool
  | .swapPrologue => false
  | _ => true

def Call.trace : Call → List Mark
  | .swapPrologue => SimZSwapPart.trace .prologue
  | .threadSuspendTail => [.sink 0, .stop, .start, .reached, .arm .swap]
  | .threadResumeTail => [.sink 0, .stop, .start, .reached, .arm .noSwap]

def Call.mask : Call → BitVec 32 → BitVec 32
  | .threadSuspendTail => id
  | _ => fun _ => 0

abbrev Ready (c : Call) : Machine B Unit → Prop := Head (fun _ => True) (fun _ => True) c.fresh

theorem iterates (c : Call) {s : Machine B Unit} (h : Ready c s) :
    Iterates (Ready c) ((image B).probe c).iteration c.trace c.mask s := by
  have hcurrent := h.current
  cases c with
  | swapPrologue => exact measureZSwap_iterates .prologue h
  | threadSuspendTail =>
    have hreturns := h.returns rfl
    refine h.iterates ?_ ?_ trivial (fun _ => ?_) ?_ ?_ <;>
      simp [*, image, measureThreadSuspendTail, measureSuspendTail, simSuspendThreadTail,
        simZImplKThreadSuspendTail, Call.trace, Call.mask]
  | threadResumeTail =>
    have hreturns := h.returns rfl
    refine h.iterates ?_ ?_ trivial (fun _ => ?_) ?_ ?_ <;>
      simp [*, image, measureThreadResumeTail, measureResumeTail, simResumeThreadTail,
        simZImplKThreadResumeTail, Call.trace, Call.mask]

def contract (B : Bmth) : Contract (image B) where
  Static s := s.ipsr = 0
  Ready := Ready
  trace := Call.trace
  mask := Call.mask
  masks _ := False
  boot _ := rfl
  unmask _ h := h
  prepare c _ h := by cases c <;> exact ⟨⟨h, trivial, trivial⟩, rfl, fun _ => rfl⟩
  prepare_basepri c _ := by cases c <;> rfl
  static _ _ h := h.ipsr
  iteration c _ h := iterates c h
  mask_zero c _ := by cases c <;> rfl
  mask_ne_zero _ h := h.elim

end TaskPreempt

end ZephyrBench.Sim

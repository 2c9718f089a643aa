/-
ZephyrBench.Sim.SemRefinement — the simulated semaphore and the documented one.

The takes of `sem_block` and `sem_preempt` and the give of `sem_preempt` have the
bodies of `z_impl_k_sem_take()` and `z_impl_k_sem_give()`, on a semaphore of their
own. `sem_refines`: a thread that makes such calls gets from them what it would
get from the kernel, call by call, up to the first take that pends it; and a take
is said to pend exactly when it goes on as the simulated pend.

## How the proof goes

`Client.simulates` is the induction, for any two components: those that reply
alike to a thread that runs reply alike to all its calls. The relation has two
parts, since a pended thread makes no more calls: `SameState` while it runs,
`SamePend` once it is pended.

Both sides of a call are lemmas of their own. The kernel's calls are rewritten to
what they do to a semaphore without waiters (`SameSem.give`, `SameSem.take`,
`SameSem.busy`, `SameSem.pend`), the simulated takes to their three arms
(`TakeArms`), which both tests have.

## What a reply is

The simulation returns from a take that pends; the kernel does not. So the reply
of a simulated take is not its value: `takeReply` reads off the history whether
the branch of the pend was marked. `pends_iff` ties the mark to the call: a take
is marked so if and only if its result and its machine are those of the simulated
pend.
-/
import ZephyrBench.Calls
import ZephyrBench.Rtos.Call
import ZephyrBench.Sim.ProbeTheorems

namespace ZephyrBench.Sim

open Rtos SimThread

/-! ## 1. A thread that makes calls -/

/-- What a call is to its thread: it returns zero, or `-EBUSY`, or it pends. -/
inductive Reply
  | zero
  | busy
  | pends
  deriving DecidableEq

/-- A thread and what it works on. A pended thread makes no calls. -/
structure Client (σ : Type) where
  state : σ
  pended : Bool

variable {σ τ ι : Type}

/-- The next call of a thread. -/
def Client.next (exec : σ → ι → Reply × σ) (c : Client σ) (i : ι) : Reply × Client σ :=
  if c.pended then (.pends, c)
  else
    let r := exec c.state i
    (r.1, ⟨r.2, r.1 = .pends⟩)

/-- Both threads run, in states that `R` relates, or both are pended, in states
that `P` relates. -/
def Client.Related (R P : σ → τ → Prop) (c : Client σ) (d : Client τ) : Prop :=
  c.pended = d.pended ∧ if c.pended then P c.state d.state else R c.state d.state

/-- A call of a thread that runs, with one reply on both sides: it leaves states
that `R` relates, or `P` if it pends the thread. -/
def Alike (R P : σ → τ → Prop) (r : Reply × σ) (r' : Reply × τ) : Prop :=
  r.1 = r'.1 ∧ if r.1 = .pends then P r.2 r'.2 else R r.2 r'.2

/-- Two components that reply alike to a thread that runs reply alike to all
its calls. -/
theorem Client.simulates {exec : σ → ι → Reply × σ} {exec' : τ → ι → Reply × τ}
    {R P : σ → τ → Prop} (step : ∀ s t i, R s t → Alike R P (exec s i) (exec' t i)) {s : σ} {t : τ}
    (h : R s t) (is : List ι) :
    let r := answers (Client.next exec) ⟨s, false⟩ is
    let r' := answers (Client.next exec') ⟨t, false⟩ is
    r.1 = r'.1 ∧ Client.Related R P r.2 r'.2 := by
  have hfirst : Client.Related R P ⟨s, false⟩ ⟨t, false⟩ := ⟨rfl, h⟩
  refine answers_simulates (R := Client.Related R P) ?_ hfirst is
  rintro ⟨s, p⟩ ⟨t, p'⟩ i ⟨hp, hrel⟩
  cases hp
  cases p with
  | true => exact ⟨rfl, rfl, hrel⟩
  | false =>
    obtain ⟨hreply, hnext⟩ := step s t i hrel
    refine ⟨hreply, ?_, ?_⟩
    · simp [Client.next, hreply]
    · by_cases hpends : (exec s i).1 = .pends
      · rw [if_pos hpends] at hnext
        simpa [Client.next, hpends] using hnext
      · rw [if_neg hpends] at hnext
        simpa [Client.next, hpends] using hnext

/-! ## 2. Calls with a semaphore -/

/-- A call of a thread with a semaphore. -/
inductive SemCall
  | give
  | take (timeout : Timeout)
  deriving DecidableEq

/-- The timeout as the simulated take gets it. -/
def simTimeout : Timeout → KTimeout
  | .noWait => kNoWait
  | .forever => kForever

variable {B : Bmth} {V : Type}

/-- What a simulated take is to its thread. -/
def takeReply (s : Machine B V) (r : Int × Machine B V) : Reply :=
  if .takePend ∈ armsSince s r.2 then .pends else if r.1 = 0 then .zero else .busy

/-- The machine on which a take calls the pend: it holds the lock and has marked
the branch. -/
def Machine.pending (L : IrqLock) (s : Machine B V) : Machine B V :=
  { s with basepri := L.raise s.basepri, log := .arm .takePend :: s.log }

/-- The calls of `sem_preempt`. -/
def SemPreempt.semCall (L : IrqLock) (s : Machine B SemPreempt.Vars) :
    SemCall → Reply × Machine B SemPreempt.Vars
  | .give => (.zero, (SemPreempt.simZImplKSemGiveTail L s).2)
  | .take timeout =>
    let r := SemPreempt.simZImplKSemTakeSwapTail L (simTimeout timeout) s
    (takeReply s r, r.2)

/-- The takes of `sem_block`. -/
def SemBlock.takeCall (L : IrqLock) (s : Machine B SemBlock.Vars) (timeout : Timeout) :
    Reply × Machine B SemBlock.Vars :=
  let r := SemBlock.simZImplKSemTakeTail L (simTimeout timeout) s
  (takeReply s r, r.2)

section Kernel

variable {T O A : Type} [DecidableEq T] [DecidableEq O] (me : T) (o : O)

/-- The count of a semaphore. -/
def semCount : Obj T A → Nat
  | .sem count _ => count
  | _ => 0

/-- The calls of the thread `me` with the kernel's semaphore `o`. A take returns
zero if it counted down. -/
def kernelCall (k : Kernel T O A) : SemCall → Reply × Kernel T O A
  | .give => (.zero, k.semGive o)
  | .take timeout =>
    let k' := k.semTake me o timeout
    match k'.pend me with
    | .no => (if semCount (k'.obj o) < semCount (k.obj o) then .zero else .busy, k')
    | _ => (.pends, k')

/-- The simulated semaphore `sem` is the kernel's semaphore `o`, for which
nobody waits. -/
structure SameSem (sem : KSem) (k : Kernel T O A) : Prop where
  obj : k.obj o = .sem sem.count.toNat sem.limit.toNat
  bound : sem.count.toNat ≤ sem.limit.toNat
  nobody : sem.waitQ = [] ∧ k.waitq o = []
  runs : k.pend me = .no

/-- The same, with the interrupt mask of the machine `b`. -/
structure SameState (sem : V → KSem) (b : BitVec 32) (s : Machine B V) (k : Kernel T O A) :
    Prop extends SameSem me o (sem s.vars) k where
  basepri : s.basepri = b

/-- `me` waits for the empty semaphore. The simulation does not queue it. -/
structure SamePend (sem : V → KSem) (s : Machine B V) (k : Kernel T O A) : Prop where
  empty : (sem s.vars).count = 0 ∧ semCount (k.obj o) = 0
  waits : k.pend me = .on o ∧ k.waitq o = [me]

end Kernel

/-! ## 3. The kernel's calls -/

/-- The semaphore after a give that finds no waiter. -/
def KSem.counted (sem : KSem) : KSem :=
  { sem with count := sem.count + if sem.count ≠ sem.limit then 1 else 0 }

/-- The semaphore after a take that finds a count. -/
def KSem.taken (sem : KSem) : KSem := { sem with count := sem.count - 1 }

section Kernel

variable {T O A : Type} [DecidableEq T] [DecidableEq O] {me : T} {o : O}
  {sem : KSem} {k : Kernel T O A}

/-- The count does not wrap around at its limit. -/
theorem KSem.counted_toNat (h : sem.count.toNat ≤ sem.limit.toNat) :
    sem.counted.count.toNat =
      if sem.count.toNat = sem.limit.toNat then sem.count.toNat else sem.count.toNat + 1 := by
  have hlimit := sem.limit.isLt
  unfold KSem.counted
  by_cases heq : sem.count = sem.limit
  · simp [heq]
  · have hne : sem.count.toNat ≠ sem.limit.toNat := fun h => heq (BitVec.eq_of_toNat_eq h)
    rw [if_neg hne, if_pos heq, BitVec.toNat_add]
    exact Nat.mod_eq_of_lt (by simp; omega)

theorem KSem.taken_toNat (h : sem.count ≠ 0) : sem.taken.count.toNat = sem.count.toNat - 1 := by
  have hpos : sem.count.toNat ≠ 0 := fun h0 => h (BitVec.eq_of_toNat_eq h0)
  have hlt := sem.count.isLt
  have hone : (1 : BitVec 32).toNat = 1 := rfl
  unfold KSem.taken
  rw [BitVec.toNat_sub, hone]
  omega

theorem SameSem.give (h : SameSem me o sem k) : SameSem me o sem.counted (k.semGive o) := by
  obtain ⟨hobj, hbound, ⟨hwaiters, hqueue⟩, hruns⟩ := h
  have hcount := KSem.counted_toNat hbound
  have hgive : k.semGive o = k.setObj o (.sem sem.counted.count.toNat sem.limit.toNat) := by
    unfold Kernel.semGive
    rw [hobj, hqueue, hcount]
  have hlimit : sem.counted.limit = sem.limit := rfl
  rw [hgive]
  refine ⟨Function.update_self .., ?_, ⟨hwaiters, hqueue⟩, hruns⟩
  rw [hcount, hlimit]
  split <;> omega

theorem SameSem.take (h : SameSem me o sem k) (hcount : sem.count ≠ 0) (timeout : Timeout) :
    SameSem me o sem.taken (k.semTake me o timeout) ∧
      kernelCall me o k (.take timeout) = (.zero, k.semTake me o timeout) := by
  obtain ⟨hobj, hbound, hnobody, hruns⟩ := h
  have htaken := KSem.taken_toNat hcount
  have hpos : 0 < sem.count.toNat :=
    Nat.pos_of_ne_zero fun h0 => hcount (BitVec.eq_of_toNat_eq h0)
  have htake : k.semTake me o timeout =
      k.setObj o (.sem sem.taken.count.toNat sem.limit.toNat) := by
    unfold Kernel.semTake
    rw [hobj, htaken]
    exact if_pos hpos
  refine ⟨?_, ?_⟩
  · rw [htake]
    refine ⟨Function.update_self .., ?_, hnobody, hruns⟩
    have hlimit : sem.taken.limit = sem.limit := rfl
    rw [htaken, hlimit]
    omega
  · have hlt : sem.count.toNat - 1 < sem.count.toNat := by omega
    simp [kernelCall, htake, Kernel.setObj, hruns, hobj, semCount, htaken, hlt]

theorem SameSem.busy (h : SameSem me o sem k) (hcount : sem.count = 0) :
    k.semTake me o .noWait = k ∧ kernelCall me o k (.take .noWait) = (.busy, k) := by
  have hobj := h.obj
  have hruns := h.runs
  have htake : k.semTake me o .noWait = k := by
    unfold Kernel.semTake
    rw [hobj, hcount]
    rfl
  exact ⟨htake, by simp [kernelCall, htake, hruns]⟩

theorem SameSem.pend (h : SameSem me o sem k) (hcount : sem.count = 0) :
    kernelCall me o k (.take .forever) = (.pends, k.pendOn me o) ∧
      semCount ((k.pendOn me o).obj o) = 0 ∧ (k.pendOn me o).pend me = .on o ∧
        (k.pendOn me o).waitq o = [me] := by
  have hobj := h.obj
  have hqueue := h.nobody.2
  have htake : k.semTake me o .forever = k.pendOn me o := by
    unfold Kernel.semTake
    rw [hobj, hcount]
    rfl
  have hpend : (k.pendOn me o).pend me = .on o := Function.update_self ..
  refine ⟨?_, ?_, hpend, ?_⟩
  · simp [kernelCall, htake, hpend]
  · show semCount (k.obj o) = 0
    rw [hobj, hcount]
    rfl
  · show Function.update k.waitq o (insertPrio k.prio me (k.waitq o)) o = [me]
    rw [Function.update_self, hqueue]
    rfl

end Kernel

/-! ## 4. The simulated calls -/

/-- What the takes of a simulation do to the semaphore `sem`: the three arms of
`z_impl_k_sem_take()`. -/
structure TakeArms (sem : V → KSem) (s : Machine B V) (take : Timeout → Reply × Machine B V) :
    Prop where
  count : ¬(sem s.vars).count = 0#32 → ∀ timeout, (take timeout).1 = .zero ∧
    sem (take timeout).2.vars = (sem s.vars).taken ∧ (take timeout).2.basepri = s.basepri
  noWait : (sem s.vars).count = 0#32 → (take .noWait).1 = .busy ∧
    sem (take .noWait).2.vars = sem s.vars ∧ (take .noWait).2.basepri = s.basepri
  pend : (sem s.vars).count = 0#32 → (take .forever).1 = .pends ∧
    sem (take .forever).2.vars = sem s.vars

section Arms

variable {L : IrqLock}

/-- The reply of a take is read off the marks it left. -/
theorem takeReply_of_log {s : Machine B V} {r : Int × Machine B V} {τ : List Mark}
    (h : r.2.log = τ ++ s.log) : takeReply s r =
      if .takePend ∈ τ.filterMap Mark.arm? then .pends else if r.1 = 0 then .zero else .busy := by
  unfold takeReply
  simp only [armsSince_eq h, List.mem_reverse]

theorem SemPreempt.semGive_eq {s : Machine B SemPreempt.Vars} (h : s.vars.tailSem.waitQ = []) :
    let t := (SemPreempt.simZImplKSemGiveTail L s).2
    t.vars.tailSem = s.vars.tailSem.counted ∧ t.basepri = s.basepri := by
  simp [SemPreempt.simZImplKSemGiveTail, h, KSem.counted]

attribute [local simp] SemPreempt.simZImplKSemTakeSwapTail SemPreempt.simZPendCurrSwapTail
  SemBlock.simZImplKSemTakeTail kNoWait kForever simTimeout ebusy

/-- Whatever is added to the history after the mark of the pend, the reply is
that the take pends. -/
theorem takeReply_of_pend {s : Machine B V} {r : Int × Machine B V} (τ : List Mark)
    (h : r.2.log = τ ++ .arm .takePend :: s.log) : takeReply s r = .pends := by
  have hlog : r.2.log = (τ ++ [.arm .takePend]) ++ s.log := by
    rw [h, List.append_assoc, List.singleton_append]
  rw [takeReply_of_log hlog, List.filterMap_append]
  exact if_pos (List.mem_append_right _ List.mem_cons_self)

/-- A take that goes on as the simulated pend. -/
theorem SemPreempt.takeReply_pend (s : Machine B SemPreempt.Vars) (timeout : KTimeout) :
    takeReply s (SemPreempt.simZPendCurrSwapTail s.basepri (some .tailSem) timeout (s.pending L)) =
      .pends := by
  cases hcurrent : s.kernel.current with
  | none => exact takeReply_of_pend [.nullDereference, .start] (by simp [Machine.pending, hcurrent])
  | some t => exact takeReply_of_pend [.start] (by simp [Machine.pending, hcurrent])

/-- Without a timeout the pend takes a branch marked as unreached. -/
theorem SemBlock.takeReply_pend (s : Machine B SemBlock.Vars) (timeout : Timeout) :
    takeReply s (simZPendCurrPrologue L s.basepri (some .tailSem) (simTimeout timeout)
      (s.pending L)) = .pends := by
  have hmarks : ∃ τ, (simZPendCurrPrologue L s.basepri (some .tailSem) (simTimeout timeout)
      (s.pending L)).2.log = τ ++ .arm .takePend :: s.log := by
    cases hcurrent : s.kernel.current with
    | none =>
      cases timeout with
      | noWait =>
        exact ⟨[.nullDereference, .stop, .nullDereference, .nullDereference, .unreached],
          by simp [Machine.pending, hcurrent]⟩
      | forever =>
        exact ⟨[.nullDereference, .stop, .nullDereference, .nullDereference],
          by simp [Machine.pending, hcurrent]⟩
    | some t =>
      cases timeout with
      | noWait => exact ⟨[.stop, .unreached], by simp [Machine.pending, hcurrent]⟩
      | forever => exact ⟨[.stop], by simp [Machine.pending, hcurrent]⟩
  obtain ⟨τ, hlog⟩ := hmarks
  exact takeReply_of_pend τ hlog

theorem SemPreempt.takeArms (s : Machine B SemPreempt.Vars) :
    TakeArms SemPreempt.Vars.tailSem s fun timeout => SemPreempt.semCall L s (.take timeout) := by
  refine ⟨fun hcount timeout => ⟨?_, ?_, ?_⟩, fun hcount => ⟨?_, ?_, ?_⟩, fun hcount => ⟨?_, ?_⟩⟩
  · refine (takeReply_of_log (τ := [.arm .takeCount]) ?_).trans ?_ <;> simp [hcount, Mark.arm?]
  · simp [SemPreempt.semCall, hcount, KSem.taken]
  · simp [SemPreempt.semCall, hcount]
  · refine (takeReply_of_log (τ := [.arm .takeNoWait]) ?_).trans ?_ <;> simp [hcount, Mark.arm?]
  · simp [SemPreempt.semCall, hcount]
  · simp [SemPreempt.semCall, hcount]
  · have hpend : SemPreempt.simZImplKSemTakeSwapTail L kForever s =
        SemPreempt.simZPendCurrSwapTail s.basepri (some .tailSem) kForever (s.pending L) := by
      simp [hcount, Machine.pending]
    exact (congrArg (takeReply s) hpend).trans (SemPreempt.takeReply_pend s kForever)
  · cases hcurrent : s.kernel.current <;> simp [SemPreempt.semCall, hcount, hcurrent]

theorem SemBlock.takeArms (s : Machine B SemBlock.Vars) :
    TakeArms SemBlock.Vars.tailSem s (SemBlock.takeCall L s) := by
  refine ⟨fun hcount timeout => ⟨?_, ?_, ?_⟩, fun hcount => ⟨?_, ?_, ?_⟩, fun hcount => ⟨?_, ?_⟩⟩
  · refine (takeReply_of_log (τ := [.arm .takeCount]) ?_).trans ?_ <;> simp [hcount, Mark.arm?]
  · simp [SemBlock.takeCall, hcount, KSem.taken]
  · simp [SemBlock.takeCall, hcount]
  · refine (takeReply_of_log (τ := [.start, .arm .takeNoWait]) ?_).trans ?_ <;>
      simp [hcount, Mark.arm?]
  · simp [SemBlock.takeCall, hcount]
  · simp [SemBlock.takeCall, hcount]
  · have hpend : SemBlock.simZImplKSemTakeTail L kForever s =
        simZPendCurrPrologue L s.basepri (some .tailSem) kForever (s.pending L) := by
      simp [hcount, Machine.pending]
    exact (congrArg (takeReply s) hpend).trans (SemBlock.takeReply_pend s .forever)
  · cases hcurrent : s.kernel.current <;> simp [SemBlock.takeCall, hcount, hcurrent]

/-- A take that pends has found no count, and waits. -/
theorem TakeArms.of_pends {sem : V → KSem} {s : Machine B V}
    {take : Timeout → Reply × Machine B V} (ha : TakeArms sem s take) {timeout : Timeout}
    (h : (take timeout).1 = .pends) : (sem s.vars).count = 0#32 ∧ timeout = .forever := by
  by_cases hcount : (sem s.vars).count = 0#32
  · cases timeout with
    | noWait => exact absurd ((ha.noWait hcount).1.symm.trans h) (by decide)
    | forever => exact ⟨hcount, rfl⟩
  · exact absurd ((ha.count hcount timeout).1.symm.trans h) (by decide)

/-- The reply is that the take pends if and only if the take goes on as the
simulated pend, whose result and machine are then its own. -/
theorem SemPreempt.pends_iff (s : Machine B SemPreempt.Vars) (timeout : Timeout) :
    (SemPreempt.semCall L s (.take timeout)).1 = .pends ↔
      SemPreempt.simZImplKSemTakeSwapTail L (simTimeout timeout) s =
        SemPreempt.simZPendCurrSwapTail s.basepri (some .tailSem) (simTimeout timeout)
          (s.pending L) := by
  constructor
  · intro h
    obtain ⟨hcount, rfl⟩ := (SemPreempt.takeArms s).of_pends h
    simp [hcount, Machine.pending]
  · intro h
    exact (congrArg (takeReply s) h).trans (SemPreempt.takeReply_pend s _)

theorem SemBlock.pends_iff (s : Machine B SemBlock.Vars) (timeout : Timeout) :
    (SemBlock.takeCall L s timeout).1 = .pends ↔
      SemBlock.simZImplKSemTakeTail L (simTimeout timeout) s =
        simZPendCurrPrologue L s.basepri (some .tailSem) (simTimeout timeout) (s.pending L) := by
  constructor
  · intro h
    obtain ⟨hcount, rfl⟩ := (SemBlock.takeArms s).of_pends h
    simp [hcount, Machine.pending]
  · intro h
    exact (congrArg (takeReply s) h).trans (SemBlock.takeReply_pend s timeout)

end Arms

/-! ## 5. Runs -/

section Runs

variable {T O A : Type} [DecidableEq T] [DecidableEq O] {me : T} {o : O} {b : BitVec 32}
  {k : Kernel T O A} {L : IrqLock}

theorem TakeArms.refines {sem : V → KSem} {s : Machine B V}
    {take : Timeout → Reply × Machine B V} (ha : TakeArms sem s take)
    (h : SameState me o sem b s k) (timeout : Timeout) :
    Alike (SameState me o sem b) (SamePend me o sem) (take timeout)
      (kernelCall me o k (.take timeout)) := by
  by_cases hcount : (sem s.vars).count = 0#32
  · cases timeout with
    | noWait =>
      obtain ⟨hreply, hsem, hbasepri⟩ := ha.noWait hcount
      obtain ⟨-, hcall⟩ := h.toSameSem.busy hcount
      rw [Alike, hreply, hcall]
      refine ⟨rfl, ?_⟩
      rw [if_neg (by decide)]
      exact ⟨hsem.symm ▸ h.toSameSem, hbasepri.trans h.basepri⟩
    | forever =>
      obtain ⟨hreply, hsem⟩ := ha.pend hcount
      obtain ⟨hcall, hzero, hwaits, hqueue⟩ := h.toSameSem.pend hcount
      rw [Alike, hreply, hcall]
      refine ⟨rfl, ?_⟩
      rw [if_pos rfl]
      exact ⟨⟨hsem.symm ▸ hcount, hzero⟩, hwaits, hqueue⟩
  · obtain ⟨hreply, hsem, hbasepri⟩ := ha.count hcount timeout
    obtain ⟨hsame, hcall⟩ := h.toSameSem.take hcount timeout
    rw [Alike, hreply, hcall]
    refine ⟨rfl, ?_⟩
    rw [if_neg (by decide)]
    exact ⟨hsem.symm ▸ hsame, hbasepri.trans h.basepri⟩

theorem SemPreempt.semCall_refines {s : Machine B SemPreempt.Vars}
    (h : SameState me o SemPreempt.Vars.tailSem b s k) (call : SemCall) :
    Alike (SameState me o SemPreempt.Vars.tailSem b) (SamePend me o SemPreempt.Vars.tailSem)
      (SemPreempt.semCall L s call) (kernelCall me o k call) := by
  cases call with
  | give =>
    obtain ⟨hsem, hbasepri⟩ := SemPreempt.semGive_eq (L := L) h.nobody.1
    exact ⟨rfl, hsem.symm ▸ h.toSameSem.give, hbasepri.trans h.basepri⟩
  | take timeout => exact (SemPreempt.takeArms s).refines h timeout

/-- From states that agree, a thread that makes any gives and takes gets the
same replies from the semaphore of `sem_preempt` and from the kernel's, and any
takes of `sem_block` get them too. As long as it runs, the counts are equal and
the interrupt mask is as it was; when it pends, the semaphores are empty. A
take pends exactly when it goes on as the simulated pend, from the machine that
has taken the lock. -/
theorem sem_refines {s : Machine B SemPreempt.Vars} {s' : Machine B SemBlock.Vars}
    (h : SameState me o SemPreempt.Vars.tailSem b s k)
    (h' : SameState me o SemBlock.Vars.tailSem b s' k) :
    (∀ calls : List SemCall,
      let r := answers (Client.next (SemPreempt.semCall L)) ⟨s, false⟩ calls
      let r' := answers (Client.next (kernelCall me o)) ⟨k, false⟩ calls
      r.1 = r'.1 ∧ Client.Related (SameState me o SemPreempt.Vars.tailSem b)
        (SamePend me o SemPreempt.Vars.tailSem) r.2 r'.2) ∧
    (∀ timeouts : List Timeout,
      let r := answers (Client.next (SemBlock.takeCall L)) ⟨s', false⟩ timeouts
      let r' := answers (Client.next fun k timeout => kernelCall me o k (.take timeout))
        ⟨k, false⟩ timeouts
      r.1 = r'.1 ∧ Client.Related (SameState me o SemBlock.Vars.tailSem b)
        (SamePend me o SemBlock.Vars.tailSem) r.2 r'.2) ∧
    (∀ (s : Machine B SemPreempt.Vars) (timeout : Timeout),
      (SemPreempt.semCall L s (.take timeout)).1 = .pends ↔
        SemPreempt.simZImplKSemTakeSwapTail L (simTimeout timeout) s =
          SemPreempt.simZPendCurrSwapTail s.basepri (some .tailSem) (simTimeout timeout)
            (s.pending L)) ∧
    ∀ (s : Machine B SemBlock.Vars) (timeout : Timeout),
      (SemBlock.takeCall L s timeout).1 = .pends ↔
        SemBlock.simZImplKSemTakeTail L (simTimeout timeout) s =
          simZPendCurrPrologue L s.basepri (some .tailSem) (simTimeout timeout)
            (s.pending L) := by
  refine ⟨?_, ?_, SemPreempt.pends_iff, SemBlock.pends_iff⟩
  · intro calls
    refine Client.simulates ?_ h calls
    exact fun _ _ call hs => SemPreempt.semCall_refines hs call
  · intro timeouts
    refine Client.simulates ?_ h' timeouts
    exact fun s _ timeout hs => (SemBlock.takeArms s).refines hs timeout

end Runs

/-- The kernel with a new semaphore, whose only thread runs. -/
def semKernel : Kernel Unit Unit Empty :=
  (Kernel.boot () 0 ⟨fun _ => none, fun _ => .none, nofun, nofun, 0⟩).semInit () 0
    Kernel.semMaxLimit

/-- A give, three takes and another give, from a new semaphore. -/
theorem sem_refines_new :
    (answers (Client.next (kernelCall () ())) ⟨semKernel, false⟩
      [.give, .take .noWait, .take .noWait, .take .forever, .give]).1 =
        [.zero, .zero, .busy, .pends, .pends] := by
  have h : SameState () () SemPreempt.Vars.tailSem 0
      { (SemPreempt.image Bmth.plain IrqLock.priority).boot (false, []) with
        vars := ⟨kSemInit 0 kSemMaxLimit, 0⟩ } semKernel :=
    ⟨⟨rfl, by decide, ⟨rfl, rfl⟩, rfl⟩, rfl⟩
  have h' : SameState () () SemBlock.Vars.tailSem 0
      { (SemBlock.image Bmth.plain IrqLock.priority).boot (false, []) with
        vars := ⟨kSemInit 0 kSemMaxLimit, 0, 0⟩ } semKernel :=
    ⟨⟨rfl, by decide, ⟨rfl, rfl⟩, rfl⟩, rfl⟩
  have hcalls := ((sem_refines (L := IrqLock.priority) h h').1
    [.give, .take .noWait, .take .noWait, .take .forever, .give]).1
  rw [← hcalls]
  decide

end ZephyrBench.Sim

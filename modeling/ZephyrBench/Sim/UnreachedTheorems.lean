/-
ZephyrBench.Sim.UnreachedTheorems — the branches marked as unreached.

`probes_unreached_iff`: a run of probes takes no branch that is marked as
unreached if and only if it makes no call of `measure_wait_overhead()` for the
tail that iterates.

`sim_unreached()` and `sim_unreached_int()` stand in the branches that no probe is
to take. An iteration takes as many of them as its trace has marks, so it is
enough to look at the traces (`Test.unreached_iff`); the marks of a run are those
of its calls, each as often as it iterates (`count_before`, `count_after`).

The tail of the wait is a call with such marks: the prologue hands
`sim_pend_locked()` the wait queue and the timeout it was given, the tail hands it
NULL and `K_NO_WAIT`. `waitTail_unreached` is one iteration of it, from boot.
-/
import Mathlib.Algebra.Ring.Nat
import ZephyrBench.Sim.ProbeTheorems

namespace ZephyrBench.Sim

variable {B : Bmth}

/-! ## 1. Marks along a run -/

namespace Contract

variable {image : Image B} (C : Contract image) {s : Machine B image.Vars} {c : image.Call}
  {x : Mark}

/-- Iteration by iteration, a call adds the marks of its trace to the history. -/
theorem count_before (h : C.Static s) (hprepare : ((image.probe c).prepare s).2.log = s.log)
    (i : Nat) :
    ((image.probe c).before s i).log.count x = s.log.count x + i * (C.trace c).count x := by
  induction i with
  | zero => rw [Probe.before_zero, hprepare, Nat.zero_mul, Nat.add_zero]
  | succ i ih =>
    have hlog := (C.iteration c _ (C.ready_of_static h i)).log
    rw [Probe.before_succ, hlog, List.count_append, ih, Nat.succ_mul]
    omega

/-- And so do any calls, each as often as it iterates. -/
theorem count_after (hprepare : ∀ c s, ((image.probe c).prepare s).2.log = s.log)
    (series : B.Series) (calls : List (image.Call × BitVec 32)) :
    (image.after series calls).log.count x =
      (calls.map fun call => call.2.toNat * (C.trace call.1).count x).sum := by
  have hfold : ∀ s, C.Static s →
      (calls.foldl (fun s c => (image.probe c.1).run c.2 s) s).log.count x =
        s.log.count x + (calls.map fun call => call.2.toNat * (C.trace call.1).count x).sum := by
    induction calls with
    | nil => intro s _; rfl
    | cons call calls ih =>
      intro s hs
      have hcall := C.count_before hs (x := x) (hprepare call.1 s) call.2.toNat
      rw [List.foldl_cons, ih _ (C.static_run hs call.2), Probe.run, hcall, List.map_cons,
        List.sum_cons]
      omega
  rw [Image.after, hfold _ (C.boot series)]
  show ([] : List Mark).count x + _ = _
  rw [List.count_nil, Nat.zero_add]

/-- A mark is absent from a run if and only if no call that iterates has it in
its trace. -/
theorem not_mem_after_iff (hprepare : ∀ c s, ((image.probe c).prepare s).2.log = s.log)
    (series : B.Series) (calls : List (image.Call × BitVec 32)) :
    x ∉ (image.after series calls).log ↔
      ∀ call ∈ calls, ¬ (x ∈ C.trace call.1 ∧ call.2 ≠ 0) := by
  rw [← List.count_eq_zero, C.count_after hprepare, List.sum_eq_zero_iff_forall_eq_nat]
  have hzero : ∀ call : image.Call × BitVec 32,
      call.2.toNat * (C.trace call.1).count x = 0 ↔ ¬ (x ∈ C.trace call.1 ∧ call.2 ≠ 0) := by
    intro call
    have hloop : call.2.toNat = 0 ↔ call.2 = 0 :=
      ⟨fun h => BitVec.eq_of_toNat_eq h, fun h => by rw [h]; rfl⟩
    rw [Nat.mul_eq_zero, List.count_eq_zero, hloop, not_and_or, not_not, or_comm]
  constructor
  · intro h call hcall
    exact (hzero call).mp (h _ (List.mem_map_of_mem hcall))
  · intro h n hn
    obtain ⟨call, hcall, rfl⟩ := List.mem_map.mp hn
    exact (hzero call).mpr (h call hcall)

end Contract

/-! ## 2. The calls that pass placeholders -/

/-- `measure_wait_overhead()` with the selector of its tail. -/
def Test.placeholders (L : IrqLock) : (test : Test) → (test.image B L).Call → Prop
  | .eventBlock => (· = EventBlock.Call.wait .tail)
  | .eventPreempt => (· = EventPreempt.Call.wait .tail)
  | _ => fun _ => False

theorem SimZSwapPart.reached (part : SimZSwapPart) : .unreached ∉ part.trace := by
  cases part <;> decide

theorem SimWaitPart.unreached_iff (part : SimWaitPart) :
    .unreached ∈ part.trace ↔ part = .tail := by
  cases part <;> decide

theorem EventBlock.Call.unreached_iff (c : EventBlock.Call) :
    .unreached ∈ c.trace ↔ c = .wait .tail := by
  cases c with
  | zSwap part =>
    rw [trace]
    simpa using part.reached
  | wait part =>
    rw [trace]
    simpa using part.unreached_iff
  | waitTailNoWait => decide
  | postTail => decide

theorem EventPreempt.Call.unreached_iff (c : EventPreempt.Call) :
    .unreached ∈ c.trace ↔ c = .wait .tail := by
  cases c with
  | eventTail => decide
  | zSwap part =>
    rw [trace]
    simpa using part.reached
  | wait part =>
    rw [trace]
    simpa using part.unreached_iff

theorem SemBlock.Call.reached (c : SemBlock.Call) : .unreached ∉ c.trace := by
  cases c with
  | zSwap part => exact part.reached
  | takeTailNoWait => decide
  | giveTail => decide

theorem SemPreempt.Call.reached (c : SemPreempt.Call) : .unreached ∉ c.trace := by
  cases c with
  | zSwap part => exact part.reached
  | takeTail => decide
  | giveTailNoSwap hasWaiter =>
    by_cases hw : hasWaiter ≠ 0
    · rw [trace, if_pos hw]
      decide
    · rw [trace, if_neg hw]
      decide

theorem TaskPreempt.Call.reached (c : TaskPreempt.Call) : .unreached ∉ c.trace := by
  cases c with
  | swapPrologue => exact SimZSwapPart.reached .prologue
  | threadSuspendTail => decide
  | threadResumeTail => decide

theorem Test.unreached_iff (L : IrqLock) (test : Test) (c : (test.image B L).Call) :
    .unreached ∈ (test.contract B L).trace c ↔ test.placeholders L c := by
  cases test
  · exact EventBlock.Call.unreached_iff c
  · exact EventPreempt.Call.unreached_iff c
  · exact iff_false_intro (SemBlock.Call.reached c)
  · exact iff_false_intro (SemPreempt.Call.reached c)
  · exact iff_false_intro (TaskPreempt.Call.reached c)

theorem EventPreempt.prepare_log (L : IrqLock) (c : EventPreempt.Call) (s : Machine B EventVars) :
    (((EventPreempt.image B L).probe c).prepare s).2.log = s.log := by
  cases c with
  | eventTail => rfl
  | zSwap part => rfl
  | wait part => cases part <;> rfl

theorem SemPreempt.prepare_log (L : IrqLock) (c : SemPreempt.Call)
    (s : Machine B SemPreempt.Vars) :
    (((SemPreempt.image B L).probe c).prepare s).2.log = s.log := by
  cases c with
  | zSwap part => rfl
  | takeTail => rfl
  | giveTailNoSwap hasWaiter =>
    show ((measureGiveTailNoSwapOverhead L hasWaiter).prepare s).2.log = s.log
    by_cases hw : hasWaiter = 0#32 <;> simp [measureGiveTailNoSwapOverhead, hw]

/-- The preparation of a probe leaves no mark. -/
theorem Test.prepare_log (L : IrqLock) (test : Test) (c : (test.image B L).Call)
    (s : Machine B (test.image B L).Vars) :
    (((test.image B L).probe c).prepare s).2.log = s.log := by
  cases test with
  | eventBlock => cases c <;> rfl
  | eventPreempt => exact EventPreempt.prepare_log L c s
  | semBlock => cases c <;> rfl
  | semPreempt => exact SemPreempt.prepare_log L c s
  | taskPreempt => cases c <;> rfl

/-! ## 3. Any calls -/

/-- A run takes no branch that is marked as unreached if and only if it makes no
call of `measure_wait_overhead()` for the tail that iterates. -/
theorem probes_unreached_iff (L : IrqLock) (series : B.Series) (test : Test)
    (calls : List ((test.image B L).Call × BitVec 32)) :
    .unreached ∉ ((test.image B L).after series calls).log ↔
      ∀ call ∈ calls, ¬ (test.placeholders L call.1 ∧ call.2 ≠ 0) := by
  rw [(test.contract B L).not_mem_after_iff (test.prepare_log L)]
  constructor
  · intro h call hcall hplaceholders
    exact h call hcall ⟨(test.unreached_iff L call.1).mpr hplaceholders.1, hplaceholders.2⟩
  · intro h call hcall hmark
    exact h call hcall ⟨(test.unreached_iff L call.1).mp hmark.1, hmark.2⟩

/-- One iteration of the wait of `event_block`, tail, from boot. -/
theorem waitTail_unreached :
    ¬ ∀ (test : Test)
      (calls : List ((test.image Bmth.plain IrqLock.priority).Call × BitVec 32)),
      .unreached ∉
        ((test.image Bmth.plain IrqLock.priority).after (false, []) calls).log := by
  intro h
  have hmark := h .eventBlock [(EventBlock.Call.wait .tail, 1)]
  exact absurd hmark (by decide)

end ZephyrBench.Sim

/-
ZephyrBench.Sim.MainTheorems — what `main()` hands over.

  * `main_handsOver` — the control task finds every series of a probe with
    `MEASUREMENT_COUNT` samples of one length, those of the scenarios
    initialised and empty, and the interrupts unmasked.
  * `main_unmasked_iff` — every iteration of every probe begins with interrupts
    unmasked, except in `sem_preempt`: there those of the take after its first
    begin masked, and the first one of the swap prologue after it.

## How the proofs go

Every iteration of a probe puts one sample into its series (`Samples`), so a call
fills it with as many as it iterates (`Test.fed_before`). The calls of a `main()`
fill different series, none of them one of a scenario (`Test.nodup_probeCalls`,
`Test.scenario_probeCalls`), so what one has filled the next leaves alone
(`Test.fed_fillAll`, `Test.series_fillAll`).

The interrupt mask is followed from call to call. A call that does not mask
leaves the interrupts unmasked (`Test.unmasked_fillAll`); the take of
`sem_preempt` leaves them masked, and the swap prologue after it unmasks them in
its first iteration (`SemPreempt.masked_takeTail`, `SemPreempt.unmasked_zSwap`). A
`MEASUREMENT_COUNT` of zero makes no iteration, and then nothing is masked.
-/
import ZephyrBench.Sim.Main
import ZephyrBench.Sim.UnreachedTheorems
import ZephyrBench.Samples

namespace ZephyrBench.Sim

variable {B : Bmth} {V : Type}

open SimThread

/-! ## 1. The sample of an iteration -/

/-- The statement puts one sample of the length `d` into the series, inside a
window that it opens and closes. -/
def Samples (d : Nat) (m : SimM B V Unit) (s : Machine B V) : Prop :=
  ∃ start, (m s).2.series =
    B.mwindowClose (B.mseriesIterate (B.mwindowOpen s.series) start (start + d)).1

section Iterations

variable {Φ : V → Prop} {Ψ : Option SimThread → Prop} {L : IrqLock}

theorem measureZSwap_samples (part : SimZSwapPart) {s : Machine B V}
    (h : Head Φ Ψ part.fresh s) : Samples 1 (measureZSwap part) s := by
  have hcurrent := h.current
  cases part with
  | prologue => exact ⟨s.log.length, by simp [*, measureZSwap]⟩
  | tail => exact ⟨s.log.length + 1, by simp [*, measureZSwap]⟩

attribute [local simp] simRescheduleSwapTail simZRescheduleSwapTail simAreWaitConditionsMet
  simKEventWaitInternalTail simKEventWaitInternal simZImplKEventWaitSafeTail
  simZImplKEventWaitSafe measureWaitTail measureWaitPrologue kForever kNoWait eagain

theorem measureWaitTail_samples {compensation : SimM B EventVars Unit} {s : Machine B EventVars}
    (h : EventHead true s) : Samples 1 (measureWaitTail compensation kForever) s := by
  have hcurrent := h.current
  have hreturns := h.returns rfl
  obtain ⟨hguard, hrequest, -, -⟩ := h.vars
  exact ⟨s.log.length + 3, by simp [*]⟩

theorem measureWaitTail_noWait_samples {s : Machine B EventVars} (h : EventHead true s) :
    Samples 2 (measureWaitTail EventBlock.quickCompensation kNoWait) s := by
  obtain ⟨hguard, hrequest, -, -⟩ := h.vars
  exact ⟨s.log.length + 1, by simp [*, EventBlock.quickCompensation]⟩

theorem measureWaitPrologue_samples {s : Machine B EventVars} (h : EventHead false s) :
    Samples 1 (measureWaitPrologue L kForever) s := by
  have hcurrent := h.current
  obtain ⟨-, hrequest, -, hoverlap⟩ := h.vars
  exact ⟨s.log.length + 1, by simp [*]⟩

theorem EventBlock.measurePostTail_samples {s : Machine B EventVars} (h : EventHead true s) :
    Samples 1 measurePostTail s := by
  have hcurrent := h.current
  have hipsr := h.ipsr
  have hcache := h.cache
  have hpostKey := h.vars.postKey
  refine ⟨s.log.length + 1, ?_⟩
  simp [*, measurePostTail, simZImplKEventPostSwapTail, simKEventPostInternalSwapTail]

theorem EventPreempt.measureEventTail_samples {s : Machine B EventVars} :
    Samples 1 measureEventTail s := by
  refine ⟨s.log.length + 2, ?_⟩
  simp [measureEventTail, simZImplKEventPost, simKEventPostInternal]

theorem SemBlock.measureTakeTail_samples {s : Machine B SemBlock.Vars}
    (h : SemBlock.Ready .takeTailNoWait s) : Samples 1 (measureTakeTail L) s := by
  have hcount := h.vars.2 rfl
  have hticks := h.vars.1.takeTicks
  exact ⟨s.log.length + 1, by simp [*, measureTakeTail, simZImplKSemTakeTail]⟩

theorem SemBlock.measureGiveTail_samples {s : Machine B SemBlock.Vars}
    (h : SemBlock.Ready .giveTail s) : Samples 1 measureGiveTail s := by
  have hipsr := h.ipsr
  have hcurrent := h.current
  have hcache := h.cache
  have hkey := h.vars.1.giveKey
  exact ⟨s.log.length + 1, by simp [*, measureGiveTail, simZImplKSemGiveTail]⟩

theorem SemPreempt.measureTakeTail_samples {s : Machine B SemPreempt.Vars}
    (h : SemPreempt.Ready .takeTail s) : Samples 1 (measureTakeTail L) s := by
  have hcurrent := h.current
  obtain ⟨hcount, hticks⟩ := h.vars
  refine ⟨s.log.length + 1, ?_⟩
  simp [*, measureTakeTail, simZImplKSemTakeSwapTail, simZPendCurrSwapTail]

theorem SemPreempt.measureGiveTail_samples {hasWaiter : BitVec 32}
    {s : Machine B SemPreempt.Vars} (h : SemPreempt.Ready (.giveTailNoSwap hasWaiter) s) :
    Samples 1 (measureGiveTail L) s := by
  have hcurrent := h.current
  have hcache : s.kernel.cache = some simCurrentThread := h.cache
  by_cases hw : hasWaiter = 0#32
  · subst hw
    have hwaitQ : s.vars.tailSem.waitQ = [] := h.vars.1
    exact ⟨s.log.length + 1, by simp [*, measureGiveTail, simZImplKSemGiveTail]⟩
  · have hwaitQ : s.vars.tailSem.waitQ = [simWaiterThread] := h.vars.1.trans (waiters_of_ne hw)
    refine ⟨s.log.length + 2, ?_⟩
    simp [*, measureGiveTail, simZImplKSemGiveTail, simZRescheduleNoSwapTail,
      simRescheduleNoSwapTail]

theorem TaskPreempt.iteration_samples (c : TaskPreempt.Call) {s : Machine B Unit}
    (h : TaskPreempt.Ready c s) : Samples 1 ((TaskPreempt.image B).probe c).iteration s := by
  have hcurrent := h.current
  cases c with
  | swapPrologue => exact measureZSwap_samples .prologue h
  | threadSuspendTail =>
    refine ⟨s.log.length + 2, ?_⟩
    simp [*, image, measureThreadSuspendTail, measureSuspendTail, simSuspendThreadTail,
      simZImplKThreadSuspendTail]
  | threadResumeTail =>
    refine ⟨s.log.length + 2, ?_⟩
    simp [*, image, measureThreadResumeTail, measureResumeTail, simResumeThreadTail,
      simZImplKThreadResumeTail]

end Iterations

/-- The length of the samples of a call. Nothing comes between the markers, but
for the instruction that `event_block` adds to a wait that does not wait. -/
def EventBlock.Call.sampleLength : EventBlock.Call → Nat
  | .waitTailNoWait => 2
  | _ => 1

def Test.sampleLength (L : IrqLock) : (test : Test) → (test.image B L).Call → Nat
  | .eventBlock => EventBlock.Call.sampleLength
  | _ => fun _ => 1

/-- Every iteration of every call puts one sample into its series. -/
theorem Test.iteration_samples (L : IrqLock) (test : Test) (c : (test.image B L).Call)
    {s : Machine B (test.image B L).Vars} (h : (test.contract B L).Ready c s) :
    Samples (test.sampleLength L c) ((test.image B L).probe c).iteration s := by
  cases test with
  | eventBlock =>
    cases c with
    | zSwap part => exact measureZSwap_samples part h
    | wait part =>
      cases part with
      | tail => exact measureWaitTail_samples h
      | prologue => exact measureWaitPrologue_samples h
    | waitTailNoWait => exact measureWaitTail_noWait_samples h
    | postTail => exact EventBlock.measurePostTail_samples h
  | eventPreempt =>
    cases c with
    | eventTail => exact EventPreempt.measureEventTail_samples
    | zSwap part => exact measureZSwap_samples part h
    | wait part =>
      cases part with
      | tail => exact measureWaitTail_samples h
      | prologue => exact measureWaitPrologue_samples h
  | semBlock =>
    cases c with
    | zSwap part => exact measureZSwap_samples part h
    | takeTailNoWait => exact SemBlock.measureTakeTail_samples h
    | giveTail => exact SemBlock.measureGiveTail_samples h
  | semPreempt =>
    cases c with
    | zSwap part => exact measureZSwap_samples part h
    | takeTail => exact SemPreempt.measureTakeTail_samples h
    | giveTailNoSwap hasWaiter => exact SemPreempt.measureGiveTail_samples h
  | taskPreempt => exact TaskPreempt.iteration_samples c h

/-! ## 2. The series of a call -/

theorem SemPreempt.prepare_series (L : IrqLock) (hasWaiter : BitVec 32)
    (s : Machine B SemPreempt.Vars) :
    ((measureGiveTailNoSwapOverhead L hasWaiter).prepare s).2.series =
      B.mseriesInitialize .insideFunctionFileScopeVars := by
  by_cases hw : hasWaiter = 0#32 <;> simp [measureGiveTailNoSwapOverhead, hw]

/-- The preparation of a probe initialises its series. -/
theorem Test.prepare_series (L : IrqLock) (test : Test) (c : (test.image B L).Call)
    (s : Machine B (test.image B L).Vars) :
    ∃ window, (((test.image B L).probe c).prepare s).2.series = B.mseriesInitialize window := by
  cases test with
  | eventBlock => cases c <;> exact ⟨_, rfl⟩
  | eventPreempt =>
    cases c with
    | wait part => cases part <;> exact ⟨_, rfl⟩
    | _ => exact ⟨_, rfl⟩
  | semBlock => cases c <;> exact ⟨_, rfl⟩
  | semPreempt =>
    cases c with
    | giveTailNoSwap hasWaiter => exact ⟨_, SemPreempt.prepare_series L hasWaiter s⟩
    | _ => exact ⟨_, rfl⟩
  | taskPreempt => cases c <;> exact ⟨_, rfl⟩

/-- No probe relies on what its series was before. -/
theorem Test.static_series (L : IrqLock) (test : Test) {s : Machine B (test.image B L).Vars}
    (h : (test.contract B L).Static s) (series : B.Series) :
    (test.contract B L).Static { s with series } := by
  cases test with
  | eventBlock => exact ⟨h.ipsr, h.vars, h.cache⟩
  | eventPreempt => exact ⟨h.ipsr, h.vars, h.cache⟩
  | semBlock => exact ⟨h.ipsr, h.vars, h.cache⟩
  | semPreempt => exact h
  | taskPreempt => exact h

section Fed

variable {L : IrqLock} {test : Test} {c : (test.image B L).Call}
  {s : Machine B (test.image B L).Vars}

theorem Samples.fed {d n : Nat} {m : SimM B V Unit} {s : Machine B V} (h : Samples d m s)
    (hs : Fed (List.replicate n d) s.series) : Fed (List.replicate (n + 1) d) (m s).2.series := by
  obtain ⟨start, hseries⟩ := h
  have hopen := B.isOpen_mwindowOpen s.series
  have hiterate : Fed ((start + d - start) :: List.replicate n d)
      (B.mseriesIterate (B.mwindowOpen s.series) start (start + d)).1 :=
    .iterate (.windowOpen hs) hopen
  rw [Nat.add_sub_cancel_left] at hiterate
  rw [hseries]
  exact .windowClose hiterate

/-- At the head of its loop, a probe has put a sample into its series for each
iteration, and left it closed. -/
theorem Test.fed_before (h : (test.contract B L).Static s) (i : Nat) :
    let series := (((test.image B L).probe c).before s i).series
    Fed (List.replicate i (test.sampleLength L c)) series ∧ B.isOpen series = false := by
  induction i with
  | zero =>
    obtain ⟨window, hseries⟩ := test.prepare_series L c s
    simp only [Probe.before_zero, hseries]
    exact ⟨.initialized window, B.isOpen_mseriesInitialize window⟩
  | succ i ih =>
    have hsamples := test.iteration_samples L c ((test.contract B L).ready_of_static h i)
    simp only [Probe.before_succ]
    refine ⟨hsamples.fed ih.1, ?_⟩
    obtain ⟨start, hseries⟩ := hsamples
    rw [hseries]
    exact B.isOpen_mwindowClose _

end Fed

/-! ## 3. The calls of `main()` -/

section FillAll

variable {L : IrqLock} {test : Test} {n : BitVec 32}
  {calls : List (MainSeries × (test.image B L).Call)} {s : MainState B (test.image B L).Vars}

theorem Test.static_fill (h : (test.contract B L).Static s.machine) (m : MainSeries)
    (c : (test.image B L).Call) :
    (test.contract B L).Static (((test.image B L).probe c).fill m n s).machine :=
  (test.contract B L).static_run (test.static_series L h (s.series m)) n

/-- What one call keeps and establishes is an invariant of all of them. -/
theorem Test.static_fillAll (h : (test.contract B L).Static s.machine) :
    (test.contract B L).Static ((test.image B L).fillAll n calls s).machine := by
  induction calls generalizing s with
  | nil => exact h
  | cons call calls ih => exact ih (test.static_fill h call.1 call.2)

/-- A series that no call is given stays as it is. -/
theorem Test.series_fillAll {m : MainSeries} (hm : m ∉ calls.map Prod.fst) :
    ((test.image B L).fillAll n calls s).series m = s.series m := by
  induction calls generalizing s with
  | nil => rfl
  | cons call calls ih =>
    rw [List.map_cons, List.mem_cons, not_or] at hm
    have hnext := ih (s := ((test.image B L).probe call.2).fill call.1 n s) hm.2
    exact hnext.trans (Function.update_of_ne hm.1 _ _)

/-- A series that one call is given has its samples. -/
theorem Test.fed_fillAll (h : (test.contract B L).Static s.machine)
    (hnodup : (calls.map Prod.fst).Nodup) {m : MainSeries} {c : (test.image B L).Call}
    (hc : (m, c) ∈ calls) :
    let series := ((test.image B L).fillAll n calls s).series m
    Fed (List.replicate n.toNat (test.sampleLength L c)) series ∧ B.isOpen series = false := by
  induction calls generalizing s with
  | nil => exact absurd hc List.not_mem_nil
  | cons call calls ih =>
    rw [List.map_cons, List.nodup_cons] at hnodup
    rcases List.mem_cons.mp hc with rfl | hc
    · have hlast := test.series_fillAll (n := n)
        (s := ((test.image B L).probe c).fill m n s) hnodup.1
      have hseries : ((test.image B L).fillAll n ((m, c) :: calls) s).series m =
          (((test.image B L).probe c).before (s.select m) n.toNat).series :=
        hlast.trans (Function.update_self ..)
      rw [hseries]
      exact test.fed_before (test.static_series L h (s.series m)) n.toNat
    · exact ih (test.static_fill h call.1 call.2) hnodup.2 hc

/-- The marks of all calls. -/
theorem Test.count_fillAll (h : (test.contract B L).Static s.machine) (x : Mark) :
    ((test.image B L).fillAll n calls s).machine.log.count x = s.machine.log.count x +
      n.toNat * (calls.map fun call => ((test.contract B L).trace call.2).count x).sum := by
  induction calls generalizing s with
  | nil => rfl
  | cons call calls ih =>
    have hcount := (test.contract B L).count_before (c := call.2) (x := x)
      (test.static_series L h (s.series call.1)) (test.prepare_log L call.2 _) n.toNat
    have hnext := ih (test.static_fill (n := n) h call.1 call.2)
    refine hnext.trans ?_
    rw [List.map_cons, List.sum_cons, Nat.mul_add, ← Nat.add_assoc]
    exact congrArg (· + _) hcount

/-- Calls that do not mask the interrupts leave them unmasked. -/
theorem Test.unmasked_fillAll (h : (test.contract B L).Static s.machine)
    (hs : s.machine.basepri = 0) (hcalls : ∀ call ∈ calls, ¬ (test.contract B L).masks call.2) :
    ((test.image B L).fillAll n calls s).machine.basepri = 0 := by
  induction calls generalizing s with
  | nil => exact hs
  | cons call calls ih =>
    have hfirst := (test.contract B L).unmasked_iff (c := call.2)
      (test.static_series L h (s.series call.1)) hs n
    have hmasks := hcalls call List.mem_cons_self
    have hrun := (hfirst.mpr fun hm => hmasks hm.1).2
    exact ih (test.static_fill h call.1 call.2) hrun fun call hc =>
      hcalls call (List.mem_cons_of_mem _ hc)

end FillAll

/-! ## 4. What `main()` hands over -/

namespace Contract

variable {image : Image B} (C : Contract image) {s : Machine B image.Vars} {c : image.Call}
  {n : BitVec 32}

/-- A call that iterates leaves the interrupt mask of its last iteration. -/
theorem basepri_run (h : C.Static s) (hn : n ≠ 0) :
    ∃ basepri, ((image.probe c).run n s).basepri = C.mask c basepri := by
  obtain ⟨i, hi⟩ := Nat.exists_eq_succ_of_ne_zero (fun h => hn (BitVec.eq_of_toNat_eq h))
  refine ⟨((image.probe c).before s i).basepri, ?_⟩
  rw [Probe.run, hi, C.basepri_before_succ h]

end Contract

section Main

variable {L : IrqLock} {cfg : MainConfig} {series : MainSeries → B.Series} {test : Test}

variable (L series test) in
theorem Test.static_initScenarios :
    (test.contract B L).Static (initScenarios ((test.image B L).mainState series)).machine :=
  (test.contract B L).boot _

/-- The series that the probes of a test fill. -/
def Test.filled : Test → List MainSeries
  | .eventBlock => [.zSwapOverhead, .postTail, .waitTailNoWait]
  | .eventPreempt => [.eventTail, .waitTail, .zSwapOverhead]
  | .semBlock => [.zSwapOverhead, .giveTail, .takeTailNoWait]
  | .semPreempt => [.giveTail, .takeTail, .zSwapOverhead]
  | .taskPreempt => [.zSwapOverhead, .suspendTail, .swapPrologue]

theorem Test.map_probeCalls : (test.probeCalls (B := B) L cfg).map Prod.fst = test.filled := by
  cases test <;> rfl

theorem Test.nodup_probeCalls : ((test.probeCalls (B := B) L cfg).map Prod.fst).Nodup := by
  rw [Test.map_probeCalls]
  cases test <;> decide

variable (L cfg) in
/-- No probe is given a series of a scenario. -/
theorem Test.scenario_probeCalls (m : TaskSwitching.Series) :
    .scenario m ∉ (test.probeCalls (B := B) L cfg).map Prod.fst := by
  rw [Test.map_probeCalls]
  cases test <;> cases m <;> decide

/-- The probes take two branches marked as unreached, both in the tail of the
wait that `event_preempt` measures. -/
theorem Test.unreached_probeCalls :
    ((test.probeCalls (B := B) L cfg).map fun call =>
      ((test.contract B L).trace call.2).count .unreached).sum =
        if test = .eventPreempt then 2 else 0 := by
  cases test with
  | semPreempt =>
    have hgive := List.count_eq_zero.mpr
      (SemPreempt.Call.reached (.giveTailNoSwap cfg.testSbHasWaiter))
    show List.count .unreached (SemPreempt.Call.trace (.giveTailNoSwap _)) + 0 = 0
    rw [hgive]
  | _ => rfl

theorem Test.deref_fillAll {n : BitVec 32} {calls : List (MainSeries × (test.image B L).Call)}
    {s : MainState B (test.image B L).Vars} (h : (test.contract B L).Static s.machine)
    (hs : .nullDereference ∉ s.machine.log) :
    .nullDereference ∉ ((test.image B L).fillAll n calls s).machine.log := by
  have hsum : (calls.map fun call =>
      ((test.contract B L).trace call.2).count .nullDereference).sum = 0 := by
    refine List.sum_eq_zero_iff_forall_eq_nat.mpr fun x hx => ?_
    obtain ⟨call, -, rfl⟩ := List.mem_map.mp hx
    exact List.count_eq_zero.mpr (test.timed L call.2).deref
  rw [← List.count_eq_zero, Test.count_fillAll h, List.count_eq_zero.mpr hs, hsum, Nat.mul_zero]

section SemPreempt

variable {n : BitVec 32} {s : MainState B SemPreempt.Vars}

/-- The take masks the interrupts. -/
theorem SemPreempt.masked_takeTail (h : s.machine.ipsr = 0) (hn : n ≠ 0) (m : MainSeries) :
    ((measureTakeTailOverhead L).fill m n s).machine.basepri ≠ 0 := by
  obtain ⟨basepri, hrun⟩ := (contract B L).basepri_run (c := .takeTail) (s := s.select m) h hn
  intro hzero
  exact L.raise_ne_zero basepri (hrun.symm.trans hzero)

/-- The prologue of the swap that comes after it unmasks them. -/
theorem SemPreempt.unmasked_zSwap (L : IrqLock) (h : s.machine.ipsr = 0) (hn : n ≠ 0)
    (m : MainSeries) :
    ((measureSemZSwapOverhead .prologue).fill m n s).machine.basepri = 0 := by
  obtain ⟨basepri, hrun⟩ :=
    (contract B L).basepri_run (c := .zSwap .prologue) (s := s.select m) h hn
  exact hrun

end SemPreempt

variable (L cfg series test) in
/-- What the first `k` calls of probes leave. -/
theorem Test.static_mainUpTo (k : Nat) :
    (test.contract B L).Static (test.mainUpTo L cfg series k).machine :=
  test.static_fillAll (test.static_initScenarios L series)

/-- Calls that do not iterate keep the interrupt mask. -/
theorem Test.basepri_fillAll_zero {calls : List (MainSeries × (test.image B L).Call)}
    {s : MainState B (test.image B L).Vars} :
    ((test.image B L).fillAll 0 calls s).machine.basepri = s.machine.basepri := by
  induction calls generalizing s with
  | nil => rfl
  | cons call calls ih =>
    exact ih.trans ((test.contract B L).prepare_basepri call.2 (s.select call.1))

/-- The interrupts are unmasked at the end. -/
theorem Test.main_unmasked : (test.main L cfg series).machine.basepri = 0 := by
  have hstatic := test.static_initScenarios L series
  cases test with
  | semPreempt =>
    by_cases hn : cfg.measurementCount = 0
    · unfold Test.main
      rw [hn, Test.basepri_fillAll_zero]
      rfl
    · exact SemPreempt.unmasked_zSwap L
        (Test.static_mainUpTo L cfg series .semPreempt 2) hn _
  | _ => exact Test.unmasked_fillAll hstatic rfl fun _ _ h => h

/-- What the control task finds: every probe has put `MEASUREMENT_COUNT`
samples of one length into its own series, and left it closed; the series of the
scenarios are initialised and empty; the interrupts are unmasked; and of the
branches marked as unreached only those in the tail of the wait were taken. -/
structure Test.HandsOver (L : IrqLock) (cfg : MainConfig) (test : Test)
    (s : MainState B (test.image B L).Vars) : Prop where
  probes : ∀ (m : MainSeries) (c : (test.image B L).Call), (m, c) ∈ test.probeCalls L cfg →
    Fed (List.replicate cfg.measurementCount.toNat (test.sampleLength L c)) (s.series m) ∧
      B.isOpen (s.series m) = false
  scenarios : ∀ m, s.series (.scenario m) = B.mseriesInitialize (TaskSwitching.readWindow m)
  unmasked : s.machine.basepri = 0
  unreached : s.machine.log.count .unreached =
    if test = .eventPreempt then cfg.measurementCount.toNat * 2 else 0
  deref : .nullDereference ∉ s.machine.log

theorem main_handsOver (L : IrqLock) (cfg : MainConfig) (series : MainSeries → B.Series)
    (test : Test) : test.HandsOver L cfg (test.main L cfg series) := by
  have hstatic := test.static_initScenarios L series
  refine ⟨?_, ?_, Test.main_unmasked, ?_, ?_⟩
  · intro m c hc
    exact Test.fed_fillAll hstatic Test.nodup_probeCalls hc
  · intro m
    have hkeeps := Test.series_fillAll (n := cfg.measurementCount)
      (s := initScenarios ((test.image B L).mainState series))
      (Test.scenario_probeCalls L cfg m)
    refine hkeeps.trans ?_
    cases m <;> rfl
  · rw [Test.main, Test.count_fillAll hstatic, Test.unreached_probeCalls, mul_ite, Nat.mul_zero]
    exact Nat.zero_add _
  · exact Test.deref_fillAll hstatic List.not_mem_nil

/-- The iterations that begin with interrupts masked: in `sem_preempt` those of
the take after its first, which has masked them, and the first one of the swap
after the take. -/
def SemPreempt.Call.BeginsMasked : SemPreempt.Call → Nat → Prop
  | .takeTail, i => i ≠ 0
  | .zSwap _, i => i = 0
  | .giveTailNoSwap _, _ => False

def Test.BeginsMasked (L : IrqLock) : (test : Test) → (test.image B L).Call → Nat → Prop
  | .semPreempt => SemPreempt.Call.BeginsMasked
  | _ => fun _ _ => False

/-- A probe that iterates is given a count. -/
theorem MainConfig.measurementCount_ne_zero {i : Nat} (hi : i < cfg.measurementCount.toNat) :
    cfg.measurementCount ≠ 0 := by
  intro hzero
  rw [hzero] at hi
  exact absurd hi (Nat.not_lt_zero i)

variable (L cfg series test) in
/-- A probe of `main()` that does not come after a masked take. -/
theorem Test.unmasked_before (k : Nat)
    (hcalls : ∀ call ∈ (test.probeCalls L cfg).take k, ¬ (test.contract B L).masks call.2)
    (m : MainSeries) {c : (test.image B L).Call} (hc : ¬ (test.contract B L).masks c) (i : Nat) :
    (((test.image B L).probe c).before ((test.mainUpTo L cfg series k).select m) i).basepri =
      0 := by
  have hstatic : (test.contract B L).Static ((test.mainUpTo L cfg series k).select m) :=
    test.static_series L (test.static_mainUpTo L cfg series k) _
  have hbasepri : (test.mainUpTo L cfg series k).machine.basepri = 0 :=
    Test.unmasked_fillAll (test.static_initScenarios L series) rfl hcalls
  induction i with
  | zero => exact ((test.contract B L).basepri_before_zero _ c).trans hbasepri
  | succ i ih =>
    rw [(test.contract B L).basepri_before_succ hstatic, ih]
    exact (test.contract B L).mask_zero c hc

/-- The iterations of the probes of `sem_preempt`. -/
theorem SemPreempt.unmasked_before_iff {k : Nat} {m : MainSeries} {c : Call}
    (hc : (probeCalls cfg)[k]? = some (m, c)) {i : Nat} (hi : i < cfg.measurementCount.toNat) :
    (((image B L).probe c).before ((Test.semPreempt.mainUpTo L cfg series k).select m) i).basepri =
      0 ↔ ¬ c.BeginsMasked i := by
  have hn : cfg.measurementCount ≠ 0 := cfg.measurementCount_ne_zero hi
  have hgive : ∀ call ∈ (probeCalls cfg).take 1, ¬ (contract B L).masks call.2 := by
    simp [probeCalls, contract]
  match k with
  | 0 =>
    obtain ⟨rfl, rfl⟩ := Prod.mk.inj (Option.some.inj hc)
    have hunmasked := Test.unmasked_before L cfg series .semPreempt 0 (by simp) .giveTail
      (hgive _ List.mem_cons_self) i
    exact iff_of_true hunmasked id
  | 1 =>
    obtain ⟨rfl, rfl⟩ := Prod.mk.inj (Option.some.inj hc)
    cases i with
    | zero =>
      have hbasepri : (Test.semPreempt.mainUpTo L cfg series 1).machine.basepri = 0 :=
        Test.unmasked_fillAll (Test.static_initScenarios L series .semPreempt) rfl hgive
      exact iff_of_true hbasepri fun h => h rfl
    | succ i =>
      have hnext := (contract B L).basepri_before_succ
        (Test.static_mainUpTo L cfg series .semPreempt 1) .takeTail i
      refine iff_of_false (fun hzero => ?_) fun h => h (Nat.succ_ne_zero i)
      exact (contract B L).mask_ne_zero .takeTail rfl _ (hnext.symm.trans hzero)
  | 2 =>
    obtain ⟨rfl, rfl⟩ := Prod.mk.inj (Option.some.inj hc)
    cases i with
    | zero =>
      have hmasked := masked_takeTail (L := L) (Test.static_mainUpTo L cfg series .semPreempt 1)
        hn .takeTail
      exact iff_of_false hmasked fun h => h rfl
    | succ i =>
      have hnext := (contract B L).basepri_before_succ
        (Test.static_mainUpTo L cfg series .semPreempt 2) (.zSwap .prologue) i
      exact iff_of_true hnext (Nat.succ_ne_zero i)
  | k + 3 => exact absurd hc (by simp [probeCalls])

/-- In `main()` every iteration begins with interrupts unmasked, but for those
that the take of `sem_preempt` leaves masked. So all of them do, but in
`sem_preempt`. -/
theorem main_unmasked_iff (L : IrqLock) (cfg : MainConfig) (series : MainSeries → B.Series)
    (test : Test) :
    (∀ k m c, (test.probeCalls L cfg)[k]? = some (m, c) → ∀ i < cfg.measurementCount.toNat,
      ((((test.image B L).probe c).before ((test.mainUpTo L cfg series k).select m) i).basepri = 0 ↔
        ¬ test.BeginsMasked L c i)) ∧
    ((∀ k m c, (test.probeCalls L cfg)[k]? = some (m, c) → ∀ i < cfg.measurementCount.toNat,
      (((test.image B L).probe c).before ((test.mainUpTo L cfg series k).select m) i).basepri = 0) ↔
      ¬ (test = .semPreempt ∧ cfg.measurementCount ≠ 0)) := by
  have hbegins : ∀ k m c, (test.probeCalls L cfg)[k]? = some (m, c) →
      ∀ i < cfg.measurementCount.toNat, ((((test.image B L).probe c).before
        ((test.mainUpTo L cfg series k).select m) i).basepri = 0 ↔ ¬ test.BeginsMasked L c i) := by
    intro k m c hc i hi
    cases test with
    | semPreempt => exact SemPreempt.unmasked_before_iff hc hi
    | _ => exact iff_of_true (Test.unmasked_before L cfg series _ k (fun _ _ => id) m id i) id
  refine ⟨hbegins, ?_⟩
  constructor
  · rintro h ⟨rfl, hn⟩
    have hpos : 0 < cfg.measurementCount.toNat :=
      Nat.pos_of_ne_zero fun h => hn (BitVec.eq_of_toNat_eq h)
    have hfirst := h 2 .zSwapOverhead (SemPreempt.Call.zSwap .prologue) rfl 0 hpos
    exact (hbegins 2 .zSwapOverhead (SemPreempt.Call.zSwap .prologue) rfl 0 hpos).mp hfirst rfl
  · intro hnot k m c hc i hi
    refine (hbegins k m c hc i hi).mpr fun hmasked => ?_
    cases test with
    | semPreempt => exact hnot ⟨rfl, cfg.measurementCount_ne_zero hi⟩
    | _ => exact hmasked

end Main

end ZephyrBench.Sim

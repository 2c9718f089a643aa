/-
ZephyrBench.Irt.InterruptResponseTheorems — what the interrupt response test
measures.

`interruptResponse_settles`: both scenarios record `MEASUREMENT_COUNT` samples in
each of the eight builds, for every documented kernel. The handler runs once for
every trigger of `L_Task_SA`, finds `A_Task_SA` blocked in its wait, and never
runs while `Task_SB` does; every interrupt of S_A makes exactly one sample.

## How the proof goes

With a release, `A_Task_SA` preempts `L_Task_SA` at the end of the handler and
closes the window, so that the iteration of `L_Task_SA` comes too late to count;
without one it is the only iteration. `samplerSA` is the task whose iterations
count. `HeadSA` and `HeadSB` are the states at the head of a pass, and a pass of
S_A is two stretches: up to the close of the window (`sampleSA`), where the
builds differ and the cases are split, and from there on (`passSA`). Whether the
handler of the build without release reschedules depends on the dispatch; there
is nobody to switch to.

`Good` is not only about the statement that is about to be executed, as in the
task switching tests: when an interrupt is pending and enabled, the next step is
the handler, whatever the running task was about to do. The stop marker of a
build without release is taken by the handler itself.

Of the priorities the proof uses that `A_Task_SA` outranks `L_Task_SA`; they are
constants of `benchmark_testcases.h`, so `Config` needs no condition on them.
-/
import ZephyrBench.Irt.InterruptResponse

namespace ZephyrBench.Irt

open Rtos Rtos.Exec Thread Object Series Marker

variable {B : Bmth} (cfg : Config)

/-! ## 1. What is claimed of every state -/

/-- The window of a sample of S_A, latest entry first. -/
def windowSA : List HistEntry :=
  (if cfg.saRelease = .none then [.isr (testIsrBody .none)]
    else
      [ .exec saAperiodicThread (.prim (.getStopCnt testStopTime)),
        .switch (some saLowPrioThread) (some saAperiodicThread),
        .isr (testIsrBody cfg.saRelease) ]) ++
    [ .exec saLowPrioThread (.call .nvicSetPendingIrq),
      .exec saLowPrioThread (.prim (.getStartCnt testStartTime)) ]

/-- The window of a sample of S_B. -/
def windowSB : List HistEntry :=
  [ .exec sbThread (.prim (.getStopCnt testStopTime)),
    .exec sbThread (.call .nvicSetPendingIrq),
    .exec sbThread (.prim (.getStartCnt testStartTime)) ]

/-- The task whose iterations of `scenario_a` count. -/
def samplerSA : Thread := if cfg.saRelease = .none then saLowPrioThread else saAperiodicThread

/-- The number of interrupts that `L_Task_SA` has triggered. -/
def triggers (log : List HistEntry) : Nat :=
  log.count (.exec saLowPrioThread (.call .nvicSetPendingIrq))

@[local simp] theorem triggers_nil : triggers [] = 0 := rfl

@[local simp] theorem triggers_cons (e : HistEntry) (log : List HistEntry) :
    triggers (e :: log) =
      triggers log + if e = .exec saLowPrioThread (.call .nvicSetPendingIrq) then 1 else 0 := by
  simp [triggers, List.count_cons]

/-- No release is stored, and `A_Task_SA` is blocked in its wait. -/
def Blocked (s : TestState B) : Prop :=
  s.kern.obj testSem = .sem 0 1 ∧ s.kern.obj testReleaseEvent = .event 0 ∧
  match cfg.saRelease with
  | .resume =>
    s.ThreadAt saAperiodicThread taskSaAperiodicPrio true .no
      (aTaskSASample ++ [.loop (aTaskSALoop .resume)])
  | .sem =>
    s.ThreadAt saAperiodicThread taskSaAperiodicPrio false (.on testSem)
      (aTaskSASample ++ [.loop (aTaskSALoop .sem)]) ∧
      s.kern.waitq testSem = [saAperiodicThread]
  | .event =>
    s.ThreadAt saAperiodicThread taskSaAperiodicPrio false (.on testReleaseEvent)
      (aTaskSASample ++ [.loop (aTaskSALoop .event)]) ∧
      s.kern.waitq testReleaseEvent = [saAperiodicThread] ∧
      s.kern.events saAperiodicThread = scenarioAEventMask
  | .none => True

/-- What `t` is about to execute finds the state as it should be. -/
def GoodStmt (s : TestState B) (t : Thread) : Statement B → Prop
  | .prim (.mseriesIterate scenarioA start stop _) =>
    if s.mem.isOpen scenarioA then t = samplerSA cfg ∧ s.Window start stop (windowSA cfg)
    else t = saLowPrioThread ∧ cfg.saRelease ≠ .none
  | .prim (.mseriesIterate scenarioB start stop _) =>
    t = sbThread ∧ s.mem.isOpen scenarioB = true ∧ s.Window start stop windowSB
  | .call c =>
    (c s.mem = .nvicSetPendingIrq → t = saLowPrioThread ∧ Blocked cfg s ∧
      triggers s.log = s.mem.count scenarioA ∧ s.mem.count scenarioA < cfg.measurementCount ∨
      t = sbThread) ∧
    (c s.mem = .kThreadSuspendCurrent → t = saLowPrioThread →
      triggers s.log = cfg.measurementCount ∧ s.mem.count scenarioA = cfg.measurementCount) ∧
    ((∃ u f prio, c s.mem = .kThreadCreate u f prio) ∨
      c s.mem = .kEventPost testEvent startEventMask → s.kern.obj testEvent = .event 0)
  | _ => True

/-- The handler runs only when `L_Task_SA` has triggered it, finds `A_Task_SA`
blocked, and never runs while `Task_SB` does. -/
def Good (s : TestState B) : Prop :=
  (s.kern.current = some sbThread → s.kern.irq.enabled = false) ∧
  if s.kern.irq.pending && s.kern.irq.enabled then
    s.kern.current = some saLowPrioThread ∧ Blocked cfg s
  else s.AtStmt (GoodStmt cfg s)

/-! ## 2. S_A -/

/-- `L_Task_SA` runs and is about to take sample `n + 1`. -/
structure HeadSA (n : Nat) (s : TestState B) : Prop where
  runs : s.Runs saLowPrioThread [saLowPrioThread, idleThread]
  irq : s.kern.irq = { enabled := true, pending := false, inIsr := false }
  event : s.ObjectAt testEvent (.event 0) []
  idle : s.ThreadAt idleThread taskIdlePrio false .no (iTaskSA cfg).tail
  low : s.ThreadAt saLowPrioThread taskSaLowPrio false .no [.loop (lTaskSALoop cfg)]
  blocked : Blocked cfg s
  triggers : triggers s.log = n
  countA : s.mem.count scenarioA = n
  countB : s.mem.count scenarioB = 0

attribute [local simp] Good GoodStmt State.Window windowSA windowSB samplerSA taskIdlePrio
  taskSaLowPrio taskSaAperiodicPrio taskSbPrio startEventMask signalizeDoneEventMask
  scenarioAEventMask testIsrBody testIsrReschedule aTaskSASample aTaskSALoop lTaskSALoop
  taskSBLoop lTaskSA taskSB complete signalizeDone program ifRelease
  Prog.takeIrq Prog.isrAct Kernel.setIrq Kernel.isrEnter Kernel.isrExit Blocked

theorem boot_leads :
    Leads (program cfg).next (Good (B := B) cfg) (start cfg) (HeadSA cfg 0) := by
  cases hr : cfg.saRelease
  case none =>
    iterate 7
      refine .step (by simp [*, start, iTask, iTaskSA, Kernel.boot]) ?_
      simp [*, start, iTask, iTaskSA, Kernel.boot]
    refine .done ?_
    constructor <;> simp [*, Mem.initial, iTaskSA]
  all_goals
    -- A_Task_SA is created first and blocks
    iterate 10
      refine .step (by simp [*, start, iTask, iTaskSA, Kernel.boot]) ?_
      simp [*, start, iTask, iTaskSA, Kernel.boot]
    refine .done ?_
    constructor <;> simp [*, Mem.initial, iTaskSA]

/-- `L_Task_SA` has closed the window of sample `n`. -/
structure TailSA (n : Nat) (s : TestState B) : Prop where
  runs : s.Runs saLowPrioThread [saLowPrioThread, idleThread]
  irq : s.kern.irq = { enabled := true, pending := false, inIsr := false }
  event : s.ObjectAt testEvent (.event 0) []
  idle : s.ThreadAt idleThread taskIdlePrio false .no (iTaskSA cfg).tail
  low : s.ThreadAt saLowPrioThread taskSaLowPrio false .no
    [signalizeDone cfg scenarioA, .loop (lTaskSALoop cfg)]
  blocked : Blocked cfg s
  triggers : triggers s.log = n
  countA : s.mem.count scenarioA = n
  countB : s.mem.count scenarioB = 0

theorem sampleSA {n : Nat} (hlt : n < cfg.measurementCount) (s : TestState B)
    (h : HeadSA cfg n s) : Leads (program cfg).next (Good cfg) s (TailSA cfg (n + 1)) := by
  obtain ⟨_, _, _, _, _, hblocked, _, _, _⟩ := h
  cases hr : cfg.saRelease
  case none =>
    simp only [Blocked, hr] at hblocked
    cases hd : cfg.testIrqDispatch
    all_goals
      iterate 8
        refine .step (by simp [*]) ?_
        simp [*]
      refine .done ?_
      constructor <;> simp [*]
  all_goals
    simp only [Blocked, hr] at hblocked
    cases hd : cfg.testIrqDispatch
    all_goals
      -- L_Task_SA triggers the handler, which releases A_Task_SA
      iterate 6
        refine .step (by simp [*]) ?_
        simp [*]
      -- A_Task_SA takes the stop marker, records and waits again
      iterate 5
        refine .step (by simp [*]) ?_
        simp [*]
      -- the window is closed when L_Task_SA iterates
      iterate 2
        refine .step (by simp [*]) ?_
        simp [*]
      refine .done ?_
      constructor <;> simp [*]

theorem passSA {n : Nat} (hn : n < cfg.measurementCount - 1) (s : TestState B)
    (h : HeadSA cfg n s) : Leads (program cfg).next (Good cfg) s (HeadSA cfg (n + 1)) := by
  have hn' : ¬ cfg.measurementCount ≤ n + 1 := by omega
  refine (sampleSA cfg (by omega) s h).bind ?_
  intro s h
  obtain ⟨_, _, _, _, _, hblocked, _, _, _⟩ := h
  cases hr : cfg.saRelease
  all_goals
    simp only [Blocked, hr] at hblocked
    refine .step (by simp [*]) ?_
    simp [*]
    refine .done ?_
    constructor <;> simp [*]

/-- `I_Task` is about to begin S_B; `L_Task_SA` and `A_Task_SA` are gone. -/
structure OverSA (s : TestState B) : Prop where
  runs : s.Runs idleThread [idleThread]
  irq : s.kern.irq = { enabled := true, pending := false, inIsr := false }
  event : s.ObjectAt testEvent (.event 0) []
  idle : s.ThreadAt idleThread taskIdlePrio false .no iTaskSB
  countA : s.mem.count scenarioA = cfg.measurementCount
  countB : s.mem.count scenarioB = 0

theorem endSA (s : TestState B) (h : HeadSA cfg (cfg.measurementCount - 1) s) :
    Leads (program cfg).next (Good cfg) s (OverSA cfg) := by
  have hN : cfg.measurementCount - 1 + 1 = cfg.measurementCount :=
    Nat.sub_add_cancel cfg.one_le_measurementCount
  have hlt : cfg.measurementCount - 1 < cfg.measurementCount :=
    Nat.sub_one_lt_of_lt cfg.one_le_measurementCount
  refine (sampleSA cfg hlt s h).bind ?_
  intro s h
  rw [hN] at h
  obtain ⟨_, _, _, _, _, hblocked, _, _, _⟩ := h
  cases hr : cfg.saRelease
  case none =>
    simp only [Blocked, hr] at hblocked
    iterate 5
      refine .step (by simp [*, iTaskSA]) ?_
      simp [*, iTaskSA]
    refine .done ?_
    constructor <;> simp [*]
  all_goals
    -- A_Task_SA is aborted too
    simp only [Blocked, hr] at hblocked
    iterate 6
      refine .step (by simp [*, iTaskSA]) ?_
      simp [*, iTaskSA]
    refine .done ?_
    constructor <;> simp [*]

/-! ## 3. S_B -/

/-- `Task_SB` runs and is about to take sample `n + 1`. -/
structure HeadSB (n : Nat) (s : TestState B) : Prop where
  runs : s.Runs sbThread [sbThread, idleThread]
  irq : s.kern.irq = { enabled := false, pending := false, inIsr := false }
  event : s.ObjectAt testEvent (.event 0) []
  idle : s.ThreadAt idleThread taskIdlePrio false .no
    (kcall (.kEventWaitSafe testEvent signalizeDoneEventMask .forever) ::
      kcall (.kThreadAbort sbThread) :: verdictLoop outliers)
  task : s.ThreadAt sbThread taskSbPrio false .no [.loop (taskSBLoop cfg)]
  countA : s.mem.count scenarioA = cfg.measurementCount
  countB : s.mem.count scenarioB = n

theorem startSB (s : TestState B) (h : OverSA cfg s) :
    Leads (program cfg).next (Good cfg) s (HeadSB cfg 0) := by
  cases h
  iterate 5
    refine .step (by simp [*, iTaskSB]) ?_
    simp [*, iTaskSB]
  refine .done ?_
  constructor <;> simp [*]

theorem passSB {n : Nat} (hn : n < cfg.measurementCount - 1) (s : TestState B)
    (h : HeadSB cfg n s) : Leads (program cfg).next (Good cfg) s (HeadSB cfg (n + 1)) := by
  have hn' : ¬ cfg.measurementCount ≤ n + 1 := by omega
  cases h
  iterate 10
    refine .step (by simp [*]) ?_
    simp [*]
  refine .done ?_
  constructor <;> simp [*]

/-- `I_Task` is in its last loop, with all samples recorded. -/
abbrev AtVerdict : TestState B → Prop :=
  Settled idleThread outliers fun _ series =>
    B.iterationCount (series scenarioA) = cfg.measurementCount ∧
      B.iterationCount (series scenarioB) = cfg.measurementCount

theorem endSB (s : TestState B) (h : HeadSB cfg (cfg.measurementCount - 1) s) :
    Leads (program cfg).next (Good cfg) s (AtVerdict cfg) := by
  have hN : cfg.measurementCount - 1 + 1 = cfg.measurementCount :=
    Nat.sub_add_cancel cfg.one_le_measurementCount
  cases h
  iterate 14
    refine .step (by simp [*]) ?_
    simp [*]
  refine .done ?_
  constructor <;> simp [*, VerdictCode.head]

/-! ## 4. The whole run -/

theorem run_leads : Leads (program cfg).next (Good (B := B) cfg) (start cfg) (AtVerdict cfg) := by
  refine (boot_leads cfg).bind ?_
  intro s hs
  refine (Leads.loop (S := HeadSA cfg) (fun n hn => passSA cfg hn) hs).bind ?_
  intro s hs
  refine (endSA cfg s hs).bind ?_
  intro s hs
  refine (startSB cfg s hs).bind ?_
  intro s hs
  exact (Leads.loop (S := HeadSB cfg) (fun n hn => passSB cfg hn) hs).bind (endSB cfg)

theorem good_of_atVerdict (s : TestState B) (h : AtVerdict cfg s) : Good cfg s := by
  have hstmt : s.AtStmt (GoodStmt cfg s) :=
    h.atStmt trivial (fun _ _ => trivial) fun _ => trivial
  simp only [Good, h.current, h.irq]
  exact ⟨by simp, hstmt⟩

/-- The run over any documented kernel gets to the verdict with
`MEASUREMENT_COUNT` samples in each scenario; every interrupt of S_A makes one
sample, with the markers of that interrupt, and finds `A_Task_SA` blocked. -/
theorem interruptResponse_settles {K : Type} (Z : Zephyr K Thread Object Empty EntryFn) :
    Ends (run (B := B) cfg Z) (AtVerdict cfg) ∧ ∀ n, Good cfg (run (B := B) cfg Z n) :=
  run_of_leads Z (fun _ _ _ _ => rfl) (run_leads cfg) (good_of_atVerdict cfg)

end ZephyrBench.Irt

/-
ZephyrBench.TaskSwitching.TestsTheorems — what the six tests have in common.

  * `taskSwitching_announces` — in every test a verdict is signalled only on
    complete series, it is the one on them, and it is signalled again and again.
  * `taskSwitching_samples` — at all times all samples of a scenario have one
    length, and at the end each series has as many as it should.

`Test` is a build of one of the tests, so each result is one statement about all
of them. `samplesA` is where they differ: in `sem_block` the gives of S_A go
round among the dummy tasks.

## How the proofs go

The verdict needs no execution. The code of `I_Task` up to its last loop signals
nothing (`QuietControl`), the other tasks neither signal nor create anything
(`Background`), and both are read off the text, one case per test. With the end
of the run, which each test has proved, this is all that `announces_of_endsIn`
asks for. `Background` also says that these tasks remove no task and initialise
no object, which `LifetimesTheorems` needs of the same code.

A sample of S_A spans one kernel call and one task switch, a sample of S_B one
kernel call: that is what `Good` says of each test, so its windows have the
lengths `sampleLength`, and `Timed.run` carries them into the series.
-/
import ZephyrBench.Rtos.Lifetimes
import ZephyrBench.Samples
import ZephyrBench.TaskSwitching.EventBlockTheorems
import ZephyrBench.TaskSwitching.EventPreemptTheorems
import ZephyrBench.TaskSwitching.SemBlockTheorems
import ZephyrBench.TaskSwitching.SemPreemptTheorems
import ZephyrBench.TaskSwitching.TaskChangeTheorems
import ZephyrBench.TaskSwitching.TaskPreemptTheorems
import ZephyrBench.VerdictTheorems

namespace ZephyrBench.TaskSwitching

open Rtos Rtos.Exec Thread Object Series Marker

/-! ## 1. The tests -/

/-- A build of one of the task switching tests. -/
inductive Test
  | taskChange (cfg : TaskChange.Config)
  | taskPreempt (cfg : TaskPreempt.Config)
  | eventBlock (cfg : EventBlock.Config)
  | eventPreempt (cfg : EventPreempt.Config)
  | semBlock (cfg : SemBlock.Config)
  | semPreempt (cfg : SemPreempt.Config)

namespace Test

def EntryFn : Test → Type
  | .taskChange _ => TaskChange.EntryFn
  | .taskPreempt _ => TaskPreempt.EntryFn
  | .eventBlock _ => EventBlock.EntryFn
  | .eventPreempt _ => EventPreempt.EntryFn
  | .semBlock _ => SemBlock.EntryFn
  | .semPreempt _ => SemPreempt.EntryFn

def iTask : (T : Test) → T.EntryFn
  | .taskChange _ => TaskChange.EntryFn.iTask
  | .taskPreempt _ => TaskPreempt.EntryFn.iTask
  | .eventBlock _ => EventBlock.EntryFn.iTask
  | .eventPreempt _ => EventPreempt.EntryFn.iTask
  | .semBlock _ => SemBlock.EntryFn.iTask
  | .semPreempt _ => SemPreempt.EntryFn.iTask

def body (B : Bmth) : (T : Test) → T.EntryFn → Code B T.EntryFn
  | .taskChange cfg => TaskChange.body cfg
  | .taskPreempt cfg => TaskPreempt.body cfg
  | .eventBlock cfg => EventBlock.body cfg
  | .eventPreempt cfg => EventPreempt.body cfg
  | .semBlock cfg => SemBlock.body cfg
  | .semPreempt cfg => SemPreempt.body cfg

/-- The number of samples of S_B. -/
def samplesB : Test → Nat
  | .taskChange cfg => cfg.measurementCount
  | .taskPreempt cfg => cfg.measurementCount
  | .eventBlock cfg => cfg.measurementCount
  | .eventPreempt cfg => cfg.measurementCount
  | .semBlock cfg => cfg.measurementCount
  | .semPreempt cfg => cfg.measurementCount

/-- The number of samples of S_A. In `sem_block` a dummy task has the priority
of `H_Task_SA`, and the gives go round among them. -/
def samplesA : Test → Nat
  | .semBlock cfg => cfg.measurementCount / (cfg.dummyCount + 1)
  | T => T.samplesB

variable (B : Bmth) {K : Type}

/-- The series are complete. -/
def Complete (T : Test) (σ : Series → B.Series) : Prop :=
  B.iterationCount (σ scenarioA) = T.samplesA ∧ B.iterationCount (σ scenarioB) = T.samplesB

/-- The run of a test. -/
def run (T : Test) (Z : Zephyr K Thread Object Empty T.EntryFn) (n : Nat) :
    TestState B T.EntryFn :=
  TaskSwitching.run Z (T.body B) T.iTask n

variable {B}

theorem ends (T : Test) (Z : Zephyr K Thread Object Empty T.EntryFn) :
    Ends (T.run B Z) (Settled idleThread outliers fun _ => T.Complete B) := by
  cases T with
  | taskChange cfg =>
    exact (run_of_leads Z (TaskChange.run_leads cfg) (TaskChange.good_of_atVerdict cfg)).1
  | taskPreempt cfg =>
    have h := (run_of_leads Z (TaskPreempt.run_leads (B := B) cfg)
      (TaskPreempt.good_of_final cfg)).1
    obtain ⟨n, hn⟩ := h
    exact ⟨n, fun m hm => (hn m hm).imp fun _ _ h => h.2.2⟩
  | eventBlock cfg =>
    exact (run_of_leads Z (EventBlock.run_leads cfg) (EventBlock.good_of_atVerdict cfg)).1
  | eventPreempt cfg =>
    exact (run_of_leads Z (EventPreempt.run_leads cfg) (EventPreempt.good_of_atVerdict cfg)).1
  | semBlock cfg =>
    exact (run_of_leads Z (SemBlock.run_leads cfg) (SemBlock.good_of_atVerdict cfg)).1
  | semPreempt cfg =>
    exact (run_of_leads Z (SemPreempt.run_leads cfg) (SemPreempt.good_of_atVerdict cfg)).1

end Test

/-! ## 2. The verdict -/

section Verdict

variable {B : Bmth} {F : Type} {main : F} {body : F → Code B F}

/-- No statement of `I_Task` up to its last loop signals a verdict or creates
`I_Task` again. -/
abbrev QuietControl (main : F) (code : Code B F) : Prop :=
  ConfinedUntil (Spares idleThread main) Prim.Silent verdictLoop code

/-- The code of the other tasks signals no verdict, creates and removes no task
and initialises no object. -/
abbrev Background (code : Code B F) : Prop := Confined SteadyCall Prim.Silent code

theorem endsIn_of_background (hmain : QuietControl main (body main))
    (hothers : ∀ f, f ≠ main → Background (body f)) :
    EndsIn (program body) idleThread main Prim.Silent Mem.Open verdictLoop where
  control := hmain
  others f hf := (hothers f hf).spares
  isr q hq := absurd hq List.not_mem_nil
  keeps q hq now ret mem hmem := hq.keeps (fun _ _ _ _ => rfl)
    (fun w _ _ => by cases w; rfl) hmem

end Verdict

section Background

variable {B : Bmth}

attribute [local simp] Prim.Silent SteadyCall Call.Steady Call.isInit waitOnMask

theorem TaskChange.others (cfg : TaskChange.Config) (f : EntryFn) (hf : f ≠ .iTask) :
    Background (body (B := B) cfg f) := by
  cases f with
  | iTask => exact absurd rfl hf
  | lTaskSA => simp [body, lTaskSA, lTaskSALoop]
  | hTaskSA =>
    by_cases hd : cfg.dummyCount = 0 <;> simp [body, hTaskSA, hTaskSALoop, hTaskSAClose, hd]
  | taskSB => simp [body, taskSB, taskSBLoop]
  | dummyTask => simp [body, dummyTask, dummyTaskLoop]

theorem TaskPreempt.others (cfg : TaskPreempt.Config) (f : EntryFn) (hf : f ≠ .iTask) :
    Background (body (B := B) cfg f) := by
  cases f with
  | iTask => exact absurd rfl hf
  | lTaskSA => simp [body, lTaskSA, lTaskSALoop]
  | hTaskSA => simp [body, hTaskSA, hTaskSALoop]
  | taskSB => simp [body, taskSB, taskSBLoop, taskSBSample, resumeDummies, suspendDummies]
  | dummyTaskB => simp [body, dummyTaskB]

theorem EventBlock.others (cfg : EventBlock.Config) (f : EntryFn) (hf : f ≠ .iTask) :
    Background (body (B := B) cfg f) := by
  cases f with
  | iTask => exact absurd rfl hf
  | lTaskSA => simp [body, lTaskSA, lTaskSALoop]
  | hTaskSA => simp [body, hTaskSA, hTaskSALoop]
  | hTaskSB => simp [body, hTaskSB, hTaskSBLoop]
  | dummyTask => simp [body, dummyTask, dummyTaskLoop]

theorem EventPreempt.others (cfg : EventPreempt.Config) (f : EntryFn) (hf : f ≠ .iTask) :
    Background (body (B := B) cfg f) := by
  cases f with
  | iTask => exact absurd rfl hf
  | lTaskSA => simp [body, lTaskSA, lTaskSALoop]
  | hTaskSA => simp [body, hTaskSA, hTaskSALoop]
  | hTaskSB =>
    cases hw : cfg.testSbHasWaiter <;> simp [body, hTaskSB, hTaskSBLoop, hTaskSBSample, hw]
  | lTaskSB => cases hw : cfg.testSbHasWaiter <;> simp [body, lTaskSB, lTaskSBLoop, hw]
  | dummyTask => simp [body, dummyTask]

theorem SemBlock.others (cfg : SemBlock.Config) (f : EntryFn) (hf : f ≠ .iTask) :
    Background (body (B := B) cfg f) := by
  cases f with
  | iTask => exact absurd rfl hf
  | lTaskSA => simp [body, lTaskSA, lTaskSALoop]
  | hTaskSA => simp [body, hTaskSA, hTaskSALoop]
  | hTaskSB => simp [body, hTaskSB, hTaskSBLoop]
  | dummyTask => simp [body, dummyTask, dummyTaskLoop]

theorem SemPreempt.others (cfg : SemPreempt.Config) (f : EntryFn) (hf : f ≠ .iTask) :
    Background (body (B := B) cfg f) := by
  cases f with
  | iTask => exact absurd rfl hf
  | lTaskSA => simp [body, lTaskSA, lTaskSALoop]
  | hTaskSA => simp [body, hTaskSA, hTaskSALoop]
  | hTaskSB =>
    cases hw : cfg.testSbHasWaiter <;> simp [body, hTaskSB, hTaskSBLoop, hTaskSBSample, hw]
  | lTaskSB => cases hw : cfg.testSbHasWaiter <;> simp [body, lTaskSB, lTaskSBLoop, hw]
  | dummyTask => simp [body, dummyTask, takeTestSem]

/-- The tasks besides `I_Task`, in every test. -/
theorem Test.others (T : Test) : ∀ f, f ≠ T.iTask → Background (T.body B f) := by
  cases T with
  | taskChange cfg => exact TaskChange.others cfg
  | taskPreempt cfg => exact TaskPreempt.others cfg
  | eventBlock cfg => exact EventBlock.others cfg
  | eventPreempt cfg => exact EventPreempt.others cfg
  | semBlock cfg => exact SemBlock.others cfg
  | semPreempt cfg => exact SemPreempt.others cfg

end Background

section Control

variable {B : Bmth}

attribute [local simp] Spares Prim.Silent createDummies abortDummies

theorem TaskChange.quietControl (cfg : TaskChange.Config) :
    QuietControl EntryFn.iTask (iTask (B := B) cfg) :=
  .append (by simp) (.cons (by simp) (.append (by simp) .nil))

theorem TaskPreempt.quietControl (cfg : TaskPreempt.Config) :
    QuietControl EntryFn.iTask (iTask (B := B) cfg) :=
  .append (by simp) (.append (by simp) .nil)

theorem EventBlock.quietControl (cfg : EventBlock.Config) :
    QuietControl EntryFn.iTask (iTask (B := B) cfg) :=
  .append (by simp) (.append (by simp [iTaskLoopSA]) (.append (by simp [iTaskLoopSB]) .nil))

theorem EventPreempt.quietControl (cfg : EventPreempt.Config) :
    QuietControl EntryFn.iTask (iTask (B := B) cfg) :=
  .append (by simp) (.append (by simp [iTaskLoopSA]) (.append (by simp)
    (.append (by simp [iTaskLoopSB]) .nil)))

theorem SemBlock.quietControl (cfg : SemBlock.Config) :
    QuietControl EntryFn.iTask (iTask (B := B) cfg) :=
  .append (by simp) (.append (by simp [iTaskLoopSA]) (.append (by simp [iTaskLoopSB]) .nil))

theorem SemPreempt.quietControl (cfg : SemPreempt.Config) :
    QuietControl EntryFn.iTask (iTask (B := B) cfg) :=
  .append (by simp) (.append (by simp [iTaskLoopSA]) (.append (by simp)
    (.append (by simp [iTaskLoopSB]) .nil)))

theorem Test.quietControl (T : Test) : QuietControl T.iTask (T.body B T.iTask) := by
  cases T with
  | taskChange cfg => exact TaskChange.quietControl cfg
  | taskPreempt cfg => exact TaskPreempt.quietControl cfg
  | eventBlock cfg => exact EventBlock.quietControl cfg
  | eventPreempt cfg => exact EventPreempt.quietControl cfg
  | semBlock cfg => exact SemBlock.quietControl cfg
  | semPreempt cfg => exact SemPreempt.quietControl cfg

end Control

variable {B : Bmth} {K : Type}

/-- In every test a verdict is signalled only on complete series, it is the one
on them, and from some point on it is signalled again and again. -/
theorem taskSwitching_announces (T : Test) (Z : Zephyr K Thread Object Empty T.EntryFn) :
    Announces idleThread outliers (fun _ => T.Complete B) (T.run B Z) :=
  announces_of_endsIn (program_prim _) Z (fun _ _ => rfl) rfl
    (endsIn_of_background T.quietControl T.others) (T.ends Z)

/-! ## 3. The samples -/

/-- The length of a sample of S_A: the measured call, the task switch, the stop
marker. A sample of S_B is shorter by the switch. -/
def sampleLength : Series → Nat
  | scenarioA => 3
  | scenarioB => 2

theorem TaskChange.timed {cfg : TaskChange.Config} {s : TestState B EntryFn} (h : Good cfg s) :
    Timed sampleLength s := by
  refine timed_of_windows (fun _ => h) fun t m start stop sig hst hopen => ?_
  cases m with
  | scenarioA => exact ⟨windowSA, hst.2.2, rfl⟩
  | scenarioB => exact ⟨windowSB, hst.2.2, rfl⟩

theorem TaskPreempt.timed {cfg : TaskPreempt.Config} {s : TestState B EntryFn} (h : Good cfg s) :
    Timed sampleLength s := by
  refine timed_of_windows (fun _ => h) fun t m start stop sig hst hopen => ?_
  cases m with
  | scenarioA => exact ⟨windowSA, hst.2.2.2.2, rfl⟩
  | scenarioB => exact ⟨windowSB, hst.2.2.2, rfl⟩

theorem EventBlock.timed {cfg : EventBlock.Config} {s : TestState B EntryFn} (h : Good cfg s) :
    Timed sampleLength s := by
  refine timed_of_windows (fun _ => h) fun t m start stop sig hst hopen => ?_
  cases m with
  | scenarioA => exact ⟨windowSA, hst.2 hopen, rfl⟩
  | scenarioB => exact ⟨windowSB, hst.2.2, rfl⟩

theorem EventPreempt.timed {cfg : EventPreempt.Config} {s : TestState B EntryFn}
    (h : Good cfg s) : Timed sampleLength s := by
  refine timed_of_windows (fun _ => h) fun t m start stop sig hst hopen => ?_
  cases m with
  | scenarioA => exact ⟨windowSA, hst.2.2, rfl⟩
  | scenarioB => exact ⟨windowSB, hst.2.2, rfl⟩

theorem SemBlock.timed {cfg : SemBlock.Config} {s : TestState B EntryFn} (h : Good cfg s) :
    Timed sampleLength s := by
  refine timed_of_windows (fun _ => h) fun t m start stop sig hst hopen => ?_
  cases m with
  | scenarioA => exact ⟨windowSA, hst.2 hopen, rfl⟩
  | scenarioB => exact ⟨windowSB, hst.2.2, rfl⟩

theorem SemPreempt.timed {cfg : SemPreempt.Config} {s : TestState B EntryFn} (h : Good cfg s) :
    Timed sampleLength s := by
  refine timed_of_windows (fun _ => h) fun t m start stop sig hst hopen => ?_
  cases m with
  | scenarioA => exact ⟨windowSA, hst.2.2, rfl⟩
  | scenarioB => exact ⟨windowSB, hst.2.2.1, rfl⟩

namespace Test

theorem timed (T : Test) (Z : Zephyr K Thread Object Empty T.EntryFn) (n : Nat) :
    Timed sampleLength (T.run B Z n) := by
  cases T with
  | taskChange cfg =>
    exact TaskChange.timed
      ((run_of_leads Z (TaskChange.run_leads cfg) (TaskChange.good_of_atVerdict cfg)).2 n)
  | taskPreempt cfg =>
    exact TaskPreempt.timed
      ((run_of_leads Z (TaskPreempt.run_leads cfg) (TaskPreempt.good_of_final cfg)).2 n)
  | eventBlock cfg =>
    exact EventBlock.timed
      ((run_of_leads Z (EventBlock.run_leads cfg) (EventBlock.good_of_atVerdict cfg)).2 n)
  | eventPreempt cfg =>
    exact EventPreempt.timed
      ((run_of_leads Z (EventPreempt.run_leads cfg) (EventPreempt.good_of_atVerdict cfg)).2 n)
  | semBlock cfg =>
    exact SemBlock.timed
      ((run_of_leads Z (SemBlock.run_leads cfg) (SemBlock.good_of_atVerdict cfg)).2 n)
  | semPreempt cfg =>
    exact SemPreempt.timed
      ((run_of_leads Z (SemPreempt.run_leads cfg) (SemPreempt.good_of_atVerdict cfg)).2 n)

end Test

/-- In every test, at all times, the samples of S_A span the measured call and
one task switch, those of S_B the measured call alone; and the verdict is on
series with all samples. -/
theorem taskSwitching_samples (T : Test) (Z : Zephyr K Thread Object Empty T.EntryFn) :
    (∀ n, (T.run B Z n).mem.Uniform sampleLength) ∧
      Ends (T.run B Z) fun s => Fed (List.replicate T.samplesA 3) (s.mem.series scenarioA) ∧
        Fed (List.replicate T.samplesB 2) (s.mem.series scenarioB) := by
  have huniform : ∀ n, (T.run B Z n).mem.Uniform sampleLength := by
    refine Timed.run ?_ (program_prim (T.body B)) ?_ ?_ ?_ (T.timed Z)
    · intro w ret mem
      cases w
      rfl
    · exact fun q hq => absurd hq List.not_mem_nil
    · exact fun n => run_view_succ Z ..
    · exact Mem.Uniform.initial sampleLength readWindow (⟨0⟩ : Vars)
  refine ⟨huniform, ?_⟩
  obtain ⟨n, hn⟩ := T.ends (B := B) Z
  refine ⟨n, fun m hm => ?_⟩
  obtain ⟨hA, hB⟩ := (hn m hm).rest
  exact ⟨(huniform m).fed hA, (huniform m).fed hB⟩

end ZephyrBench.TaskSwitching

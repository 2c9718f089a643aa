/-
ZephyrBench.TaskSwitching.LifetimesTheorems — which tasks live while a task
switching test runs.

`taskSwitching_lifetimes`: at all times `I_Task` creates only a task that does
not live and removes and resumes only one that does, no other task creates or
removes any, and all living tasks take part in one scenario (`OneScenario`).

## How the proof goes

`I_Task` alone creates and removes tasks. Its code is walked through with the
list of the living ones (`Orderly`): the loop over the dummy tasks adds them one
by one, the loop at the end of S_A takes them out again, and the tasks of S_B are
created when none of S_A is left. Each of the six control tasks is such a walk,
put together from the same few steps (`orderly_createDummies`, `orderly_create`,
`orderly_abort`, `orderly_abortDummies`, `orderly_cycles`, `orderly_endSA`). The
other tasks are steady by `Test.others`.

How the tasks are scheduled does not matter, so nothing of the symbolic
executions is used and no condition on the priorities is needed. In
`task_preempt` `H_Task_SA` lives through both scenarios and counts as a task of
both.
-/
import ZephyrBench.TaskSwitching.TestsTheorems

namespace ZephyrBench.TaskSwitching

open Rtos Thread Object Series

variable {B : Bmth}

/-! ## 1. Scenarios -/

/-- The scenarios that a task takes part in. `H_Task_SA` of `task_preempt` stays
for S_B. -/
def Test.scenarios (T : Test) : Thread → List Series
  | idleThread => [scenarioA, scenarioB]
  | saHighPrioThread =>
    match T with
    | .taskPreempt _ => [scenarioA, scenarioB]
    | _ => [scenarioA]
  | saLowPrioThread | saDummyThreads _ => [scenarioA]
  | sbHighPrioThread | sbLowPrioThread | sbThread | sbDummyThreads _ => [scenarioB]

/-- The living tasks all take part in one scenario. -/
def Test.OneScenario (T : Test) (alive : Thread → Bool) : Prop :=
  ∃ m, ∀ u, alive u = true → m ∈ T.scenarios u

theorem Test.OneScenario.of_list {T : Test} {l : List Thread} (m : Series)
    (h : ∀ u ∈ l, m ∈ T.scenarios u) : T.OneScenario (among l) :=
  ⟨m, fun u hu => h u (among_eq_true.mp hu)⟩

/-! ## 2. The dummy tasks -/

/-- The dummy tasks from `lo` up to `hi`. -/
def dummyTasks (D : Nat → Thread) (lo hi : Nat) : List Thread := (List.range' lo (hi - lo)).map D

@[simp] theorem mem_dummyTasks {D : Nat → Thread} {lo hi : Nat} {u : Thread} :
    u ∈ dummyTasks D lo hi ↔ ∃ i, lo ≤ i ∧ i < hi ∧ D i = u := by
  simp only [dummyTasks, List.mem_map, List.mem_range'_1]
  refine exists_congr fun i => ?_
  constructor
  · rintro ⟨hi, rfl⟩
    exact ⟨hi.1, by omega, rfl⟩
  · rintro ⟨hlo, hhi, rfl⟩
    exact ⟨by omega, rfl⟩

section Dummies

variable {T : Test} {F : Type} {main dummyTask : F} {D : Nat → Thread} {prios : Nat → Nat}
  {d : Nat} {l : List Thread} {rest : Code B F}

theorem Test.OneScenario.of_dummyTasks {lo hi : Nat} (m : Series) (hD : ∀ i, m ∈ T.scenarios (D i))
    (h : ∀ u ∈ l, m ∈ T.scenarios u) : T.OneScenario (among (dummyTasks D lo hi ++ l)) := by
  refine .of_list m fun u hu => ?_
  rcases List.mem_append.mp hu with hu | hu
  · obtain ⟨i, -, -, rfl⟩ := mem_dummyTasks.mp hu
    exact hD i
  · exact h u hu

/-- The loop that creates the dummy tasks. -/
theorem orderly_createDummies (m : Series) (hD : D.Injective) (hidle : ∀ i, D i ≠ idleThread)
    (hentry : dummyTask ≠ main) (hdead : ∀ i, D i ∉ l) (hm : ∀ i, m ∈ T.scenarios (D i))
    (hl : ∀ u ∈ l, m ∈ T.scenarios u)
    (hrest : Orderly idleThread main T.OneScenario (among (dummyTasks D 0 d ++ l)) rest) :
    Orderly idleThread main T.OneScenario (among l)
      (createDummies D dummyTask prios d 0 :: rest) := by
  refine .forUp (fun j => among (dummyTasks D 0 j ++ l)) d (fun _ => rfl) (Nat.zero_le d) ?_ hrest
  intro j _ code hcode
  refine .create _ (hidle j) hentry ?_ (fun u => ?_) (.of_dummyTasks m hm hl) hcode
  · simp [hdead, hD.eq_iff]
  · grind [mem_dummyTasks]

/-- A task created beside the dummy tasks. -/
theorem orderly_create {t : Thread} {entry : F} {prio : Nat} (m : Series) (ht : t ≠ idleThread)
    (hentry : entry ≠ main) (hdead : t ∉ dummyTasks D 0 d ++ l) (hm : ∀ i, m ∈ T.scenarios (D i))
    (hl : ∀ u ∈ t :: l, m ∈ T.scenarios u)
    (hrest : Orderly idleThread main T.OneScenario (among (dummyTasks D 0 d ++ t :: l)) rest) :
    Orderly idleThread main T.OneScenario (among (dummyTasks D 0 d ++ l))
      (kcall (.kThreadCreate t entry prio) :: rest) := by
  refine .create _ ht hentry hdead (fun u => ?_) (.of_dummyTasks m hm hl) hrest
  simp only [List.mem_append, List.mem_cons]
  tauto

/-- A task removed beside the dummy tasks. -/
theorem orderly_abort {t : Thread} (m : Series) (ht : t ≠ idleThread) (htD : ∀ i, D i ≠ t)
    (htl : t ∉ l) (hm : ∀ i, m ∈ T.scenarios (D i)) (hl : ∀ u ∈ l, m ∈ T.scenarios u)
    (hrest : Orderly idleThread main T.OneScenario (among (dummyTasks D 0 d ++ l)) rest) :
    Orderly idleThread main T.OneScenario (among (dummyTasks D 0 d ++ t :: l))
      (kcall (.kThreadAbort t) :: rest) := by
  refine .abort _ ht (by simp) (fun u => ?_) (.of_dummyTasks m hm hl) hrest
  grind [mem_dummyTasks]

/-- The loop that removes the dummy tasks of S_A. -/
theorem orderly_abortDummies (hdead : ∀ i, saDummyThreads i ∉ l)
    (hl : ∀ u ∈ l, scenarioA ∈ T.scenarios u)
    (hrest : Orderly idleThread main T.OneScenario (among l) rest) :
    Orderly idleThread main T.OneScenario (among (dummyTasks saDummyThreads 0 d ++ l))
      (abortDummies d 0 :: rest) := by
  refine .forUp (fun j => among (dummyTasks saDummyThreads j d ++ l)) d (fun _ => rfl)
    (Nat.zero_le d) ?_ ?_
  · intro j hj code hcode
    refine .abort _ (by simp) ?_ (fun u => ?_)
      (.of_dummyTasks scenarioA (by simp [Test.scenarios]) hl) hcode
    · simp [hj]
    · grind [mem_dummyTasks]
  · simpa [dummyTasks] using hrest

end Dummies

/-! ## 3. The control tasks -/

section Control

variable {T : Test} {F : Type} {main : F} {d : Nat} {l : List Thread} {rest : Code B F}

attribute [local simp] Call.Admissible Call.isInit Test.scenarios ZephyrBench.verdictLoop
  verdictBody

/-- A loop of `I_Task` over the iteration cycles of a scenario. -/
theorem orderly_cycles {t : Thread} (n : Nat) {cond : Nat → Bool}
    (hcond : ∀ j, cond j = decide (j < n)) (ht : t ∈ l)
    (hrest : Orderly idleThread main T.OneScenario (among l) rest) :
    Orderly idleThread main T.OneScenario (among l) (.forUp 0 cond (fun _ =>
      [ kcall (.kEventWaitSafe .testEvent signalizeYieldEventMask .forever),
        kcall (.kThreadResume t) ]) :: rest) := by
  refine .forUp (fun _ => among l) n hcond (Nat.zero_le n) (fun _ _ code hcode => ?_) hrest
  refine .keep (fun _ => rfl) (by simp) ?_
  exact .keep (fun _ => rfl) (by simp [ht]) hcode

/-- The end of S_A, where `L_Task_SA` goes first. -/
theorem orderly_endSA (hrest : Orderly idleThread main T.OneScenario (among [idleThread]) rest) :
    Orderly idleThread main T.OneScenario
      (among (dummyTasks saDummyThreads 0 d ++ [saLowPrioThread, saHighPrioThread, idleThread]))
      (kcall (.kThreadAbort .saLowPrioThread) :: kcall (.kThreadAbort .saHighPrioThread) ::
        abortDummies d 0 :: rest) := by
  have hhigh : scenarioA ∈ T.scenarios saHighPrioThread := by cases T <;> simp
  refine orderly_abort scenarioA (by simp) (by simp) (by simp) (by simp) (by simpa using hhigh) ?_
  refine orderly_abort scenarioA (by simp) (by simp) (by simp) (by simp) (by simp) ?_
  exact orderly_abortDummies (by simp) (by simp) hrest

theorem TaskChange.orderly (cfg : TaskChange.Config) :
    Orderly idleThread .iTask (Test.taskChange cfg).OneScenario (among [idleThread])
      (iTask (B := B) cfg) := by
  refine .keep (fun _ => rfl) (by simp) ?_
  refine .create [saLowPrioThread, idleThread] (by simp) (by simp) (by simp) (by simp)
    (.of_list scenarioA (by simp)) ?_
  refine .create [saHighPrioThread, saLowPrioThread, idleThread] (by simp) (by simp) (by simp)
    (by simp) (.of_list scenarioA (by simp)) ?_
  refine orderly_createDummies scenarioA (fun _ _ h => saDummyThreads.inj h) (by simp) (by simp)
    (by simp) (by simp) (by simp) ?_
  refine .keep (fun _ => rfl) (by simp) ?_
  refine orderly_abort scenarioA (by simp) (by simp) (by simp) (by simp) (by simp) ?_
  refine orderly_abort scenarioA (by simp) (by simp) (by simp) (by simp) (by simp) ?_
  refine orderly_abortDummies (by simp) (by simp) ?_
  refine .create [sbThread, idleThread] (by simp) (by simp) (by simp) (by simp)
    (.of_list scenarioB (by simp)) ?_
  exact .last (by simp)

theorem TaskPreempt.orderly (cfg : TaskPreempt.Config) :
    Orderly idleThread .iTask (Test.taskPreempt cfg).OneScenario (among [idleThread])
      (iTask (B := B) cfg) := by
  refine .keep (fun _ => rfl) (by simp) ?_
  refine .create [saHighPrioThread, idleThread] (by simp) (by simp) (by simp) (by simp)
    (.of_list scenarioA (by simp)) ?_
  refine .create [saLowPrioThread, saHighPrioThread, idleThread] (by simp) (by simp) (by simp)
    (by simp) (.of_list scenarioA (by simp)) ?_
  refine .keep (fun _ => rfl) (by simp) ?_
  -- `H_Task_SA` stays for S_B
  refine .abort [saHighPrioThread, idleThread] (by simp) (by simp) (by grind)
    (.of_list scenarioB (by simp)) ?_
  refine orderly_createDummies scenarioB (fun _ _ h => sbDummyThreads.inj h) (by simp) (by simp)
    (by simp) (by simp) (by simp) ?_
  refine orderly_create scenarioB (by simp) (by simp) (by simp) (by simp) (by simp) ?_
  exact .last (by simp)

theorem EventBlock.orderly (cfg : EventBlock.Config) :
    Orderly idleThread .iTask (Test.eventBlock cfg).OneScenario (among [idleThread])
      (iTask (B := B) cfg) := by
  refine .keep (fun _ => rfl) (by simp) (.prim ?_)
  refine orderly_createDummies scenarioA (fun _ _ h => saDummyThreads.inj h) (by simp) (by simp)
    (by simp) (by simp) (by simp) ?_
  refine orderly_create scenarioA (by simp) (by simp) (by simp) (by simp) (by simp) ?_
  refine orderly_create scenarioA (by simp) (by simp) (by simp) (by simp) (by simp) ?_
  refine .keep (fun _ => rfl) (by simp) ?_
  refine orderly_cycles cfg.measurementCount (fun j => ?_) (by simp) (orderly_endSA ?_)
  · have hN := cfg.one_le_measurementCount
    exact decide_eq_decide.mpr (by omega)
  refine .keep (fun _ => rfl) (by simp) ?_
  refine .create [sbHighPrioThread, idleThread] (by simp) (by simp) (by simp) (by simp)
    (.of_list scenarioB (by simp)) ?_
  refine .keep (fun _ => rfl) (by simp) ?_
  refine orderly_cycles (cfg.measurementCount - 1) (fun _ => rfl) (by simp) ?_
  exact .last (by simp)

theorem EventPreempt.orderly (cfg : EventPreempt.Config) :
    Orderly idleThread .iTask (Test.eventPreempt cfg).OneScenario (among [idleThread])
      (iTask (B := B) cfg) := by
  refine .keep (fun _ => rfl) (by simp) ?_
  refine .create [saHighPrioThread, idleThread] (by simp) (by simp) (by simp) (by simp)
    (.of_list scenarioA (by simp)) (.prim ?_)
  refine orderly_createDummies scenarioA (fun _ _ h => saDummyThreads.inj h) (by simp) (by simp)
    (by simp) (by simp) (by simp) ?_
  refine orderly_create scenarioA (by simp) (by simp) (by simp) (by simp) (by simp) ?_
  refine orderly_cycles (cfg.measurementCount - 1) (fun _ => rfl) (by simp) (orderly_endSA ?_)
  refine .create [sbHighPrioThread, idleThread] (by simp) (by simp) (by simp) (by simp)
    (.of_list scenarioB (by simp)) (.prim ?_)
  refine orderly_createDummies scenarioB (fun _ _ h => sbDummyThreads.inj h) (by simp) (by simp)
    (by simp) (by simp) (by simp) ?_
  refine orderly_create scenarioB (by simp) (by simp) (by simp) (by simp) (by simp) ?_
  refine orderly_cycles cfg.measurementCount (fun j => ?_) (by simp) ?_
  · have hN := cfg.one_le_measurementCount
    exact decide_eq_decide.mpr (by omega)
  refine orderly_abort scenarioB (by simp) (by simp) (by simp) (by simp) (by simp) ?_
  refine orderly_abort scenarioB (by simp) (by simp) (by simp) (by simp) (by simp) ?_
  exact .last (by simp)

theorem SemBlock.orderly (cfg : SemBlock.Config) :
    Orderly idleThread .iTask (Test.semBlock cfg).OneScenario (among [idleThread])
      (iTask (B := B) cfg) := by
  refine .keep (fun _ => rfl) (by simp) ?_
  refine .keep (fun _ => rfl) (by simp) ?_
  refine orderly_createDummies scenarioA (fun _ _ h => saDummyThreads.inj h) (by simp) (by simp)
    (by simp) (by simp) (by simp) ?_
  refine orderly_create scenarioA (by simp) (by simp) (by simp) (by simp) (by simp) ?_
  refine orderly_create scenarioA (by simp) (by simp) (by simp) (by simp) (by simp) ?_
  refine .keep (fun _ => rfl) (by simp) ?_
  refine orderly_cycles cfg.measurementCount (fun j => ?_) (by simp) (orderly_endSA ?_)
  · have hN := cfg.one_le_measurementCount
    exact decide_eq_decide.mpr (by omega)
  refine .keep (fun _ => rfl) (by simp) ?_
  refine .create [sbHighPrioThread, idleThread] (by simp) (by simp) (by simp) (by simp)
    (.of_list scenarioB (by simp)) ?_
  refine .keep (fun _ => rfl) (by simp) ?_
  -- a pass of S_B also resets the semaphore
  refine .forUp (fun _ => among [sbHighPrioThread, idleThread]) (cfg.measurementCount - 1)
    (fun _ => rfl) (Nat.zero_le _) (fun _ _ code hcode => ?_) ?_
  · refine .keep (fun _ => rfl) (by simp) ?_
    refine .keep (fun _ => rfl) (by simp) ?_
    exact .keep (fun _ => rfl) (by simp) hcode
  exact .last (by simp)

theorem SemPreempt.orderly (cfg : SemPreempt.Config) :
    Orderly idleThread .iTask (Test.semPreempt cfg).OneScenario (among [idleThread])
      (iTask (B := B) cfg) := by
  refine .keep (fun _ => rfl) (by simp) ?_
  refine .keep (fun _ => rfl) (by simp) ?_
  refine .create [saHighPrioThread, idleThread] (by simp) (by simp) (by simp) (by simp)
    (.of_list scenarioA (by simp)) ?_
  refine orderly_createDummies scenarioA (fun _ _ h => saDummyThreads.inj h) (by simp) (by simp)
    (by simp) (by simp) (by simp) ?_
  refine orderly_create scenarioA (by simp) (by simp) (by simp) (by simp) (by simp) ?_
  refine orderly_cycles (cfg.measurementCount - 1) (fun _ => rfl) (by simp) (orderly_endSA ?_)
  refine .keep (fun _ => rfl) (by simp) ?_
  refine .create [sbHighPrioThread, idleThread] (by simp) (by simp) (by simp) (by simp)
    (.of_list scenarioB (by simp)) ?_
  refine .create [sbLowPrioThread, sbHighPrioThread, idleThread] (by simp) (by simp) (by simp)
    (by simp) (.of_list scenarioB (by simp)) ?_
  refine orderly_createDummies scenarioB (fun _ _ h => sbDummyThreads.inj h) (by simp) (by simp)
    (by simp) (by simp) (by simp) ?_
  refine orderly_cycles cfg.measurementCount (fun j => ?_) (by simp) ?_
  · have hN := cfg.one_le_measurementCount
    exact decide_eq_decide.mpr (by omega)
  refine orderly_abort scenarioB (by simp) (by simp) (by simp) (by simp) (by simp) ?_
  refine orderly_abort scenarioB (by simp) (by simp) (by simp) (by simp) (by simp) ?_
  exact .last (by simp)

end Control

/-! ## 4. Runs -/

variable {K : Type}

theorem Test.controlledBy (T : Test) : ControlledBy (program (T.body B)) T.iTask where
  others f hf := (T.others f hf).steadyCode
  isr _ hc := absurd hc List.not_mem_nil

theorem Test.orderly (T : Test) :
    Orderly idleThread T.iTask T.OneScenario (among [idleThread]) (T.body B T.iTask) := by
  cases T with
  | taskChange cfg => exact TaskChange.orderly cfg
  | taskPreempt cfg => exact TaskPreempt.orderly cfg
  | eventBlock cfg => exact EventBlock.orderly cfg
  | eventPreempt cfg => exact EventPreempt.orderly cfg
  | semBlock cfg => exact SemBlock.orderly cfg
  | semPreempt cfg => exact SemPreempt.orderly cfg

/-- In every test, at all times: `I_Task` creates only a task that does not live,
removes and resumes only one that does, and initialises an object only while no
other task lives; the other tasks create and remove none and initialise nothing;
and the living tasks all take part in one scenario. -/
theorem taskSwitching_lifetimes (T : Test) (Z : Zephyr K Thread Object Empty T.EntryFn) (n : Nat) :
    (T.run B Z n).AtStmt (LifeStmt idleThread T.iTask (T.run B Z n)) ∧
      T.OneScenario (T.run B Z n).kern.alive := by
  have hboot : T.OneScenario (among [idleThread]) := .of_list scenarioA (by simp [Test.scenarios])
  have hrun : Controlled idleThread T.iTask T.OneScenario (T.run B Z n) :=
    Controlled.run Z T.controlledBy T.orderly hboot ..
  exact ⟨hrun.atStmt, hrun.lives⟩

end ZephyrBench.TaskSwitching

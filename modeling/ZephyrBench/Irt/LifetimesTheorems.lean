/-
ZephyrBench.Irt.LifetimesTheorems — which tasks live while the interrupt
response test runs.

`interruptResponse_lifetimes`: in every build, at all times, `I_Task` creates
only a task that does not live, removes only one that does, and initialises an
object only while no other task lives; the living tasks are of one scenario.

`I_Task` creates `A_Task_SA` and removes it in the builds that have it, the other
tasks in all builds, so its code is walked through in both cases of
`SA_RELEASE` (`orderly_iTask`). Neither the other tasks nor the handler create or
remove a task, so it does not matter when the interrupt comes
(`program_controlledBy`).
-/
import ZephyrBench.Irt.SamplesTheorems

namespace ZephyrBench.Irt

open Rtos Thread Object Series

variable {B : Bmth} (cfg : Config)

/-- The tasks of a scenario, with `I_Task`; `A_Task_SA` only in the builds that
have it. -/
def tasksOf : Series → List Thread
  | scenarioA =>
    if cfg.saRelease = .none then [saLowPrioThread, idleThread]
    else [saLowPrioThread, saAperiodicThread, idleThread]
  | scenarioB => [sbThread, idleThread]

/-- The living tasks are all of one scenario. -/
def OneScenario (alive : Thread → Bool) : Prop := ∃ m, ∀ u, alive u = true → u ∈ tasksOf cfg m

theorem OneScenario.of_list {cfg : Config} {l : List Thread} (m : Series) (h : l ⊆ tasksOf cfg m) :
    OneScenario cfg (among l) :=
  ⟨m, fun _ hu => h (among_eq_true.mp hu)⟩

attribute [local simp] Call.Admissible Call.isInit SteadyCall Call.Steady tasksOf verdictLoop
  verdictBody

/-- `I_Task` once S_A is over. -/
theorem orderly_iTaskSB :
    Orderly idleThread .iTask (OneScenario cfg) (among [idleThread]) (iTaskSB (B := B)) := by
  refine .keep (fun _ => rfl) (by simp) ?_
  refine .keep (fun _ => rfl) (by simp) ?_
  refine .create [sbThread, idleThread] (by simp) (by simp) (by simp) (by simp)
    (.of_list scenarioB (by simp)) ?_
  refine .keep (fun _ => rfl) (by simp) ?_
  refine .keep (fun _ => rfl) (by simp) ?_
  refine .abort [idleThread] (by simp) (by simp) (by grind) (.of_list scenarioB (by simp)) ?_
  exact .last (by simp)

theorem orderly_iTask :
    Orderly idleThread .iTask (OneScenario cfg) (among [idleThread]) (iTask (B := B) cfg) := by
  refine .keep (fun _ => rfl) (by simp) ?_
  refine .keep (fun _ => rfl) (by simp) ?_
  refine .keep (fun _ => rfl) (by simp) ?_
  refine .keep (fun _ => rfl) (by simp) ?_
  by_cases hr : cfg.saRelease = .none
  · simp only [ifRelease, hr, if_true, List.append_nil, iTaskSA]
    refine .create [saLowPrioThread, idleThread] (by simp) (by simp) (by simp) (by simp)
      (.of_list scenarioA (by simp [hr])) ?_
    refine .keep (fun _ => rfl) (by simp) ?_
    refine .keep (fun _ => rfl) (by simp) ?_
    refine .abort [idleThread] (by simp) (by simp) (by grind) (.of_list scenarioA (by simp [hr])) ?_
    exact orderly_iTaskSB cfg
  · simp only [ifRelease, hr, if_false, iTaskSA]
    refine .create [saAperiodicThread, idleThread] (by simp) (by simp) (by simp) (by simp)
      (.of_list scenarioA (by simp [hr])) ?_
    refine .create [saLowPrioThread, saAperiodicThread, idleThread] (by simp) (by simp) (by simp)
      (by simp) (.of_list scenarioA (by simp [hr])) ?_
    refine .keep (fun _ => rfl) (by simp) ?_
    refine .keep (fun _ => rfl) (by simp) ?_
    refine .abort [saAperiodicThread, idleThread] (by simp) (by simp) (by grind)
      (.of_list scenarioA (by simp [hr])) ?_
    refine .abort [idleThread] (by simp) (by simp) (by grind) (.of_list scenarioA (by simp [hr])) ?_
    exact orderly_iTaskSB cfg

theorem program_controlledBy : ControlledBy (program (B := B) cfg) .iTask where
  others f hf := (program_others cfg f hf).steadyCode
  isr c hc := by
    cases h : cfg.saRelease <;> simp [program, testIsrBody, h] at hc <;> simp [hc]

/-- In every build, at all times: `I_Task` creates only a task that does not live,
removes only one that does, and initialises an object only while no other task
lives; the other tasks create and remove none and initialise nothing; and the
living tasks are all of one scenario. -/
theorem interruptResponse_lifetimes {K : Type} (Z : Zephyr K Thread Object Empty EntryFn)
    (n : Nat) :
    (run (B := B) cfg Z n).AtStmt (LifeStmt idleThread .iTask (run (B := B) cfg Z n)) ∧
      OneScenario cfg (run (B := B) cfg Z n).kern.alive := by
  have hboot : OneScenario cfg (among [idleThread]) := .of_list scenarioB (by simp)
  have hrun : Controlled idleThread .iTask (OneScenario cfg) (run (B := B) cfg Z n) :=
    Controlled.run Z (program_controlledBy cfg) (orderly_iTask cfg) hboot ..
  exact ⟨hrun.atStmt, hrun.lives⟩

end ZephyrBench.Irt

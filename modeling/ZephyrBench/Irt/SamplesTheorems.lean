/-
ZephyrBench.Irt.SamplesTheorems — the verdict and the samples of the interrupt
response test.

  * `interruptResponse_announces` — in each of the eight builds the verdict is
    signalled only on complete series, it is the one on them, and it is signalled
    again and again.
  * `interruptResponse_samples` — at all times all samples of a scenario have one
    length.

## How the proofs go

The verdict is a matter of the text. The handler and the tasks besides `I_Task`
signal nothing and create nothing (`program_others`), and `I_Task` signals in its
last loop only (`endsIn_verdictLoop`).

A sample of S_A with a release spans the trigger, the handler and the switch to
`A_Task_SA`; without one it ends in the handler. These are the windows of
`Good`, so their lengths are those of `sampleLength` (`timed_of_good`). The
lengths of the two scenarios are equal in the builds without release, in which
`A_Task_SA` does not take part.
-/
import ZephyrBench.Irt.InterruptResponseTheorems
import ZephyrBench.Rtos.Lifetimes
import ZephyrBench.Samples
import ZephyrBench.VerdictTheorems

namespace ZephyrBench.Irt

open Rtos Rtos.Exec Thread Object Series Marker

variable {B : Bmth} (cfg : Config)

/-! ## 1. The verdict -/

attribute [local simp] Spares Prim.Silent SteadyCall Call.Steady Call.isInit

/-- The tasks besides `I_Task` signal no verdict, create and remove no task and
initialise no object. -/
theorem program_others (f : EntryFn) (hf : f ≠ .iTask) :
    Confined SteadyCall Prim.Silent ((program (B := B) cfg).body f) := by
  cases f with
  | iTask => exact absurd rfl hf
  | aTaskSA => cases h : cfg.saRelease <;> simp [program, aTaskSALoop, aTaskSASample, h]
  | lTaskSA => simp [program, lTaskSA, lTaskSALoop, signalizeDone]
  | taskSB => simp [program, taskSB, taskSBLoop, signalizeDone]

theorem endsIn_verdictLoop : EndsIn (program (B := B) cfg) idleThread .iTask Prim.Silent Mem.Open
    (verdictLoop outliers) where
  control := by
    refine .append ?_ (.append ?_ (.append ?_ .nil))
    · cases h : cfg.saRelease <;> simp [ifRelease, h]
    · cases h : cfg.saRelease <;> simp [ifRelease, h]
    · simp
  others f hf := (program_others cfg f hf).spares
  isr q hq := by
    cases h : cfg.saRelease <;> simp [program, testIsrBody, h] at hq
    simp [hq]
  keeps q hq now ret mem hmem := hq.keeps (fun _ _ _ _ => rfl) nofun hmem

variable {K : Type} (Z : Zephyr K Thread Object Empty EntryFn)

theorem ends_verdict : Ends (run (B := B) cfg Z) (AtVerdict cfg) :=
  (run_of_leads Z (fun _ _ _ _ => rfl) (run_leads cfg) (good_of_atVerdict cfg)).1

/-- In every build the verdict is signalled only on complete series, it is the
one on them, and from some point on it is signalled again and again. -/
theorem interruptResponse_announces : Announces idleThread outliers
    (fun _ σ => B.iterationCount (σ scenarioA) = cfg.measurementCount ∧
      B.iterationCount (σ scenarioB) = cfg.measurementCount) (run (B := B) cfg Z) :=
  announces_of_endsIn (fun _ _ _ _ => rfl) Z (fun _ _ => rfl) rfl (endsIn_verdictLoop cfg)
    (ends_verdict cfg Z)

/-! ## 2. The samples -/

/-- The length of a sample of S_A: the trigger, the handler and, with a
release, the switch to `A_Task_SA` and its stop marker. The handler is kept from
the samples of S_B: the trigger and the stop marker. -/
def sampleLength : Series → Nat
  | scenarioA => if cfg.saRelease = .none then 2 else 4
  | scenarioB => 2

theorem timed_of_good {s : TestState B} (h : Good cfg s) : Timed (sampleLength cfg) s := by
  refine timed_of_windows (φ := GoodStmt cfg s) ?_ ?_
  · intro hirq
    have hstmt := h.2
    rwa [hirq] at hstmt
  · intro t m start stop sig hst hopen
    cases m with
    | scenarioA =>
      have hwindow : s.Window start stop (windowSA cfg) := by
        simp only [GoodStmt, hopen, if_true] at hst
        exact hst.2
      refine ⟨_, hwindow, ?_⟩
      by_cases hr : cfg.saRelease = .none <;> simp [windowSA, sampleLength, hr]
    | scenarioB => exact ⟨windowSB, hst.2.2, rfl⟩

/-- In every build, at all times, the samples of a scenario have one length;
and the verdict is on series with all samples. -/
theorem interruptResponse_samples :
    (∀ n, (run (B := B) cfg Z n).mem.Uniform (sampleLength cfg)) ∧
      Ends (run (B := B) cfg Z) fun s =>
        Fed (List.replicate cfg.measurementCount (sampleLength cfg scenarioA))
          (s.mem.series scenarioA) ∧
        Fed (List.replicate cfg.measurementCount 2) (s.mem.series scenarioB) := by
  have hgood : ∀ n, Good cfg (run (B := B) cfg Z n) :=
    (run_of_leads Z (fun _ _ _ _ => rfl) (run_leads cfg) (good_of_atVerdict cfg)).2
  have huniform : ∀ n, (run (B := B) cfg Z n).mem.Uniform (sampleLength cfg) := by
    refine Timed.run ?_ (fun _ _ _ _ => rfl) ?_ (fun n => run_view_succ Z ..) ?_
      fun n => timed_of_good cfg (hgood n)
    · exact fun w => w.elim
    · intro q hq m start stop sig
      cases h : cfg.saRelease <;> simp [program, testIsrBody, h] at hq
      simp [hq]
    · exact Mem.Uniform.initial _ readWindow ()
  refine ⟨huniform, ?_⟩
  obtain ⟨n, hn⟩ := ends_verdict (B := B) cfg Z
  refine ⟨n, fun m hm => ?_⟩
  obtain ⟨hA, hB⟩ := (hn m hm).rest
  exact ⟨(huniform m).fed hA, (huniform m).fed hB⟩

end ZephyrBench.Irt

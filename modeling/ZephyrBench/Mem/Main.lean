/-
ZephyrBench.Mem.Main — `I_Task` of the allocation tests, `mem_zephyr_main.c`.

The harness that makes the calls of an adapter and measures them is not part of
the repository. It is a parameter, with the state `S` of its own: what
`mem_harness_init()` and `mem_harness_run()` do to it, and the number of failures
that the second returns.

`mem_announces`: over any documented kernel and with any harness, nothing is
signalled before the harness has run; then the verdict is signalled again and
again, always the same one, and it is a success if and only if the harness has
returned no failure.

The control task has three statements and a loop that never ends, so the proof
follows it statement by statement (`mainRun_atStep`) and then stays in the loop
(`mainRun_judging`). Nothing preempts it, since there is no other thread.
-/
import ZephyrBench.VerdictTheorems

namespace ZephyrBench.Mem

open Rtos Rtos.Exec

/-- `mem_harness.h` -/
structure MemHarness (S : Type) where
  memHarnessInit : S → S
  memHarnessRun : S → BitVec 32 × S

/-- The control task, which nothing preempts. -/
inductive MainThread
  | idleThread
  deriving DecidableEq

def taskIdlePrio : Nat := 15

/-- The local variable of `I_Task`, and what the harness and
`BMTH_signalize_mseries_start()` leave. -/
structure MainVars (S : Type) where
  failures : BitVec 32
  harness : S
  mseriesStart : Bool

inductive MainAssign
  | memHarnessInit
  | signalizeMseriesStart
  | memHarnessRun
  deriving DecidableEq

section Program

variable (B : Bmth) {S K : Type} (H : MemHarness S)

abbrev MainMem (S : Type) := Mem B Empty Empty (MainVars S)

abbrev MainCode (S : Type) := List (BenchStmt B MainThread Empty Empty Unit Empty Empty
  (MainVars S) MainAssign)

variable {B}

def MainAssign.set (mem : MainMem B S) : MainAssign → MainMem B S
  | .memHarnessInit =>
    { mem with vars := { mem.vars with harness := H.memHarnessInit mem.vars.harness } }
  | .signalizeMseriesStart => { mem with vars := { mem.vars with mseriesStart := true } }
  | .memHarnessRun =>
    let r := H.memHarnessRun mem.vars.harness
    { mem with vars := { mem.vars with failures := r.1, harness := r.2 } }

/-- `failures != 0U` -/
def failed (mem : MainMem B S) : Bool := mem.vars.failures != 0

def iTask : MainCode B S :=
  [.prim (.assign .memHarnessInit), .prim (.assign .signalizeMseriesStart),
    .prim (.assign .memHarnessRun)] ++ verdictLoop failed

def mainProgram : Prog MainThread Empty Empty Unit (Prim Empty Empty MainAssign) (MainMem B S) where
  body _ := iTask
  prim q now ret mem := q.run (fun w _ mem => w.set H mem) now ret mem
  isr := []
  isrResched := false

/-- The data of the kernel at boot; the test hands none to it. -/
def noData : Data MainThread Empty where
  ret _ := none
  swap _ := .none
  buf := nofun
  msg := nofun
  asyncFree := 0

/-- The run from the start of `I_Task`. -/
def mainRun (Z : Zephyr K MainThread Empty Empty Unit) (harness : S) (n : Nat) :
    BenchState B MainThread Empty Empty Unit Empty Empty (MainVars S) MainAssign :=
  ((mainProgram H).run Z .idleThread taskIdlePrio () noData
    (.initial nofun ⟨0, harness, false⟩) n).view Z

end Program

/-! ## The verdict -/

variable {B : Bmth} {S K : Type} {H : MemHarness S}

@[simp] theorem mainProgram_prim (q : Prim Empty Empty MainAssign) (now : Nat) (ret : Option Empty)
    (mem : MainMem B S) :
    (mainProgram H).prim q now ret mem = q.run (fun w _ mem => w.set H mem) now ret mem := rfl

/-- The variables after the first `n` statements of the control task. -/
def varsAfter (H : MemHarness S) (harness : S) : Nat → MainVars S
  | 0 => ⟨0, harness, false⟩
  | 1 => ⟨0, H.memHarnessInit harness, false⟩
  | 2 => ⟨0, H.memHarnessInit harness, true⟩
  | _ =>
    let r := H.memHarnessRun (H.memHarnessInit harness)
    ⟨r.1, r.2, true⟩

/-- The control task has executed its first `n` statements. -/
structure AtStep (H : MemHarness S) (harness : S) (n : Nat)
    (s : BenchState B MainThread Empty Empty Unit Empty Empty (MainVars S) MainAssign) :
    Prop where
  irq : s.kern.irq = ⟨false, false, false⟩
  current : s.kern.current = some .idleThread
  code : s.code .idleThread = iTask.drop n
  silent : s.mem.mseriesStop = none
  vars : s.mem.vars = varsAfter H harness n

section Run

variable (Z : Zephyr K MainThread Empty Empty Unit) (harness : S)

theorem mainRun_succ (n : Nat) : mainRun (B := B) H Z harness (n + 1) =
    (mainProgram H).next (mainRun H Z harness n) := run_view_succ Z ..

theorem mainRun_atStep {n : Nat} (hn : n ≤ 3) :
    AtStep H harness n (mainRun (B := B) H Z harness n) := by
  induction n with
  | zero =>
    rw [mainRun, run_view]
    exact ⟨rfl, rfl, rfl, rfl, rfl⟩
  | succ n ih =>
    obtain ⟨hirq, hcurrent, hcode, hsilent, hvars⟩ := ih (by omega)
    have hcases : n = 0 ∨ n = 1 ∨ n = 2 := by omega
    rw [mainRun_succ]
    rcases hcases with rfl | rfl | rfl <;>
      refine ⟨?_, ?_, ?_, ?_, ?_⟩ <;>
        simp [*, iTask, Prim.run, MainAssign.set, varsAfter]

theorem mainRun_settled (n : Nat) :
    Settled .idleThread failed (fun _ _ => True) (mainRun (B := B) H Z harness (3 + n)) := by
  induction n with
  | zero =>
    obtain ⟨hirq, hcurrent, hcode, -, -⟩ :=
      mainRun_atStep (B := B) (H := H) Z harness (Nat.le_refl 3)
    have hverdict : VerdictCode failed ((mainRun (B := B) H Z harness 3).code .idleThread) := by
      rw [hcode]
      exact .head
    exact ⟨hcurrent, by rw [hirq], hverdict, trivial⟩
  | succ n ih =>
    rw [Nat.add_succ, mainRun_succ]
    exact ih.next fun _ _ _ _ => rfl

theorem mainRun_atLast :
    AtLast .idleThread (verdictLoop failed) (mainRun (B := B) H Z harness 3) := by
  obtain ⟨hirq, hcurrent, hcode, -, -⟩ := mainRun_atStep (B := B) (H := H) Z harness (Nat.le_refl 3)
  exact ⟨by rw [hirq]; rfl, hcurrent, hcode⟩

/-- From its last loop on, the variables are what the harness left. -/
theorem mainRun_judging (n : Nat) :
    Judging .idleThread failed (mainRun (B := B) H Z harness (4 + n)) ∧
      (mainRun (B := B) H Z harness (4 + n)).mem.vars = varsAfter H harness 3 := by
  have hlast := mainRun_atLast (B := B) (H := H) Z harness
  have hstep := mainRun_atStep (B := B) (H := H) Z harness (Nat.le_refl 3)
  have hfirst : Judging .idleThread failed (mainRun (B := B) H Z harness 4) := by
    rw [mainRun_succ]
    exact .enter hlast hstep.silent
  have hvars : (mainRun (B := B) H Z harness 4).mem.vars = varsAfter H harness 3 := by
    obtain ⟨hirq, hcurrent, hcode, -, hvars⟩ := hstep
    rw [mainRun_succ]
    simp [*, iTask, verdictLoop]
  obtain ⟨hjudging, -, stop, hmem, -⟩ := hfirst.later (fun _ _ _ _ => rfl)
    (mainRun_succ Z harness) (fun _ _ => rfl) n
  rw [hmem]
  exact ⟨hjudging, hvars⟩

end Run

/-- Over any documented kernel and with any harness: nothing is signalled before
the harness has run, then the verdict is signalled again and again and is that
there were no failures. -/
theorem mem_announces (Z : Zephyr K MainThread Empty Empty Unit) (harness : S) :
    Announces .idleThread failed (fun _ _ => True) (mainRun (B := B) H Z harness) ∧
      ∀ n ok, (mainRun (B := B) H Z harness n).mem.mseriesStop = some ok →
        (mainRun (B := B) H Z harness n).mem.vars = varsAfter H harness 3 ∧
          (ok = true ↔ (H.memHarnessRun (H.memHarnessInit harness)).1 = 0) := by
  have hsettled : Ends (mainRun (B := B) H Z harness)
      (Settled .idleThread failed fun _ _ => True) := by
    refine ⟨3, fun m hm => ?_⟩
    obtain ⟨n, rfl⟩ := Nat.exists_eq_add_of_le hm
    exact mainRun_settled Z harness n
  have hall : ∀ n, (mainRun (B := B) H Z harness n).mem.Open ∨
      Judging .idleThread failed (mainRun (B := B) H Z harness n) ∧
        (mainRun (B := B) H Z harness n).mem.vars = varsAfter H harness 3 := by
    intro n
    by_cases hn : n ≤ 3
    · exact .inl (mainRun_atStep Z harness hn).silent
    · obtain ⟨k, rfl⟩ := Nat.exists_eq_add_of_le (Nat.lt_of_not_le hn)
      exact .inr (mainRun_judging Z harness k)
  have hannounces := announces_of_judging (fun _ _ _ _ => rfl) (mainRun_succ Z harness)
    (fun _ _ => rfl) (fun n => (hall n).imp_right And.left) ⟨4, (mainRun_judging Z harness 0).1⟩
    hsettled
  refine ⟨hannounces, fun n ok hok => ?_⟩
  have hne : ¬ (mainRun (B := B) H Z harness n).mem.Open := by simp [Mem.Open, hok]
  have hvars := ((hall n).resolve_left hne).2
  refine ⟨hvars, ?_⟩
  rw [hannounces.right n ok hok, failed, hvars]
  simp [varsAfter]

end ZephyrBench.Mem

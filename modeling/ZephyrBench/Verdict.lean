/-
ZephyrBench.Verdict — the end of a test.

The control task of every test ends in a loop that signals the verdict over
and over. Nothing else runs from then on, so what holds of the kernel and of
the series when the loop is entered holds for the rest of the run (`Settled`),
and one symbolic execution up to the loop settles the whole run
(`run_of_leads`).

  * `Settled.next`   — the loop leaves the kernel and the series as they are.
  * `Settled.atStmt` — what is claimed of a statement has to be shown of the
    three that the loop consists of, and of no other.
  * `run_of_closed`  — from a symbolic execution over the documented kernel to
    the run over any kernel that behaves as documented, for an ending that the
    run does not leave.
  * `run_of_leads`   — the same for the ending in the last loop.

The loop makes no kernel call, so nothing but an interrupt could take the CPU
from the control task. `Settled` therefore asks that the control task runs and
that no interrupt is pending, and nothing about the other threads: they may be
ready behind it, pended or dead.
-/
import ZephyrBench.Rtos.Exec

namespace ZephyrBench

open Rtos Rtos.Exec

variable {K T O A F M X V W : Type} [DecidableEq T] [DecidableEq O] [DecidableEq A]
  [DecidableEq M] [DecidableEq X] {B : Bmth}

abbrev BenchStmt (B : Bmth) (T O A F M X V W : Type) :=
  Stmt T O A F (Prim M X W) (Mem B M X V)

abbrev BenchState (B : Bmth) (T O A F M X V W : Type) :=
  DocState T O A F (Prim M X W) (Mem B M X V)

def verdictBody (outliers : Mem B M X V → Bool) : List (BenchStmt B T O A F M X V W) :=
  [.ite outliers [.prim (.signalizeMseriesStop false)] [.prim (.signalizeMseriesStop true)]]

/-- The loop at the end of the control task; `outliers` is its condition. -/
def verdictLoop (outliers : Mem B M X V → Bool) : List (BenchStmt B T O A F M X V W) :=
  [.loop (verdictBody outliers)]

/-- What is left of the control task once it is in its last loop. -/
inductive VerdictCode (outliers : Mem B M X V → Bool) : List (BenchStmt B T O A F M X V W) → Prop
  | head : VerdictCode outliers (verdictLoop outliers)
  | body : VerdictCode outliers (verdictBody outliers ++ verdictLoop outliers)
  | signal (ok : Bool) :
    VerdictCode outliers (.prim (.signalizeMseriesStop ok) :: verdictLoop outliers)

/-- The control task `idle` is in its last loop, and `R` holds of the kernel
and of the series. -/
structure Settled (idle : T) (outliers : Mem B M X V → Bool)
    (R : Kernel T O A → (M → B.Series) → Prop) (s : BenchState B T O A F M X V W) : Prop where
  current : s.kern.current = some idle
  irq : s.kern.irq.pending = false
  code : VerdictCode outliers (s.code idle)
  rest : R s.kern s.mem.series

variable {idle : T} {outliers : Mem B M X V → Bool} {R : Kernel T O A → (M → B.Series) → Prop}
  {s : BenchState B T O A F M X V W} {p : Prog T O A F (Prim M X W) (Mem B M X V)}
  {set : W → Option A → Mem B M X V → Mem B M X V}

/-- The last loop leaves the kernel and the series as they are. -/
theorem Settled.next (hp : ∀ q now ret mem, p.prim q now ret mem = q.run set now ret mem)
    (h : Settled idle outliers R s) : Settled idle outliers R (p.next s) := by
  obtain ⟨hcur, hirq, hcode, hrest⟩ := h
  generalize hc : s.code idle = c at hcode
  cases hcode with
  | head =>
    refine ⟨by simp [*, verdictLoop], by simp [*, verdictLoop], ?_, by simp [*, verdictLoop]⟩
    simpa [*, verdictLoop] using VerdictCode.body
  | body =>
    refine ⟨by simp [*, verdictBody], by simp [*, verdictBody], ?_, by simp [*, verdictBody]⟩
    cases ho : outliers s.mem
    · simpa [*, verdictBody] using VerdictCode.signal true
    · simpa [*, verdictBody] using VerdictCode.signal false
  | signal ok =>
    refine ⟨by simp [*], by simp [*], ?_, by simp [*]⟩
    simpa [*] using VerdictCode.head

omit [DecidableEq T] [DecidableEq O] [DecidableEq A] [DecidableEq M] [DecidableEq X] in
/-- A property of the statements that holds of those of the last loop. -/
theorem Settled.atStmt {φ : T → BenchStmt B T O A F M X V W → Prop}
    (h : Settled idle outliers R s) (hloop : φ idle (.loop (verdictBody outliers)))
    (hite : ∀ yes no, φ idle (.ite outliers yes no))
    (hsignal : ∀ ok, φ idle (.prim (.signalizeMseriesStop ok))) : s.AtStmt φ := by
  obtain ⟨hcur, hirq, hcode, hrest⟩ := h
  generalize hc : s.code idle = c at hcode
  cases hcode with
  | head => simp [*, verdictLoop]
  | body => simp [*, verdictBody]
  | signal ok => simp [*]

omit [DecidableEq M] [DecidableEq X] in
/-- A symbolic execution from the start of the control task to a set of states
that the run does not leave settles a run over any documented kernel. -/
theorem run_of_closed {Good Q : BenchState B T O A F M X V W → Prop} (Z : Zephyr K T O A F)
    {prio : Nat} {f : F} {data : Data T A} {mem : Mem B M X V}
    (hclosed : ∀ s, Q s → Q (p.next s))
    (h : Leads p.next Good (p.run .documented idle prio f data mem 0) Q)
    (hGood : ∀ s, Q s → Good s) :
    Ends (fun n => (p.run Z idle prio f data mem n).view Z) Q ∧
      ∀ n, Good ((p.run Z idle prio f data mem n).view Z) := by
  have hrun : ∀ n, (p.run Z idle prio f data mem n).view Z =
      p.next^[n] (p.run .documented idle prio f data mem 0) := fun n => run_view p Z ..
  simp only [hrun]
  refine ⟨h.ends hclosed, h.always fun t ht n => hGood _ ?_⟩
  exact iterate_of_closed ht hclosed n

/-- A symbolic execution up to the last loop of the control task settles a run. -/
theorem run_of_leads {Good : BenchState B T O A F M X V W → Prop} (Z : Zephyr K T O A F)
    {prio : Nat} {f : F} {data : Data T A} {mem : Mem B M X V}
    (hp : ∀ q now ret mem, p.prim q now ret mem = q.run set now ret mem)
    (h : Leads p.next Good (p.run .documented idle prio f data mem 0) (Settled idle outliers R))
    (hGood : ∀ s, Settled idle outliers R s → Good s) :
    Ends (fun n => (p.run Z idle prio f data mem n).view Z) (Settled idle outliers R) ∧
      ∀ n, Good ((p.run Z idle prio f data mem n).view Z) :=
  run_of_closed Z (fun _ hs => hs.next hp) h hGood

end ZephyrBench

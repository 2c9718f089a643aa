/-
ZephyrBench.Bench — what the test programs do besides kernel calls.

The tests keep time markers and measurement series in file-scope variables.
`Prim` lists the statements that touch these: the macros and functions of the
measurement package, and assignments to the other variables of a test, named
by a type `W` of its own. `Prim.run` is their meaning, as a function on `Mem`,
the variables of a test.

A time marker holds the logical time at which it was taken, which is the length
of the history at that moment. So no clock is needed, and the value of a marker
names the entry of the history that took it: two markers enclose exactly the
entries between their values.

Two notions of a state are defined here, since all tests state their results
with them:

  * `State.AtStmt φ` — what the running thread is about to execute satisfies
    `φ`. A claim about every marker, every post or every take of a run is
    `AtStmt` in every state of the run.
  * `State.Window` — the history ends in a given list of entries, which begins
    with a start marker and ends with a stop marker, and the two marker
    variables hold the times of these entries. It is how a test says what lay
    between the markers of a sample.
-/
import ZephyrBench.Bmth
import ZephyrBench.Rtos.Machine

namespace ZephyrBench

open Rtos

/-- The variables of a test: time markers `X`, series `M`, further variables
`V`; then what has been signalled on the board. -/
structure Mem (B : Bmth) (M X V : Type) where
  time : X → Nat
  series : M → B.Series
  vars : V
  jitterDetected : Bool
  mseriesStop : Option Bool

/-- A statement on the variables. `mseriesIterate` is the statement
`if (BMTH_mseries_iterate(..) == BMTH_MEASUREMENT_WINDOW_COMPLETED_WITH_JITTER)`
with its branch: a no-operation, or with `signalize` a call of
`BMTH_signalize_jitter_detected()`. -/
inductive Prim (M X W : Type)
  | resetCounter
  | getStartCnt (x : X)
  | getStopCnt (x : X)
  | mwindowOpen (m : M)
  | mwindowClose (m : M)
  | mseriesIterate (m : M) (start stop : X) (signalize : Bool)
  | signalizeMseriesStop (ok : Bool)
  | assign (w : W)
  deriving DecidableEq

variable {B : Bmth} {M X V W T O A F : Type} [DecidableEq M] [DecidableEq X]

/-- The effect of a statement at the time `now`; `ret` is what the last call
of the thread returned, `set` the meaning of the assignments. -/
def Prim.run (set : W → Option A → Mem B M X V → Mem B M X V) (now : Nat) (ret : Option A)
    (mem : Mem B M X V) : Prim M X W → Mem B M X V
  | .resetCounter => mem
  | .getStartCnt x => { mem with time := Function.update mem.time x now }
  | .getStopCnt x => { mem with time := Function.update mem.time x now }
  | .mwindowOpen m =>
    { mem with series := Function.update mem.series m (B.mwindowOpen (mem.series m)) }
  | .mwindowClose m =>
    { mem with series := Function.update mem.series m (B.mwindowClose (mem.series m)) }
  | .mseriesIterate m start stop signalize =>
    let r := B.mseriesIterate (mem.series m) (mem.time start) (mem.time stop)
    { mem with
      series := Function.update mem.series m r.1
      jitterDetected := mem.jitterDetected || (r.2 && signalize) }
  | .signalizeMseriesStop ok => { mem with mseriesStop := some ok }
  | .assign w => set w ret mem

/-- The number of iterations recorded in a series. -/
abbrev Mem.count (mem : Mem B M X V) (m : M) : Nat := B.iterationCount (mem.series m)

/-- Is the measurement window of a series open? -/
abbrev Mem.isOpen (mem : Mem B M X V) (m : M) : Bool := B.isOpen (mem.series m)

/-- The variables at boot: the markers are zero, the series initialised. -/
def Mem.initial (window : M → ReadWindow) (vars : V) : Mem B M X V where
  time _ := 0
  series m := B.mseriesInitialize (window m)
  vars
  jitterDetected := false
  mseriesStop := none

/-- What the running thread is about to execute satisfies `φ`. -/
def Rtos.State.AtStmt {P G : Type} (φ : T → Stmt T O A F P G → Prop)
    (s : DocState T O A F P G) : Prop :=
  match s.kern.current with
  | none => True
  | some t =>
    match s.code t with
    | [] => True
    | st :: _ => φ t st

theorem Rtos.State.AtStmt.mono {P G : Type} {φ ψ : T → Stmt T O A F P G → Prop}
    {s : DocState T O A F P G} (h : s.AtStmt φ) (hψ : ∀ t st, φ t st → ψ t st) : s.AtStmt ψ := by
  unfold Rtos.State.AtStmt at *
  split at h <;> try trivial
  split at h <;> try trivial
  exact hψ _ _ h

/-- The history ends in the window `w`, latest entry first: it begins with a
start marker, whose value is in `start`, and ends with a stop marker, whose
value is in `stop`. -/
def Rtos.State.Window {P : Type} (s : DocState T O A F P (Mem B M X V)) (start stop : X)
    (w : List (Entry T O A F P)) : Prop :=
  ∃ before, s.log = w ++ before ∧ s.mem.time start = before.length ∧
    s.mem.time stop = (w.tail ++ before).length

end ZephyrBench

/-
ZephyrBench.Itc.VerdictTheorems — the verdict of the tests of inter-task
communication.

`itc_announces`: in every test a verdict is signalled only on complete series,
again and again from some point on, and it is a success if and only if the
outliers of all series add up to a multiple of 2³².

## Why 2³²

`I_Task` adds up the outliers in a counter of 32 bits before it gets to its last
loop, and the verdict looks at the counter. So the theorem cannot say that a
success means no outliers; it says what the sum has to be.

## How the proof goes

No other code touches the counter or signals a verdict. That is read off the
text: what a test puts into the tasks besides `I_Task` (`BackgroundIpc`) and what
it puts into `I_Task` (`QuietIpc`), case by case for the eight tests. So up to
the loop over the outliers nothing is signalled and nothing counted
(`Uncounted`).

The loop itself is an invariant of the run and not an execution: `Counting` says
which series are counted and which are still to be, and a step of any task keeps
it or moves it on by one series (`Counting.add`, `Counting.step`,
`Counting.last`). No series comes twice (`seriesUpTo_nodup`), so in the end the
counter has the sum over the set of all series.
-/
import Mathlib.Algebra.Ring.Nat
import Mathlib.Data.List.Nodup
import ZephyrBench.Itc.TestsTheorems
import ZephyrBench.Rtos.Lifetimes
import ZephyrBench.VerdictTheorems

namespace ZephyrBench.Itc

open Rtos Rtos.Exec Thread Object Series Marker

variable {B : Bmth} {cfg : Config} {ipc : Ipc B}

/-! ## 1. The code before the outliers are added up -/

/-- The primitive neither signals a verdict nor touches the counter. -/
def Uncounting (q : Prim Series Marker Assign) : Prop :=
  q.Silent ∧ ∀ m, q ≠ .assign (.addOutliers m)

/-- Nothing is signalled and nothing counted. -/
def Uncounted (mem : TestMem B) : Prop := mem.Open ∧ mem.vars.outlierCount = 0

/-- The code of the tasks besides `I_Task` signals no verdict and does not touch
the counter; it creates and removes no task and initialises no object. -/
abbrev Background (code : Code B) : Prop := Confined SteadyCall Uncounting code

/-- What a test puts into these tasks. -/
structure BackgroundIpc (ipc : Ipc B) : Prop where
  selectSelf : ∀ n, Background (ipc.selectSelf n)
  transferSelf : ∀ n, Background (ipc.transferSelf n)
  select : ∀ d n, Background (ipc.select d n)
  arm : Background ipc.arm
  send : ∀ d, SteadyCall fun mem : TestMem B => ipc.send d mem.vars
  recv : ∀ d, SteadyCall fun mem : TestMem B => ipc.recv d mem.vars
  received : Background (B := B) (ipc.received.map act)
  finish : ∀ d, Background (ipc.finish d)

section Background

attribute [local simp] Uncounting Prim.Silent SteadyCall Call.Steady Call.isInit

theorem Test.background (T : Test) : BackgroundIpc (T.ipc B cfg) := by
  cases T with
  | fifo => constructor <;> simp [Test.ipc, Itc.fifo, addressIpc]
  | lifo => constructor <;> simp [Test.ipc, Itc.lifo, addressIpc]
  | stack => constructor <;> simp [Test.ipc, Itc.stack, addressIpc]
  | msgq => constructor <;> simp [Test.ipc, Itc.msgq]
  | pipeAsync => constructor <;> simp [Test.ipc, Itc.pipeAsync]
  | pipeSync => constructor <;> simp [Test.ipc, Itc.pipeSync]
  | mailboxAsync =>
    constructor <;> simp [Test.ipc, Itc.mailboxAsync, armDescriptors, rearmDescriptors]
  | mailboxSync =>
    constructor <;> simp [Test.ipc, Itc.mailboxSync, armDescriptors, rearmDescriptors]

theorem BackgroundIpc.others (h : BackgroundIpc ipc) (f : EntryFn) (hf : f ≠ .iTask) :
    Background ((program cfg ipc).body f) := by
  cases f with
  | iTask => exact absurd rfl hf
  | tSelf =>
    simp [program, tSelf, tSelfSweep, tSelfStep, tSelfLoop, h.selectSelf, h.arm, h.transferSelf]
  | tSend d =>
    cases hr : ipc.rendezvous <;> simpa [program, tSend, tSendLoop, hr] using h.send d
  | tRecv d => simpa [program, tRecv, tRecvLoop, h.received] using h.recv d
  | tArm d =>
    cases hr : ipc.rendezvous <;> simp [program, tArm, tArmSweep, tArmStep, tArmLoop,
      mwindowsOpen, mseriesFeed, hr, h.select, h.arm, h.finish]

end Background

/-- No statement of the code signals a verdict, touches the counter or creates
the control task. -/
abbrev Quietly (code : Code B) : Prop :=
  Confined (Spares idleThread EntryFn.iTask) Uncounting code

/-- What a test puts into all tasks: that of `I_Task` is quiet. -/
structure QuietIpc (ipc : Ipc B) : Prop extends BackgroundIpc ipc where
  init : Quietly ipc.init
  before : ∀ d, Quietly (ipc.before d)

attribute [local simp] Spares Uncounting Prim.Silent

theorem Test.quiet (T : Test) : QuietIpc (T.ipc B cfg) := by
  refine ⟨T.background, ?_, ?_⟩
  · cases T <;> simp [Test.ipc, Itc.fifo, Itc.lifo, Itc.stack, addressIpc, Itc.msgq, initMsgqs,
      Itc.pipeAsync, Itc.pipeSync, Itc.mailboxAsync, Itc.mailboxSync, armDescriptors]
  · cases T <;> simp [Test.ipc, Itc.fifo, Itc.lifo, Itc.stack, addressIpc, Itc.msgq,
      Itc.pipeAsync, Itc.pipeSync, Itc.mailboxAsync, Itc.mailboxSync, armDescriptors,
      rearmDescriptors, Dir.forall]

theorem QuietIpc.iTaskDir (d : Dir) : Quietly (B := B) (iTaskDir d) := by
  cases d <;> simp [Itc.iTaskDir, iTaskWait]

theorem QuietIpc.endsIn (h : QuietIpc ipc) :
    EndsIn (program cfg ipc) idleThread .iTask Uncounting Uncounted
      (countOutliers cfg ipc 0 :: verdictLoop outliers) where
  control := by
    have hself : Quietly (B := B) (if ipc.hasSelf then iTaskSelf else []) := by
      cases hs : ipc.hasSelf <;> simp [iTaskSelf, iTaskSelfWait]
    have hfirst : Quietly ([ kcall (.kEventInit .testEvent), kcall (.kSemInit .testArmSem 0 1),
        kcall (.kSemInit .testRecvSem 0 1) ] ++ ipc.init ++
        (if ipc.hasSelf then iTaskSelf else [])) := by
      simp [h.init, hself]
    refine .append hfirst (.append ?_ (.append ?_ .nil))
    · simp [h.before, iTaskDir]
    · simp [h.before, iTaskDir]
  others f hf := (h.others f hf).spares
  isr q hq := absurd hq List.not_mem_nil
  keeps q hq now ret mem hmem := by
    cases q with
    | signalizeMseriesStop ok => exact absurd rfl (hq.1 ok)
    | assign w =>
      cases w with
      | addOutliers m => exact absurd rfl (hq.2 m)
      | _ => exact hmem
    | _ => exact hmem

/-! ## 2. Adding up the outliers -/

/-- The series of the first `n` steps, in the order in which they are added. -/
def seriesUpTo (ipc : Ipc B) (n : Nat) : List Series := (List.range n).flatMap (seriesOfStep ipc)

/-- The series that a test records. -/
def Records (cfg : Config) (ipc : Ipc B) : Series → Prop
  | selfSend n => ipc.hasSelf = true ∧ n < cfg.messageSizeSteps
  | sendTo _ n => n < cfg.messageSizeSteps
  | rendezvousTo _ n => ipc.rendezvous = true ∧ n < cfg.messageSizeSteps

theorem mem_seriesUpTo {m : Series} :
    m ∈ seriesUpTo ipc cfg.messageSizeSteps ↔ Records cfg ipc m := by
  cases m with
  | selfSend n => cases hs : ipc.hasSelf <;> cases hr : ipc.rendezvous <;>
      simp [seriesUpTo, seriesOfStep, Records, hs, hr]
  | sendTo d n => cases d <;> cases hs : ipc.hasSelf <;> cases hr : ipc.rendezvous <;>
      simp [seriesUpTo, seriesOfStep, Records, hs, hr]
  | rendezvousTo d n => cases d <;> cases hs : ipc.hasSelf <;> cases hr : ipc.rendezvous <;>
      simp [seriesUpTo, seriesOfStep, Records, hs, hr]

/-- No series is counted twice. -/
theorem seriesUpTo_nodup (n : Nat) : (seriesUpTo ipc n).Nodup := by
  refine List.nodup_flatMap.mpr ⟨fun k _ => ?_, ?_⟩
  · cases hs : ipc.hasSelf <;> cases hr : ipc.rendezvous <;> simp [seriesOfStep, hs, hr]
  · refine List.nodup_range.imp fun {a b} hne m hm hm' => hne ?_
    cases hs : ipc.hasSelf <;> cases hr : ipc.rendezvous <;>
      simp [seriesOfStep, hs, hr] at hm hm' <;> grind

/-- The number of outliers of the series `l`. -/
def outlierTotal (l : List Series) (σ : Series → B.Series) : Nat :=
  (l.map fun m => B.valuesOutlierCount (σ m)).sum

theorem outlierTotal_append (l l' : List Series) (σ : Series → B.Series) :
    outlierTotal (l ++ l') σ = outlierTotal l σ + outlierTotal l' σ := by
  simp [outlierTotal]

/-- The counter holds the outliers of the series `l`. -/
def Counted (l : List Series) (mem : TestMem B) : Prop :=
  mem.vars.outlierCount = BitVec.ofNat 32 (outlierTotal l mem.series)

/-- `I_Task` adds up the outliers: of the series of the first `n` steps `done`
are counted, the others still to be. -/
structure Counting (cfg : Config) (ipc : Ipc B) (n : Nat) (done todo : List Series)
    (s : TestState B) : Prop where
  irq : (s.kern.irq.pending && s.kern.irq.enabled) = false
  current : s.kern.current = some idleThread
  code : s.code idleThread = todo.map (fun m => .prim (.assign (.addOutliers m))) ++
    countOutliers cfg ipc n :: verdictLoop outliers
  split : done ++ todo = seriesUpTo ipc n
  le : n ≤ cfg.messageSizeSteps
  silent : s.mem.Open
  counted : Counted done s.mem

variable {n : Nat} {done todo : List Series} {s : TestState B}

/-- One more series is counted. -/
theorem Counting.add {m : Series} (h : Counting cfg ipc n done (m :: todo) s) :
    Counting cfg ipc n (done ++ [m]) todo ((program cfg ipc).next s) := by
  obtain ⟨hirq, hcur, hcode, hsplit, hle, hsilent, hcounted⟩ := h
  unfold Mem.Open Counted at *
  refine ⟨by simp [*], by simp [*], by simp [*], by simpa using hsplit, hle, ?_, ?_⟩
  · simp [*, Mem.Open, program, Assign.set]
  · simp [*, Counted, program, Assign.set, outlierTotal_append, BitVec.ofNat_add]
    simp [outlierTotal]

/-- The next step of the sweep, if there is one. -/
theorem Counting.step (h : Counting cfg ipc n done [] s) (hn : n < cfg.messageSizeSteps) :
    Counting cfg ipc (n + 1) done (seriesOfStep ipc n) ((program cfg ipc).next s) := by
  obtain ⟨hirq, hcur, hcode, hsplit, hle, hsilent, hcounted⟩ := h
  unfold Mem.Open Counted at *
  refine ⟨by simp [*, countOutliers], by simp [*, countOutliers], by simp [*, countOutliers], ?_,
    hn, by simp [*, Mem.Open, countOutliers], by simp [*, Counted, countOutliers]⟩
  rw [List.append_nil] at hsplit
  simp [hsplit, seriesUpTo, List.range_succ]

/-- After the last step all series are counted. -/
theorem Counting.last (h : Counting cfg ipc n done [] s) (hn : ¬ n < cfg.messageSizeSteps) :
    Judging idleThread outliers ((program cfg ipc).next s) ∧
      Counted (seriesUpTo ipc cfg.messageSizeSteps) ((program cfg ipc).next s).mem := by
  obtain ⟨hirq, hcur, hcode, hsplit, hle, hsilent, hcounted⟩ := h
  obtain rfl : n = cfg.messageSizeSteps := by omega
  unfold Mem.Open Counted at *
  rw [List.append_nil] at hsplit
  refine ⟨⟨by simp [*, countOutliers], by simp [*, countOutliers], ?_, ?_, ?_⟩, ?_⟩
  · simpa [*, countOutliers] using VerdictCode.head
  · simp [*, countOutliers, verdictLoop]
  · simp [*, countOutliers]
  · simp [*, countOutliers]

/-! ## 3. The verdict -/

/-- `I_Task` has not begun to add up the outliers, or is at it. -/
def Unjudged (cfg : Config) (ipc : Ipc B) (s : TestState B) : Prop :=
  Before idleThread EntryFn.iTask Uncounting Uncounted
    (countOutliers cfg ipc 0 :: verdictLoop outliers) s ∨
      ∃ n done todo, Counting cfg ipc n done todo s

theorem QuietIpc.hushed (h : QuietIpc ipc) :
    Hushed idleThread outliers (program cfg ipc) (Unjudged cfg ipc)
      (Counted (seriesUpTo ipc cfg.messageSizeSteps)) where
  silent s hs := by
    rcases hs with hs | ⟨n, done, todo, hs⟩
    · exact hs.mem.1
    · exact hs.silent
  code s hs ok hc := by
    rcases hs with hs | ⟨n, done, todo, hs⟩
    · obtain ⟨first, hfirst, hconfined⟩ := hs.control
      have hlength := congrArg List.length (hfirst.symm.trans hc)
      simp [verdictLoop] at hlength
      obtain rfl := hlength
      rw [hc] at hfirst
      simp [countOutliers] at hfirst
    · have hcode := hs.code
      rw [hc] at hcode
      cases todo <;> simp [countOutliers] at hcode
  next s hs := by
    rcases hs with hs | ⟨n, done, todo, hs⟩
    · rcases hs.next h.endsIn with hnext | hlast
      · exact .inl (.inl hnext)
      · left
        right
        have hcounting : Counting cfg ipc 0 [] [] s :=
          ⟨hlast.irq, hlast.current, hlast.code, rfl, Nat.zero_le _, hs.mem.1, hs.mem.2⟩
        exact ⟨1, _, _, hcounting.step cfg.one_le_messageSizeSteps⟩
    · cases todo with
      | cons m todo => exact .inl (.inr ⟨_, _, _, hs.add⟩)
      | nil =>
        by_cases hn : n < cfg.messageSizeSteps
        · exact .inl (.inr ⟨_, _, _, hs.step hn⟩)
        · exact .inr (hs.last hn)

variable {K : Type} (Z : Zephyr K Thread Object Addr EntryFn)

/-- In every test the verdict is signalled only on complete series, again and
again from some point on, and it is a success if and only if the outliers of
all series add up to a multiple of 2³². -/
theorem itc_announces (T : Test) :
    Announces idleThread outliers (Complete cfg (T.ipc B cfg)) (run cfg (T.ipc B cfg) Z) ∧
      ∀ n ok, (run cfg (T.ipc B cfg) Z n).mem.mseriesStop = some ok →
        ∃ l : List Series, l.Nodup ∧ (∀ m, m ∈ l ↔ Records cfg (T.ipc B cfg) m) ∧
          (ok = true ↔ 2 ^ 32 ∣ outlierTotal l (run cfg (T.ipc B cfg) Z n).mem.series) := by
  have hquiet : QuietIpc (T.ipc B cfg) := T.quiet
  have hprim : ∀ q now ret mem, (program cfg (T.ipc B cfg)).prim q now ret mem =
      q.run (fun w ret mem => w.set ret mem) now ret mem := fun _ _ _ _ => rfl
  have hnext : ∀ n, run cfg (T.ipc B cfg) Z (n + 1) =
      (program cfg (T.ipc B cfg)).next (run cfg (T.ipc B cfg) Z n) := fun n => run_view_succ Z ..
  have hbegin : Unjudged cfg (T.ipc B cfg) (run cfg (T.ipc B cfg) Z 0) := by
    left
    rw [run, run_view]
    exact hquiet.endsIn.before_run ⟨rfl, rfl⟩
  have hall := hquiet.hushed.or_judging hprim hnext (fun _ _ => rfl) (fun _ _ h => h) hbegin
  have hannounces : Announces idleThread outliers (Complete cfg (T.ipc B cfg))
      (run cfg (T.ipc B cfg) Z) :=
    announces_of_hushed hprim hnext (fun _ _ => rfl) (fun _ _ h => h) hquiet.hushed hbegin
      (T.completes Z)
  refine ⟨hannounces, fun n ok hok => ?_⟩
  have hne : ¬ (run cfg (T.ipc B cfg) Z n).mem.Open := by simp [Mem.Open, hok]
  have hcounted := ((hall n).resolve_left fun h => hne (hquiet.hushed.silent _ h)).2
  refine ⟨seriesUpTo (T.ipc B cfg) cfg.messageSizeSteps, seriesUpTo_nodup _,
    fun m => mem_seriesUpTo, ?_⟩
  rw [hannounces.right n ok hok, outliers, hcounted]
  simp [BitVec.toNat_eq, Nat.dvd_iff_mod_eq_zero]

end ZephyrBench.Itc

/-
ZephyrBench.Itc.PipeRing — the ring of `T_Self` in `pipe_async`.

`test_pipe_self` is never reset, so its offset carries over from transfer to
transfer and from step to step. `pipeSelf_ring` has three parts:

  * Along the run, from boot until `T_Self` is done with its sweep, every write
    and every read finds the offset of the sweep, and so copies the pieces that
    `Ring.pieces` makes of it (`RingStmt`). At the end `T_Self` has made
    `MEASUREMENT_COUNT` writes and as many reads of every step (`SweepDone`).
  * The law of these offsets, for any number of transfers and steps: which
    transfers of a step are split at the end of the ring, and that exactly one in
    every round is, or none at all.
  * The numbers of `pipe_async.c`: the steps from 128 bytes on have split
    transfers, and each of these steps begins at the same offset.

## How the proof goes

The sweep is executed once more, with the offset in the scene (`Sweeping`). What
a transfer does to the ring is known from `Itc.Pipe` for any offset, so a pass
only has to move it on by one message (`offset_succ`).

How many transfers are made is not read off the scenes, which do not count them,
but off the code: a pass makes each transfer of its own step once
(`tSelfLoop_makes`), so the sweep makes `MEASUREMENT_COUNT` of each
(`tSelfSweep_makes`). `CallsCounted` carries that along the run, whatever the
scheduler does, since `T_Self` is created once and by `I_Task` alone
(`createsOnce_tSelf`). Transfers of different steps are different calls, since no
two steps have one message size.

The law is arithmetic and stands in `Ring`; here it is applied to the sizes.
-/
import ZephyrBench.Ring
import ZephyrBench.Itc.LifetimesTheorems
import ZephyrBench.Rtos.Counts

namespace ZephyrBench.Itc.PipeTest

open Rtos Rtos.Exec Thread Object Series Marker

variable {B : Bmth} (cfg : Config)

/-! ## 1. What T_Self finds -/

/-- What `k_pipe_write()` and `k_pipe_read()` copy into and out of the ring. The
bytes of a write go behind those that are in it. -/
def copies (k : Kernel Thread Object Addr) : Call Thread Object Addr EntryFn → List (Nat × Nat)
  | .kPipeWrite o _ len _ =>
    match k.obj o with
    | .pipe size offset bytes _ => Ring.pieces size ((offset + bytes.length) % size) len
    | _ => []
  | .kPipeRead o _ len _ =>
    match k.obj o with
    | .pipe size offset _ _ => Ring.pieces size offset len
    | _ => []
  | _ => []

/-- The offset of the ring at the start of transfer `i` of step `n`. -/
def offset (n i : Nat) : Nat :=
  Ring.transferOffset messageSizeMin cfg.measurementCount cfg.messageSizeSteps n i

/-- `T_Self` is about to make transfer `i` of step `n`, with the call `c`. -/
structure Transfers (n i : Nat) (c : Call Thread Object Addr EntryFn) (s : TestState B) :
    Prop where
  step : n < cfg.messageSizeSteps
  iteration : i < cfg.measurementCount
  count : ∀ m, s.mem.count (.selfSend m) = tally cfg.measurementCount n i m
  call : c = writeSelf n ∨ c = readSelf n
  ring : ∃ bytes, s.kern.obj (.chan (.self 0)) =
    .pipe (pipeBufferSize cfg) (offset cfg n i) bytes []
  copies : copies s.kern c = Ring.pieces (pipeBufferSize cfg) (offset cfg n i) (messageSize n)

/-- What `T_Self` finds when it is about to write or to read a message. -/
def RingStmt (s : TestState B) (t : Thread) : Statement B → Prop
  | .call c => t = tSelfThread → isTransfer (c s.mem) = true → ∃ n i, Transfers cfg n i (c s.mem) s
  | _ => True

variable {cfg}

theorem ring_common (s : TestState B) (t : Thread) (st : Statement B) (h : isCommon s st = true) :
    RingStmt cfg s t st := by
  cases st with
  | call c => cases hc : c s.mem <;> simp_all [RingStmt, isCommon, isTransfer]
  | _ => trivial

attribute [local simp] Good HandoffStmt ScenarioStmt SelfStmt isTransfer taskIdlePrio tSelfPrio
  tArmPrio Prog.takeIrq program pipeAsync Kernel.initObj pipeBufferSize

variable {σ : Series → B.Series} {E : List HistEntry} {code : Code B} {n i : Nat}

theorem offset_lt (n i : Nat) : offset cfg n i < pipeBufferSize cfg :=
  Ring.transferOffset_lt (by decide)

theorem offset_succ (cfg : Config) (n i : Nat) :
    offset cfg n (i + 1) = (offset cfg n i + messageSize n) % pipeBufferSize cfg :=
  Ring.transferOffset_succ

theorem offset_last (n : Nat) : offset cfg n cfg.measurementCount = offset cfg (n + 1) 0 :=
  Ring.transferOffset_last

/-! ## 2. The sweep -/

/-- The rings are initialised. -/
theorem initRing_leads (s : TestState B)
    (h : IdleAt (· = bootStore cfg) σ E ((pipeAsync cfg).init ++ code) s) :
    Does cfg (pipeAsync cfg) (RingStmt cfg) s
      (IdleAt (SelfRing cfg (offset cfg 0 0) fun _ => []) σ E code) := by
  have hbuf : (s.kern.data.buf .txBuffer).length = messageSizeMax cfg := by
    have hdata : s.kern.data = bootData cfg := congrArg Store.data h.store
    simp [hdata, bootData]
  have hzero : offset cfg 0 0 = 0 := rfl
  obtain ⟨⟨_, _⟩, _, _, _, _, _, _, _, _⟩ := h
  iterate 3
    refine .step (by simp [*, RingStmt]) ?_
    simp [*]
  refine .done ?_
  constructor
  case store => constructor <;> simp [*, Dir.forall]
  all_goals simp [*]

/-- `T_Self` is about to write. -/
theorem ring_writeSelf (hn : n < cfg.messageSizeSteps) (hi : i < cfg.measurementCount)
    (hσ : Recorded (pipeAsync (B := B) cfg) (tally cfg.measurementCount n i) (fun _ _ => 0) σ)
    {s : TestState B}
    (h : SelfAt cfg (pipeAsync cfg) (SelfRing cfg (offset cfg n i) fun _ => []) σ E
      (kcall (writeSelf n) :: code) s) :
    RingStmt cfg s tSelfThread (kcall (writeSelf n)) := by
  intro _ _
  refine ⟨n, i, hn, hi, ?_, .inl rfl, ⟨_, h.store.self⟩, ?_⟩
  · intro m
    rw [Mem.count, h.series, hσ.self]
  · have hobj : s.kern.obj (.chan (.self 0)) = .pipe (pipeBufferSize cfg) (offset cfg n i) [] [] :=
      h.store.self
    simp only [copies, writeSelf, hobj, List.length_nil, Nat.add_zero]
    rw [Nat.mod_eq_of_lt (offset_lt n i)]

/-- `T_Self` is about to read. -/
theorem ring_readSelf (hn : n < cfg.messageSizeSteps) (hi : i < cfg.measurementCount)
    (hσ : Recorded (pipeAsync (B := B) cfg) (tally cfg.measurementCount n i) (fun _ _ => 0) σ)
    {s : TestState B}
    (h : SelfAt cfg (pipeAsync cfg) (SelfRing cfg (offset cfg n i) (message n)) σ E
      (kcall (readSelf n) :: code) s) :
    RingStmt cfg s tSelfThread (kcall (readSelf n)) := by
  intro _ _
  refine ⟨n, i, hn, hi, ?_, .inr rfl, ⟨_, h.store.self⟩, ?_⟩
  · intro m
    rw [Mem.count, h.series, hσ.self]
  · have hobj : s.kern.obj (.chan (.self 0)) =
        .pipe (pipeBufferSize cfg) (offset cfg n i) (message n s.kern.data) [] := h.store.self
    simp only [copies, readSelf, hobj]

/-- `T_Self` at `code`, in the sweep at the start of transfer `i` of step `n`. -/
abbrev Sweeping (cfg : Config) (n i : Nat) (E : List HistEntry) (code : Code B) :
    TestState B → Prop :=
  SelfRecording cfg (pipeAsync cfg) (SelfRing cfg (offset cfg n i) fun _ => [])
    (tally cfg.measurementCount n i) E code

/-- A pass of the inner loop is a transfer. -/
theorem tSelfLoop_sweeps (hn : n < cfg.messageSizeSteps) (hi : i < cfg.measurementCount)
    (s : TestState B) (h : Sweeping cfg n i E (tSelfLoop (pipeAsync cfg) n ++ code) s) :
    Does cfg (pipeAsync cfg) (RingStmt cfg) s (Sweeping cfg n (i + 1) E code) := by
  obtain ⟨σ, hσ, h⟩ := h
  have hloop : tSelfLoop (pipeAsync cfg) n ++ code =
      .prim (.mwindowOpen (selfSend n)) :: .prim .resetCounter ::
        .prim (.getStartCnt testStartTime) ::
        (kcall (writeSelf n) :: kcall (readSelf n) :: tSelfFeed n code) := by
    simp [tSelfLoop, tSelfFeed, writeSelf, readSelf]
  rw [hloop] at h
  refine (openSelf ring_common s h).bind ?_
  intro s₁ h₁
  have hopened := hσ.update (x := selfSend n) (v := B.mwindowOpen (σ (selfSend n))) (by simp)
  refine (writeSelf_leads hn s₁ h₁ (ring_writeSelf hn hi hopened h₁)).bind ?_
  intro s₂ h₂
  refine (readSelf_leads hn s₂ h₂ (ring_readSelf hn hi hopened h₂)).bind ?_
  intro s₃ h₃
  refine (feedSelf ring_common (fun _ _ _ => trivial) (by simp) s₃ h₃).mono ?_
  intro t ht
  obtain ⟨v, hv, ht⟩ := ht
  refine ⟨_, ?_, { ht with store := offset_succ cfg n i ▸ ht.store.1 }⟩
  exact hopened.feedSelf (tally_succ cfg.measurementCount n i) hv

theorem emptySelf_of_ring {off : Nat} (_ : (pipeAsync (B := B) cfg).hasSelf = true) (x : Store)
    (h : SelfRing cfg off (fun _ => []) x) (m : Nat) (_ : m < cfg.messageSizeSteps) :
    Empty (x.chan ((pipeAsync (B := B) cfg).selfChannel m)) := by
  have hself := h.self
  simp [hself, Empty]

/-- The inner loop makes the transfers of a step. -/
theorem tSelfStep_sweeps (hn : n < cfg.messageSizeSteps) (s : TestState B)
    (h : Sweeping cfg n 0 E (tSelfStep cfg (pipeAsync cfg) n 0 :: code) s) :
    Does cfg (pipeAsync cfg) (RingStmt cfg) s (Sweeping cfg (n + 1) 0 E code) := by
  refine Leads.bind (Leads.loop (n := cfg.measurementCount) (S := fun i =>
    Sweeping cfg n i E (tSelfStep cfg (pipeAsync cfg) n i :: code)) ?_ h) ?_
  · intro i hi t ht
    refine (tSelf_loopHead ring_common emptySelf_of_ring t ht).bind ?_
    intro u hu
    simp only [hi, decide_true, ↓reduceIte] at hu
    exact tSelfLoop_sweeps hn hi u hu
  · intro t ht
    refine (tSelf_loopHead ring_common emptySelf_of_ring t ht).mono ?_
    intro u hu
    simpa [Sweeping, tally_full, offset_last] using hu

/-- The outer loop makes those of all steps. -/
theorem tSelfSweep_sweeps (s : TestState B)
    (h : Sweeping cfg 0 0 E (tSelfSweep cfg (pipeAsync cfg) 0 :: code) s) :
    Does cfg (pipeAsync cfg) (RingStmt cfg) s (Sweeping cfg cfg.messageSizeSteps 0 E code) := by
  refine Leads.bind (Leads.loop (n := cfg.messageSizeSteps) (S := fun n =>
    Sweeping cfg n 0 E (tSelfSweep cfg (pipeAsync cfg) n :: code)) ?_ h) ?_
  · intro n hn t ht
    refine (tSelf_loopHead ring_common emptySelf_of_ring t ht).bind ?_
    intro u hu
    simp only [hn, decide_true, ↓reduceIte, List.append_assoc, List.cons_append,
      List.nil_append] at hu
    exact tSelfStep_sweeps hn u hu
  · intro t ht
    refine (tSelf_loopHead ring_common emptySelf_of_ring t ht).mono ?_
    intro u hu
    simpa only [Nat.lt_irrefl, decide_false, Bool.false_eq_true, ↓reduceIte] using hu

/-- `T_Self` once the sweep is over. -/
abbrev tSelfEnd : Code B :=
  [ kcall (.kEventPost .testEvent doneSelfEventMask), kcall .kThreadSuspendCurrent ]

/-- From boot, `T_Self` makes all transfers of the sweep. -/
theorem start_sweeps : Does cfg (pipeAsync cfg) (RingStmt cfg) (start (B := B) cfg (pipeAsync cfg))
    (Sweeping cfg cfg.messageSizeSteps 0 startSelfEvents tSelfEnd) := by
  refine (boot ring_common).bind ?_
  intro s₀ h₀
  obtain ⟨σ, hσ, h₀⟩ := h₀
  refine (initRing_leads s₀ h₀).bind ?_
  intro s₁ h₁
  have hstart : tally cfg.measurementCount 0 0 = fun _ => 0 := funext (tally_zero _)
  refine (startSelf ring_common s₁ h₁).bind ?_
  intro s₂ h₂
  exact tSelfSweep_sweeps s₂ ⟨σ, hstart ▸ hσ, h₂⟩

/-! ## 3. The number of transfers -/

theorem messageSize_injective : Function.Injective messageSize := by
  intro m n h
  simp only [messageSize, messageSizeMin, Nat.shiftLeft_eq] at h
  exact Nat.pow_right_injective (Nat.le_refl 2) (Nat.eq_of_mul_eq_mul_left (by decide) h)

theorem writeSelf_inj {m n : Nat} : writeSelf m = writeSelf n ↔ m = n := by
  simp [writeSelf, messageSize_injective.eq_iff]

theorem readSelf_inj {m n : Nat} : readSelf m = readSelf n ↔ m = n := by
  simp [readSelf, messageSize_injective.eq_iff]

/-- A pass of the inner loop makes each transfer of its own step once. -/
theorem tSelfLoop_makes {c : Call Thread Object Addr EntryFn} {m : Nat}
    (hc : c = writeSelf n ∨ c = readSelf n) (h : Makes c m code) (j : Nat) :
    Makes c ((if j = n then 1 else 0) + m) (tSelfLoop (pipeAsync (B := B) cfg) j ++ code) := by
  have hwrite : Differs (G := TestMem B) (writeSelf n) fun _ => readSelf j := by
    simp [Differs, readSelf, writeSelf]
  have hread : Differs (G := TestMem B) (readSelf n) fun _ => writeSelf j := by
    simp [Differs, readSelf, writeSelf]
  have hfeed : Makes c m (tSelfFeed j code) := .prim (.prim (.prim h))
  refine .prim (.prim (.prim ?_))
  by_cases hj : j = n
  · subst hj
    rw [if_pos rfl, Nat.add_comm]
    rcases hc with rfl | rfl
    · exact .here (fun _ => rfl) (.call hwrite hfeed)
    · exact .call hread (.here (fun _ => rfl) hfeed)
  · rw [if_neg hj, Nat.zero_add]
    rcases hc with rfl | rfl
    · exact .call (fun _ => mt writeSelf_inj.mp hj) (.call hwrite hfeed)
    · exact .call hread (.call (fun _ => mt readSelf_inj.mp hj) hfeed)

theorem tSelfStep_makes {c : Call Thread Object Addr EntryFn} {m : Nat}
    (hc : c = writeSelf n ∨ c = readSelf n) (h : Makes c m code) (j : Nat) :
    Makes c ((if j = n then cfg.measurementCount else 0) + m)
      (tSelfStep (B := B) cfg (pipeAsync cfg) j 0 :: code) := by
  have hpasses : Makes c ((∑ _ ∈ Finset.Ico 0 cfg.measurementCount, if j = n then 1 else 0) + m)
      (tSelfStep cfg (pipeAsync cfg) j 0 :: code) :=
    .forUp _ _ (fun _ => rfl) (Nat.zero_le _) (fun _ _ _ _ hcode => tSelfLoop_makes hc hcode j) h
  simpa using hpasses

/-- The sweep makes `MEASUREMENT_COUNT` of them in every step. -/
theorem tSelfSweep_makes {c : Call Thread Object Addr EntryFn} {m : Nat}
    (hc : c = writeSelf n ∨ c = readSelf n) (hn : n < cfg.messageSizeSteps)
    (h : Makes c m code) :
    Makes c (cfg.measurementCount + m) (tSelfSweep (B := B) cfg (pipeAsync cfg) 0 :: code) := by
  have hsteps : Makes c ((∑ j ∈ Finset.Ico 0 cfg.messageSizeSteps,
      if j = n then cfg.measurementCount else 0) + m)
      (tSelfSweep cfg (pipeAsync cfg) 0 :: code) :=
    .forUp _ _ (fun _ => rfl) (Nat.zero_le _) (fun j _ _ _ hcode => tSelfStep_makes hc hcode j) h
  simpa [hn] using hsteps

theorem omits_tSelfEnd {c : Call Thread Object Addr EntryFn}
    (hc : c = writeSelf n ∨ c = readSelf n) : Omits c (tSelfEnd (B := B)) := by
  rcases hc with rfl | rfl <;> simp [Differs, writeSelf, readSelf]

theorem tSelf_makes {c : Call Thread Object Addr EntryFn} (hc : c = writeSelf n ∨ c = readSelf n)
    (hn : n < cfg.messageSizeSteps) :
    Makes c cfg.measurementCount (tSelf (B := B) cfg (pipeAsync cfg)) := by
  refine .call ?_ (tSelfSweep_makes hc hn (.none (omits_tSelfEnd hc)))
  rcases hc with rfl | rfl <;> simp [Differs, writeSelf, readSelf]

/-- `I_Task` creates `T_Self` once. -/
theorem createsOnce_tSelf :
    CreatesOnce tSelfThread .tSelf (iTask (B := B) cfg (pipeAsync cfg)) := by
  refine ⟨tSelfPrio, kcall (.kEventPost .testEvent startSelfEventMask) :: iTaskSelfWait ++
    iTaskUp cfg (pipeAsync cfg), ?_, _ :: _ :: _ :: _ :: _ :: _ :: [], rfl, ?_⟩
  · simp [Leaves, iTaskSelfWait, iTaskUp, iTaskDir, iTaskWait, iTaskAfter, countOutliers,
      seriesOfStep, verdictLoop, verdictBody]
  · simp [Leaves]

/-- At the end of the sweep all its transfers have been made. -/
theorem calls_of_tSelfEnd {K : Type} (Z : Zephyr K Thread Object Addr EntryFn)
    {c : Call Thread Object Addr EntryFn} (hc : c = writeSelf n ∨ c = readSelf n)
    (hn : n < cfg.messageSizeSteps) {m : Nat}
    (hcode : (run (B := B) cfg (pipeAsync cfg) Z m).code tSelfThread = tSelfEnd) :
    (run (B := B) cfg (pipeAsync cfg) Z m).calls tSelfThread c = cfg.measurementCount := by
  have hcounted : CallsCounted idleThread tSelfThread .tSelf c cfg.measurementCount
      (run (B := B) cfg (pipeAsync cfg) Z m) :=
    CallsCounted.run Z Test.pipeAsync.background.controlledBy Test.pipeAsync.orderly.iTask trivial
      createsOnce_tSelf (by simp) (tSelf_makes hc hn) ..
  refine hcounted.calls_eq ?_ ?_
  · rw [hcode]
    exact List.cons_ne_nil _ _
  · rw [hcode]
    exact omits_tSelfEnd hc

/-- `T_Self` is at the end of its sweep: it has made as many writes and reads in
every step as samples are recorded. -/
structure SweepDone (cfg : Config) (s : TestState B) : Prop where
  code : s.code tSelfThread = tSelfEnd
  count : ∀ n < cfg.messageSizeSteps, s.mem.count (.selfSend n) = cfg.measurementCount
  writes : ∀ n < cfg.messageSizeSteps, s.calls tSelfThread (writeSelf n) = cfg.measurementCount
  reads : ∀ n < cfg.messageSizeSteps, s.calls tSelfThread (readSelf n) = cfg.measurementCount

/-! ## 4. The run -/

theorem run_eq_iterate {K : Type} (Z : Zephyr K Thread Object Addr EntryFn) (ipc : Ipc B)
    (n : Nat) : run cfg ipc Z n = (program cfg ipc).next^[n] (start cfg ipc) := by
  induction n with
  | zero => exact run_zero Z ipc
  | succ n ih => rw [run_succ, ih, Function.iterate_succ_apply']

/-- The run gets to the end of the sweep of `T_Self`, and every state before is as
claimed. -/
theorem run_sweeps {K : Type} (Z : Zephyr K Thread Object Addr EntryFn) :
    ∃ m, SweepDone (B := B) cfg (run cfg (pipeAsync cfg) Z m) ∧
      ∀ j < m, (run (B := B) cfg (pipeAsync cfg) Z j).AtStmt
        (RingStmt cfg (run cfg (pipeAsync cfg) Z j)) := by
  have hsweeps : Does cfg (pipeAsync cfg) (RingStmt cfg) (start (B := B) cfg (pipeAsync cfg)) _ :=
    start_sweeps
  obtain ⟨t, hsteps, σ, hσ, ht⟩ := hsweeps
  obtain ⟨m, rfl, hgood⟩ := hsteps.exists_iterate
  refine ⟨m, ?_, ?_⟩
  · have hcode : (run (B := B) cfg (pipeAsync cfg) Z m).code tSelfThread = tSelfEnd := by
      rw [run_eq_iterate]
      exact ht.task.2.2.2
    refine ⟨hcode, fun n hn => ?_, fun n hn => calls_of_tSelfEnd Z (.inl rfl) hn hcode,
      fun n hn => calls_of_tSelfEnd Z (.inr rfl) hn hcode⟩
    rw [run_eq_iterate, Mem.count, ht.series, hσ.self, tally_done hn]
  · intro j hj
    rw [run_eq_iterate]
    exact (hgood j hj).mono fun _ _ h => h.2.2.2

/-! ## 5. The law -/

/-- Transfer `i` of step `n` is split at the end of the ring, if `N` transfers are
made in each of `S` steps. -/
abbrev Splits (N S n i : Nat) : Prop := Ring.SweepCrosses messageSizeMin N S n i

/-- The numbers of `pipe_async.c`. -/
theorem split_steps : ∀ n < 9, (¬ 2 ^ n ∣ 50000 ↔ 128 ≤ messageSize n) := by decide

theorem split_offset : ∀ n < 9, 128 ≤ messageSize n →
    messageSizeMin * 50000 * (2 ^ n - 1) % Ring.sweepSize messageSizeMin 9 = 704 := by decide

/-- The ring of `T_Self`: every write and every read of the sweep copies from the
offset `Ring.transferOffset` on, in the run from boot to the end of the sweep.
A step begins where the steps before it, of `N` transfers each, have moved the
offset. If its size divides `N` no transfer of it is split, otherwise one of
every round of the ring. -/
theorem pipeSelf_ring (cfg : Config) {K : Type} (Z : Zephyr K Thread Object Addr EntryFn) :
    (∃ m, SweepDone (B := B) cfg (run cfg (pipeAsync cfg) Z m) ∧
      ∀ j < m, (run (B := B) cfg (pipeAsync cfg) Z j).AtStmt
        (RingStmt cfg (run cfg (pipeAsync cfg) Z j))) ∧
    (∀ N S n : Nat, n < S →
      Ring.transferOffset messageSizeMin N S n 0 =
          messageSizeMin * N * (2 ^ n - 1) % Ring.sweepSize messageSizeMin S ∧
        (2 ^ n ∣ N → ∀ i, ¬ Splits N S n i) ∧
        (¬ 2 ^ n ∣ N → ∀ i, ∃! j, (i ≤ j ∧ j < i + 2 ^ (S - 1 - n)) ∧ Splits N S n j) ∧
        (¬ 2 ^ n ∣ N → 2 ^ (S - 1 - n) ≤ N → ∃ i < N, Splits N S n i)) ∧
    ∀ n < 9, ((∃ i < 50000, Splits 50000 9 n i) ↔ 128 ≤ messageSize n) ∧
      (128 ≤ messageSize n → Ring.transferOffset messageSizeMin 50000 9 n 0 = 704) := by
  have hmin : 0 < messageSizeMin := by decide
  refine ⟨run_sweeps Z, ?_, ?_⟩
  · intro N S n hn
    refine ⟨Ring.stepOffset_eq hmin, Ring.not_sweepCrosses hmin hn,
      Ring.existsUnique_sweepCrosses hmin hn, ?_⟩
    intro hdvd hN
    exact (Ring.exists_sweepCrosses_iff hmin hn hN).mpr hdvd
  · intro n hn
    have hround : 2 ^ (9 - 1 - n) ≤ 50000 := by
      have hle : 2 ^ (9 - 1 - n) ≤ 2 ^ 8 := Nat.pow_le_pow_right (by omega) (by omega)
      omega
    constructor
    · rw [Ring.exists_sweepCrosses_iff hmin hn hround]
      exact split_steps n hn
    · intro hsize
      show Ring.stepOffset messageSizeMin 50000 9 n = 704
      rw [Ring.stepOffset_eq hmin]
      exact split_offset n hn hsize

end ZephyrBench.Itc.PipeTest

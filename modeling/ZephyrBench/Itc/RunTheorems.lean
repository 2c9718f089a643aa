/-
ZephyrBench.Itc.RunTheorems — the run of a test.

`run_settles`: for a test that satisfies `Protocol` the run over any documented
kernel gets to the verdict with all samples recorded, and every state is as
claimed.

## How the proof goes

`I_Task` creates the tasks of a scenario, waits for its end and removes them;
`T_Self` comes first, `up` next, `down` last. Each scenario is three stretches:
its start (`startSelf`, `startDir`), its sweep (`Itc.Sweep`), its end (`endSelf`,
`endDir`); `self_records` and `dir_records` put them together, and `run_leads`
the scenarios. Then `I_Task` adds up the outliers, which is a loop over the steps
with a list of series in each (`countOutliers_ends`, `addOutliers`).

The calls on the event are kept in the scenes all the way, latest first. At the
end they are `runEvents`, so `Finished` can say that every signal of the run was
sent and consumed once.

What `I_Task` reads of the series does not change them, so the samples are
complete from the end of `down` on (`Complete`).
-/
import ZephyrBench.Itc.Sweep

namespace ZephyrBench.Itc

open Rtos Rtos.Exec Thread Object Series Marker

variable {B : Bmth} {cfg : Config} {ipc : Ipc B}
  {own : TestState B → Thread → Statement B → Prop} (P : Protocol cfg ipc own)
  {E : List HistEntry} {d : Dir} {a : Nat → Nat} {b : Dir → Nat → Nat} {code : Code B}

attribute [local simp] Good HandoffStmt ScenarioStmt SelfStmt isTransfer taskIdlePrio tSelfPrio
  tArmPrio blocked recvMessage sendMessage Prog.takeIrq program

/-! ## 1. I_Task -/

/-- `I_Task` at `code`, with the samples recorded. -/
def IdleRecording (ipc : Ipc B) (I : Store → Prop) (a : Nat → Nat)
    (b : Dir → Nat → Nat) (E : List HistEntry) (code : Code B) (s : TestState B) : Prop :=
  ∃ σ, Recorded ipc a b σ ∧ IdleAt I σ E code s

@[local simp] theorem startEventMask_up : startEventMask .up = 2#32 := rfl

@[local simp] theorem startEventMask_down : startEventMask .down = 4#32 := rfl

@[local simp] theorem doneEventMask_ne_start (d d' : Dir) :
    ¬ doneEventMask d = startEventMask d' := by
  cases d <;> cases d' <;> decide

/-- The other masks, evaluated, are not `START` masks of a direction. -/
@[local simp] theorem eq_startEventMask (d : Dir) :
    ¬ 1#32 = startEventMask d ∧ (2#32 = startEventMask d ↔ d = .up) ∧
      (4#32 = startEventMask d ↔ d = .down) ∧ ¬ 16#32 = startEventMask d := by
  cases d <;> decide

/-- The other masks, evaluated, are not `DONE` masks of a direction. -/
@[local simp] theorem ne_doneEventMask (d : Dir) :
    ¬ 1#32 = doneEventMask d ∧ ¬ 2#32 = doneEventMask d ∧ ¬ 4#32 = doneEventMask d ∧
      ¬ 16#32 = doneEventMask d := by
  cases d <;> decide

theorem doneEventMask_injective {d d' : Dir} (h : doneEventMask d = doneEventMask d') :
    d = d' := by
  revert h
  cases d <;> cases d' <;> decide

attribute [local simp] tSendPrio tRecvPrio startSelfEventMask doneSelfEventMask tSelf tSend tRecv
  tArm tSendLoop tRecvLoop

include P in
/-- Between the scenarios nothing is left of them. -/
theorem quiet {σ : Series → B.Series} {s : TestState B} (h : IdleAt P.Idle σ E code s) :
    Quiet cfg ipc s where
  alive := h.alive
  armSem := h.armSem
  recvSem := h.recvSem
  event := h.event
  clear d n hn := ⟨P.empty d _ h.store n hn, h.waitq _⟩
  clearSelf hr n hn := ⟨P.emptySelf hr _ h.store n hn, h.waitq _⟩

include P in
/-- `I_Task` creates the tasks of a direction and starts them; they run to
the sweep. -/
theorem startDir {σ : Series → B.Series} (s : TestState B)
    (h : IdleAt P.Idle σ E (iTaskDir d ++ iTaskAfter cfg ipc d) s) :
    Does cfg ipc own s (Scene cfg ipc d P.Idle σ (startEvents d ++ E) (blocked ipc d
      [ tArmSweep cfg ipc d 0, kcall (.kEventPost testEvent (doneEventMask d)),
        kcall .kThreadSuspendCurrent ])) := by
  have hown := P.own_common
  have hquiet := quiet P h
  have hstore := h.store
  have halive₁ := h.alive.create (tSendThread d)
  have halive₂ := halive₁.create (tRecvThread d)
  have halive₃ := halive₂.create tArmThread
  simp only [store] at hstore
  obtain ⟨⟨_, _⟩, _, _, _, _, _, _, _, _, _, _⟩ := h
  cases d
  case up =>
    have hcreated : ∃ d, Only [tRecvThread d, tSendThread d, idleThread]
        (Function.update (Function.update s.kern.alive (tSendThread .up) true)
          (tRecvThread .up) true) := ⟨.up, halive₂⟩
    iterate 7
      refine .step (by simp [*, iTaskDir]) ?_
      simp [*, iTaskDir]
    refine .step ?_ ?_
    · simp [*]
      constructor <;> simp [*]
    simp [*]
    iterate 2
      refine .step (by simp [*]) ?_
      simp [*]
    refine .done ?_
    constructor <;> simp [*, store, startEvents, afterSend, afterRecv]
  case down =>
    have hcreated : ∃ d, Only [tRecvThread d, tSendThread d, idleThread]
        (Function.update (Function.update s.kern.alive (tSendThread .down) true)
          (tRecvThread .down) true) := ⟨.down, halive₂⟩
    iterate 7
      refine .step (by simp [*, iTaskDir]) ?_
      simp [*, iTaskDir]
    refine .step ?_ ?_
    · simp [*]
      constructor <;> simp [*]
    simp [*]
    iterate 2
      refine .step (by simp [*]) ?_
      simp [*]
    refine .done ?_
    constructor <;> simp [*, store, startEvents, afterSend, afterRecv]

include P in
/-- `T_Arm*` tells `I_Task` that the direction is done, which removes its
tasks. -/
theorem endDir {I : Store → Prop} (hb : ∀ m < cfg.messageSizeSteps, b d m = cfg.measurementCount)
    (s : TestState B)
    (h : Recording cfg ipc d I a b E
      [kcall (.kEventPost testEvent (doneEventMask d)), kcall .kThreadSuspendCurrent] s) :
    Does cfg ipc own s (IdleRecording ipc I a b (doneEvents d ++ E) (iTaskAfter cfg ipc d)) := by
  obtain ⟨σ, hσ, h⟩ := h
  have hown := P.own_common
  have hstore := h.store
  have halive := ((h.alive.abort (tSendThread d)).abort (tRecvThread d)).abort tArmThread
  simp only [store] at hstore
  have hdone : ∀ d', doneEventMask d = doneEventMask d' → ∀ m < cfg.messageSizeSteps,
      B.iterationCount (σ (sendTo d' m)) = cfg.measurementCount ∧
      (ipc.rendezvous = true →
        B.iterationCount (σ (rendezvousTo d' m)) = cfg.measurementCount) := by
    intro d' hd' m hm
    obtain rfl := doneEventMask_injective hd'
    exact ⟨by rw [hσ.send, hb m hm], fun hr => by rw [hσ.rendezvous hr, hb m hm]⟩
  obtain ⟨_, _, _, _, _, _, _, _, _, _, _, _, _, _, _⟩ := h
  refine .step (by simp [*]; exact hdone) ?_
  simp [*]
  cases d
  all_goals
    -- I_Task removes the tasks of the direction one after the other
    iterate 5
      refine .step (by simp [*, doneEventMask, iTaskWait]) ?_
      simp [*, doneEventMask, iTaskWait]
    refine .done ⟨σ, hσ, ?_⟩
    constructor
    case alive => simpa using halive
    all_goals simp [*, store, doneEvents, doneEventMask]

/-- `I_Task` creates `T_Self` and starts it; it runs to the sweep. -/
theorem startSelf (hown : ∀ s t st, isCommon s st = true → own s t st) {I : Store → Prop}
    {σ : Series → B.Series} (s : TestState B)
    (h : IdleAt I σ E (iTaskSelf ++ iTaskUp cfg ipc) s) :
    Does cfg ipc own s (SelfAt cfg ipc I σ (startSelfEvents ++ E)
      [ tSelfSweep cfg ipc 0, kcall (.kEventPost testEvent doneSelfEventMask),
        kcall .kThreadSuspendCurrent ]) := by
  have hstore := h.store
  have halive := h.alive.create tSelfThread
  simp only [store] at hstore
  obtain ⟨⟨_, _⟩, _, _, _, _, _, _, _, _, _, _⟩ := h
  iterate 3
    refine .step (by simp [*, iTaskSelf]) ?_
    simp [*, iTaskSelf]
  refine .done ?_
  constructor <;> simp [*, store, startSelfEvents]

include P in
/-- `T_Self` tells `I_Task` that it is done, which removes it. -/
theorem endSelf {I : Store → Prop} (s : TestState B)
    (h : SelfRecording cfg ipc I a E
      [kcall (.kEventPost testEvent doneSelfEventMask), kcall .kThreadSuspendCurrent] s) :
    Does cfg ipc own s (IdleRecording ipc I a (fun _ _ => 0) (doneSelfEvents ++ E)
      (iTaskUp cfg ipc)) := by
  obtain ⟨σ, hσ, h⟩ := h
  have hown := P.own_common
  have hstore := h.store
  have halive := h.alive.abort tSelfThread
  simp only [store] at hstore
  obtain ⟨⟨_, _⟩, _, _, _, _, _, _, _, _, _, _⟩ := h
  iterate 4
    refine .step (by simp [*, iTaskSelfWait]) ?_
    simp [*, iTaskSelfWait]
  refine .done ⟨σ, hσ, ?_⟩
  constructor
  case alive => simpa using halive
  all_goals simp [*, store, doneSelfEvents]

/-! ## 2. The run -/

include P in
/-- A direction records its samples. -/
theorem dir_records (hb : b d = fun _ => 0) (s : TestState B)
    (h : IdleRecording ipc P.Idle a b E (ipc.before d ++ (iTaskDir d ++ iTaskAfter cfg ipc d)) s) :
    Does cfg ipc own s (IdleRecording ipc P.Idle a (progress cfg b d cfg.messageSizeSteps 0)
      (dirEvents d ++ E) (iTaskAfter cfg ipc d)) := by
  obtain ⟨σ, hσ, h⟩ := h
  have hstart : progress cfg b d 0 0 = b := by
    have hzero : tally cfg.measurementCount 0 0 = b d := by
      rw [hb]
      exact funext (tally_zero _)
    rw [progress, hzero, Function.update_eq_self]
  refine (P.before d _ _ _ s h).bind ?_
  intro s₁ h₁
  refine (startDir P s₁ h₁).bind ?_
  intro s₂ h₂
  refine (tArmSweep_records P s₂ ⟨σ, hstart ▸ hσ, h₂⟩).bind ?_
  intro s₃ h₃
  rw [dirEvents, List.append_assoc]
  refine endDir P (fun m hm => ?_) s₃ h₃
  rw [progress, Function.update_self, tally_done hm]

include P in
/-- `T_Self` records its samples. -/
theorem self_records (hr : ipc.hasSelf = true) (s : TestState B)
    (h : IdleRecording ipc P.Idle (fun _ => 0) (fun _ _ => 0) E (iTaskSelf ++ iTaskUp cfg ipc) s) :
    Does cfg ipc own s (IdleRecording ipc P.Idle
      (tally cfg.measurementCount cfg.messageSizeSteps 0) (fun _ _ => 0) (selfEvents ++ E)
      (iTaskUp cfg ipc)) := by
  obtain ⟨σ, hσ, h⟩ := h
  have hstart : tally cfg.measurementCount 0 0 = fun _ => 0 := funext (tally_zero _)
  refine (startSelf P.own_common s h).bind ?_
  intro s₁ h₁
  refine (tSelfSweep_records P hr s₁ ⟨σ, hstart ▸ hσ, h₁⟩).bind ?_
  intro s₂ h₂
  rw [selfEvents, List.append_assoc]
  exact endSelf P s₂ h₂

include P in
/-- `I_Task` resets the semaphores, which are 0. -/
theorem resetSems {I : Store → Prop} (s : TestState B)
    (h : IdleRecording ipc I a b E
      (kcall (.kSemReset testArmSem) :: kcall (.kSemReset testRecvSem) :: code) s) :
    Does cfg ipc own s (IdleRecording ipc I a b E code) := by
  obtain ⟨σ, hσ, h⟩ := h
  have hown := P.own_common
  have hstore := h.store
  simp only [store] at hstore
  obtain ⟨⟨_, _⟩, _, _, _, _, _, _, _, _, _⟩ := h
  iterate 2
    refine .step (by simp [*]) ?_
    simp [*]
  refine .done ⟨σ, hσ, ?_⟩
  constructor <;> simp [*, store]

include P in
/-- `I_Task` adds the outliers of the series `l`. -/
theorem addOutliers (l : List Series) (s : TestState B)
    (h : IdleRecording ipc (fun _ => True) a b E
      (l.map (fun m => .prim (.assign (.addOutliers m))) ++ code) s) :
    Does cfg ipc own s (IdleRecording ipc (fun _ => True) a b E code) := by
  induction l generalizing s with
  | nil => exact .done h
  | cons m l ih =>
    obtain ⟨σ, hσ, h⟩ := h
    have hown := P.own_common
    obtain ⟨⟨_, _⟩, _, _, _, _, _, _, _, _, _⟩ := h
    refine .step (by simp [*]) (ih _ ⟨σ, hσ, ?_⟩)
    constructor <;> simp [*, Assign.set]

include P in
/-- The loop that adds up the outliers gets to its end. -/
theorem countOutliers_ends (s : TestState B)
    (h : IdleRecording ipc (fun _ => True) a b E (countOutliers cfg ipc 0 :: code) s) :
    Does cfg ipc own s (IdleRecording ipc (fun _ => True) a b E code) := by
  have hown := P.own_common
  have head : ∀ n t, IdleRecording ipc (fun _ => True) a b E (countOutliers cfg ipc n :: code) t →
      Does cfg ipc own t (IdleRecording ipc (fun _ => True) a b E
        (if n < cfg.messageSizeSteps then
          (seriesOfStep ipc n).map (fun m => .prim (.assign (.addOutliers m))) ++
            countOutliers cfg ipc (n + 1) :: code
        else code)) := by
    intro n t ht
    obtain ⟨σ, hσ, ht⟩ := ht
    obtain ⟨⟨_, _⟩, _, _, _, _, _, _, _, _, _⟩ := ht
    refine .step (by simp [*, countOutliers]) ?_
    refine .done ⟨σ, hσ, ?_⟩
    constructor <;> simp [*, countOutliers]
  refine Leads.bind (Leads.loop (n := cfg.messageSizeSteps) (S := fun n =>
    IdleRecording ipc (fun _ => True) a b E (countOutliers cfg ipc n :: code)) ?_ h) ?_
  · intro n hn t ht
    refine (head n t ht).bind ?_
    intro u hu
    rw [if_pos hn] at hu
    exact addOutliers P _ u hu
  · intro t ht
    have h := head _ t ht
    rwa [if_neg (Nat.lt_irrefl _)] at h

/-- All samples are recorded. -/
def Complete (cfg : Config) (ipc : Ipc B) (_ : Kernel Thread Object Addr)
    (σ : Series → B.Series) : Prop :=
  ∀ n < cfg.messageSizeSteps,
    (ipc.hasSelf = true → B.iterationCount (σ (selfSend n)) = cfg.measurementCount) ∧
    ∀ d, B.iterationCount (σ (sendTo d n)) = cfg.measurementCount ∧
      (ipc.rendezvous = true → B.iterationCount (σ (rendezvousTo d n)) = cfg.measurementCount)

/-- `I_Task` initialises the event and the semaphores. -/
theorem boot (hown : ∀ s t st, isCommon s st = true → own s t st) :
    Does cfg ipc own (start cfg ipc)
      (IdleRecording ipc (· = bootStore cfg) (fun _ => 0) (fun _ _ => 0) []
        (ipc.init ++ ((if ipc.hasSelf then iTaskSelf else []) ++ iTaskUp cfg ipc))) := by
  iterate 3
    refine .step (by simp [*, start, Kernel.boot, iTask]) ?_
    simp [*, start, Kernel.boot, iTask]
  refine .done ⟨fun x => B.mseriesInitialize (readWindow x), ?_, ?_⟩
  · constructor <;> simp
  · constructor
    case alive =>
      intro u hu
      simpa [Function.update_apply] using hu
    all_goals simp [bootStore, Mem.initial]

/-- `I_Task` is in its last loop, with all samples recorded and every signal of
the run sent and consumed once. -/
def Finished (cfg : Config) (ipc : Ipc B) (s : TestState B) : Prop :=
  ZephyrBench.Settled idleThread outliers (Complete cfg ipc) s ∧ eventCalls s.log = runEvents ipc

theorem Finished.next {s : TestState B} (h : Finished cfg ipc s) :
    Finished cfg ipc ((program cfg ipc).next s) := by
  obtain ⟨hsettled, hevents⟩ := h
  refine ⟨hsettled.next fun _ _ _ _ => rfl, ?_⟩
  obtain ⟨hcur, hirq, hcode, -⟩ := hsettled
  generalize hc : s.code idleThread = c at hcode
  cases hcode with
  | head => simp [*, verdictLoop]
  | body => simp [*, verdictBody]
  | signal ok => simp [*]

include P in
theorem run_leads : Does cfg ipc own (start cfg ipc) (Finished cfg ipc) := by
  refine (boot P.own_common).bind ?_
  intro s₀ h₀
  obtain ⟨σ, hσ, h₀⟩ := h₀
  refine (P.init _ _ _ s₀ h₀).bind ?_
  intro s₁ h₁
  have hself : Does cfg ipc own s₁ fun t => ∃ a,
      (ipc.hasSelf = true → ∀ m < cfg.messageSizeSteps, a m = cfg.measurementCount) ∧
      IdleRecording ipc P.Idle a (fun _ _ => 0) (if ipc.hasSelf then selfEvents else [])
        (iTaskUp cfg ipc) t := by
    cases hr : ipc.hasSelf
    case false => exact .done ⟨fun _ => 0, by simp, σ, hσ, by simpa [hr] using h₁⟩
    case true =>
      refine (self_records P hr s₁ ⟨σ, hσ, by simpa [hr] using h₁⟩).mono ?_
      intro t ht
      exact ⟨_, fun _ m hm => tally_done hm, by simpa using ht⟩
  refine hself.bind ?_
  intro s₂ h₂
  obtain ⟨a, ha, h₂⟩ := h₂
  rw [iTaskUp, List.append_assoc] at h₂
  refine (dir_records P rfl s₂ h₂).bind ?_
  intro s₃ h₃
  have hafter : iTaskAfter cfg ipc .up = kcall (.kSemReset testArmSem) ::
      kcall (.kSemReset testRecvSem) ::
        (ipc.before .down ++ (iTaskDir .down ++ iTaskAfter cfg ipc .down)) := by
    simp [iTaskAfter]
  rw [hafter] at h₃
  refine (resetSems P s₃ h₃).bind ?_
  intro s₄ h₄
  refine (dir_records P (by simp [progress]) s₄ h₄).bind ?_
  intro s₅ h₅
  obtain ⟨σ₅, hσ₅, h₅⟩ := h₅
  refine (countOutliers_ends P s₅ ⟨σ₅, hσ₅, { h₅ with store := trivial }⟩).mono ?_
  intro t ht
  obtain ⟨σ', hσ', ht⟩ := ht
  refine ⟨⟨ht.runs.1, ht.irq.1, ht.idle.2.2.2 ▸ .head, fun n hn => ?_⟩, ht.events⟩
  rw [ht.series]
  refine ⟨fun hr => by rw [hσ'.self, ha hr n hn], fun d => ?_⟩
  have hd : progress cfg (progress cfg (fun _ _ => 0) .up cfg.messageSizeSteps 0) .down
      cfg.messageSizeSteps 0 d n = cfg.measurementCount := by
    cases d <;> simp [progress, tally_done hn]
  exact ⟨by rw [hσ'.send, hd], fun hr => by rw [hσ'.rendezvous hr, hd]⟩

include P in
theorem good_of_finished (s : TestState B) (h : Finished cfg ipc s) : Good cfg ipc own s := by
  have hown := P.own_common
  exact h.1.atStmt ⟨trivial, trivial, trivial, hown _ _ _ rfl⟩
    (fun _ _ => ⟨trivial, trivial, trivial, hown _ _ _ rfl⟩)
    fun _ => ⟨trivial, trivial, trivial, hown _ _ _ rfl⟩

theorem run_succ {K : Type} (Z : Zephyr K Thread Object Addr EntryFn) (ipc : Ipc B)
    (n : Nat) : run cfg ipc Z (n + 1) = (program cfg ipc).next (run cfg ipc Z n) := by
  simp only [run, Prog.run, Function.iterate_succ_apply', step_view]

theorem run_zero {K : Type} (Z : Zephyr K Thread Object Addr EntryFn) (ipc : Ipc B) :
    run cfg ipc Z 0 = start cfg ipc :=
  run_view _ Z _ _ _ _ _ 0

include P in
/-- The run of a test gets to the verdict with all samples recorded, and every
state is as it should be. -/
theorem run_settles {K : Type} (Z : Zephyr K Thread Object Addr EntryFn) :
    Ends (run (B := B) cfg ipc Z) (Finished cfg ipc) ∧ ∀ n, Good cfg ipc own (run cfg ipc Z n) :=
  ZephyrBench.run_of_closed Z (fun _ h => h.next) (run_leads P) (good_of_finished P)

end ZephyrBench.Itc

/-
ZephyrBench.Itc.Sweep — the sweep of a scenario.

A pass of `T_Arm*` is a transaction and its feed, and records one sample; the
passes of a step record `MEASUREMENT_COUNT`, the sweep that of every step. The
sweep of `T_Self` does the same without a second task.

  * `feed` — `T_Arm*` feeds the series of a pass, one or two of them.
  * `tArmLoop_records`, `tArmStep_records`, `tArmSweep_records` — a pass, a step
    and the sweep of a direction.
  * `tSelfLoop_records`, `tSelfStep_records`, `tSelfSweep_records` — the same of
    `T_Self`.

The three of each are one induction inside the other. Their common measure is
`tally`: the number of samples that the series of a step has when so many steps
are done and so many samples of the next. `tally_succ` is what a pass changes,
`tally_full` the end of a step.

At the head of each loop a test has to be where a transaction may begin, with its
objects empty; that is all that is asked of the invariant `I` there
(`tArm_loopHead`, `tSelf_loopHead`).
-/
import ZephyrBench.Itc.Transaction

namespace ZephyrBench.Itc

open Rtos Rtos.Exec Thread Object Series Marker

variable {B : Bmth} {cfg : Config} {ipc : Ipc B}
  {own : TestState B → Thread → Statement B → Prop} (P : Protocol cfg ipc own)
  {E : List HistEntry}

/-! ## 1. Samples -/

theorem tally_zero (N m : Nat) : tally N 0 0 m = 0 := by simp [tally]

/-- A step with all its samples is done. -/
theorem tally_full (N n : Nat) : tally N n N = tally N (n + 1) 0 := by
  funext m
  simp only [tally]
  split_ifs <;> omega

theorem tally_succ (N n i m : Nat) :
    tally N n (i + 1) m = if m = n then tally N n i m + 1 else tally N n i m := by
  simp only [tally]
  split_ifs <;> omega

theorem tally_done {N S m : Nat} (h : m < S) : tally N S 0 m = N := by simp [tally, h]

/-- The samples recorded: `a` in the series of `T_Self`, `b` in those of the
directions. -/
structure Recorded (ipc : Ipc B) (a : Nat → Nat) (b : Dir → Nat → Nat)
    (σ : Series → B.Series) : Prop where
  self : ∀ m, B.iterationCount (σ (selfSend m)) = a m
  send : ∀ d m, B.iterationCount (σ (sendTo d m)) = b d m
  rendezvous : ipc.rendezvous = true → ∀ d m, B.iterationCount (σ (rendezvousTo d m)) = b d m

/-- A statement on the window of a series records nothing. -/
theorem Recorded.update {a : Nat → Nat} {b : Dir → Nat → Nat} {σ : Series → B.Series}
    (h : Recorded ipc a b σ) {x : Series} {v : B.Series}
    (hv : B.iterationCount v = B.iterationCount (σ x)) :
    Recorded ipc a b (Function.update σ x v) := by
  have key : ∀ y, B.iterationCount (Function.update σ x v y) = B.iterationCount (σ y) := by
    intro y
    by_cases hy : y = x
    · rw [hy, Function.update_self, hv]
    · rw [Function.update_of_ne hy]
  exact ⟨fun m => by rw [key, h.self], fun d m => by rw [key, h.send],
    fun hr d m => by rw [key, h.rendezvous hr]⟩

theorem recorded_opened {a : Nat → Nat} {b : Dir → Nat → Nat} {σ : Series → B.Series} {d : Dir}
    {n : Nat} (h : Recorded ipc a b σ) : Recorded ipc a b (opened ipc d n σ) := by
  cases hr : ipc.rendezvous
  case false => simpa [opened, hr] using h.update (by simp)
  case true => simpa [opened, hr] using (h.update (by simp)).update (by simp)

/-- An iteration of each series of a step is one more sample of the step. -/
theorem Recorded.feed {a : Nat → Nat} {b : Dir → Nat → Nat} {f f' : Nat → Nat}
    {σ : Series → B.Series} {d : Dir} {n : Nat} {v w : B.Series}
    (h : Recorded ipc a (Function.update b d f) σ)
    (hf : ∀ m, f' m = if m = n then f m + 1 else f m)
    (hv : B.iterationCount v = B.iterationCount (σ (sendTo d n)) + 1)
    (hw : ipc.rendezvous = true →
      B.iterationCount w = B.iterationCount (σ (rendezvousTo d n)) + 1) :
    Recorded ipc a (Function.update b d f')
      (Function.update (Function.update σ (sendTo d n) v) (rendezvousTo d n) w) := by
  obtain ⟨hself, hsend, hrend⟩ := h
  refine ⟨fun m => by simpa using hself m, fun d' m => ?_, fun hr d' m => ?_⟩
  · have hm := hsend d' m
    by_cases hd : d' = d
    · subst hd
      by_cases hmn : m = n <;> simp_all
    · simp_all
  · have hm := hrend hr d' m
    by_cases hd : d' = d
    · subst hd
      by_cases hmn : m = n <;> simp_all
    · simp_all

/-- An iteration of the series of `T_Self` is one more sample of the step. -/
theorem Recorded.feedSelf {b : Dir → Nat → Nat} {f f' : Nat → Nat} {σ : Series → B.Series}
    {n : Nat} {v : B.Series} (h : Recorded ipc f b σ)
    (hf : ∀ m, f' m = if m = n then f m + 1 else f m)
    (hv : B.iterationCount v = B.iterationCount (σ (selfSend n)) + 1) :
    Recorded ipc f' b (Function.update σ (selfSend n) v) := by
  obtain ⟨hself, hsend, hrend⟩ := h
  refine ⟨fun m => ?_, fun d m => by simpa using hsend d m,
    fun hr d m => by simpa using hrend hr d m⟩
  by_cases hmn : m = n <;> simp_all

/-! ## 2. The feed -/

attribute [local simp] Good HandoffStmt ScenarioStmt SelfStmt isTransfer taskIdlePrio tSelfPrio
  tArmPrio blocked recvMessage sendMessage Prog.takeIrq program

/-- What happens after the sample leaves it as it is. -/
theorem Sampled.frame {d : Dir} {s t : TestState B} (h : Sampled ipc d s) {e : HistEntry}
    (he : markerOf e = none) (hlog : t.log = e :: s.log) (htime : t.mem.time = s.mem.time) :
    Sampled ipc d t := by
  obtain ⟨after, sample, before, hs, hbegan, hstart, hmarkers, hpeer, htimes, hafter⟩ := h
  refine ⟨e :: after, sample, before, by rw [hlog, hs, List.cons_append], hbegan,
    by rw [htime, hstart], hmarkers, hpeer, ?_, by rw [List.filterMap_cons_none he, hafter]⟩
  intro t' x hx
  rw [htime]
  exact htimes t' x hx

theorem Scene.peersBlocked {d : Dir} {I : Store → Prop} {σ : Series → B.Series} {code : Code B}
    {s : TestState B} (h : Scene cfg ipc d I σ E (blocked ipc d code) s) : Blocked d s :=
  ⟨h.armSem, h.recvSem, h.sender.2.2.1, h.receiver.2.2.1⟩

include P in
/-- `T_Arm*` feeds a series. -/
theorem feedSeries {d : Dir} {n : Nat} {I : Store → Prop} {σ : Series → B.Series} {code : Code B}
    {x : Nat → Series} {stop : Marker}
    (hx : x = sendTo d ∧ stop = testStopTime ∨ x = rendezvousTo d ∧ stop = testStopTimeRendezvous)
    (s : TestState B)
    (h : Scene cfg ipc d I σ E
      (blocked ipc d (.prim (.mseriesIterate (x n) testStartTime stop false) :: code)) s)
    (hfeeds : Feeds cfg ipc d x n tArmThread s) :
    Does cfg ipc own s fun t =>
      (∃ v, B.iterationCount v = B.iterationCount (σ (x n)) + 1 ∧
        Scene cfg ipc d I (Function.update σ (x n) v) E (blocked ipc d code) t) ∧
      Sampled ipc d t := by
  have hown := P.own_common
  have hgood : HandoffStmt cfg ipc s tArmThread
      (.prim (.mseriesIterate (x n) testStartTime stop false)) := by
    obtain ⟨rfl, rfl⟩ | ⟨rfl, rfl⟩ := hx
    · exact ⟨rfl, rfl, hfeeds⟩
    · exact ⟨rfl, rfl, hfeeds⟩
  have hopen : B.isOpen (σ (x n)) = true := h.series ▸ hfeeds.isOpen
  have hv := B.iterationCount_mseriesIterate_open _ (s.mem.time testStartTime) (s.mem.time stop)
    hopen
  obtain ⟨_, _, _, _, _, _, _, _, _, _, _, _, _, _⟩ := h
  refine .step (by simp_all) ?_
  refine .done ⟨⟨_, hv, ?_⟩, ?_⟩
  · constructor <;> simp [*]
  · refine hfeeds.sampled.frame
      (e := .exec tArmThread (.prim (.mseriesIterate (x n) testStartTime stop false))) rfl ?_ ?_
    all_goals simp [*]

include P in
/-- `T_Arm*` closes a window. -/
theorem closeWindow {d : Dir} {n : Nat} {I : Store → Prop} {σ : Series → B.Series} {code : Code B}
    {x : Series} (hx : x = sendTo d n ∨ x = rendezvousTo d n) (s : TestState B)
    (h : Scene cfg ipc d I σ E (blocked ipc d (.prim (.mwindowClose x) :: code)) s) :
    Does cfg ipc own s
      (Scene cfg ipc d I (Function.update σ x (B.mwindowClose (σ x))) E (blocked ipc d code)) := by
  have hown := P.own_common
  have hblocked := h.peersBlocked
  have hgood : HandoffStmt cfg ipc s tArmThread (.prim (.mwindowClose x)) := by
    obtain rfl | rfl := hx <;> exact hblocked
  obtain ⟨_, _, _, _, _, _, _, _, _, _, _, _, _, _⟩ := h
  refine .step (by simp_all) ?_
  refine .done ?_
  constructor <;> simp [*]

include P in
/-- `T_Arm*` feeds the series of a pass. -/
theorem feed {d : Dir} {n i : Nat} (hn : n < cfg.messageSizeSteps) (hi : i < cfg.measurementCount)
    {I : Store → Prop} {σ : Series → B.Series} {a : Nat → Nat} {b : Dir → Nat → Nat}
    {code : Code B} (hσ : Recorded ipc a (Function.update b d (tally cfg.measurementCount n i)) σ)
    (s : TestState B)
    (h : Scene cfg ipc d I (opened ipc d n σ) E (blocked ipc d (mseriesFeed ipc d n ++ code)) s)
    (hs : Sampled ipc d s) :
    Does cfg ipc own s fun t => ∃ σ',
      Recorded ipc a (Function.update b d (tally cfg.measurementCount n (i + 1))) σ' ∧
      Scene cfg ipc d I σ' E (blocked ipc d code) t := by
  have hopened := recorded_opened (d := d) (n := n) hσ
  have hsend : Feeds cfg ipc d (sendTo d) n tArmThread s := by
    refine ⟨rfl, hn, ?_, ⟨i, hi, fun m => ?_⟩, h.peersBlocked, hs⟩
    · rw [Mem.isOpen, h.series]
      cases hr : ipc.rendezvous <;> simp [opened, hr]
    · rw [Mem.count, h.series, hopened.send, Function.update_self]
  cases hr : ipc.rendezvous
  case false =>
    simp only [mseriesFeed, hr, Bool.false_eq_true, ↓reduceIte, List.cons_append,
      List.nil_append] at h
    refine (feedSeries P (.inl ⟨rfl, rfl⟩) s h hsend).bind ?_
    intro t ht
    obtain ⟨⟨v, hv, ht⟩, -⟩ := ht
    refine (closeWindow P (.inl rfl) t ht).mono fun u hu => ⟨_, ?_, hu⟩
    have hfed := hopened.feed (tally_succ cfg.measurementCount n i) hv
      (w := Function.update (opened ipc d n σ) (sendTo d n) v (rendezvousTo d n)) (by simp [hr])
    rw [Function.update_eq_self] at hfed
    exact hfed.update (by simp)
  case true =>
    simp only [mseriesFeed, hr, ↓reduceIte, List.cons_append, List.nil_append] at h
    refine (feedSeries P (.inl ⟨rfl, rfl⟩) s h hsend).bind ?_
    intro t ht
    obtain ⟨⟨v, hv, ht⟩, hst⟩ := ht
    have hrend : Feeds cfg ipc d (rendezvousTo d) n tArmThread t := by
      refine ⟨rfl, hn, ?_, ⟨i, hi, fun m => ?_⟩, ht.peersBlocked, hst⟩
      · rw [Mem.isOpen, ht.series]
        simp [opened, hr]
      · rw [Mem.count, ht.series, Function.update_of_ne (by simp), hopened.rendezvous hr,
          Function.update_self]
    refine (feedSeries P (.inr ⟨rfl, rfl⟩) t ht hrend).bind ?_
    intro u hu
    obtain ⟨⟨w, hw, hu⟩, -⟩ := hu
    refine (closeWindow P (.inl rfl) u hu).bind ?_
    intro u' hu'
    refine (closeWindow P (.inr rfl) u' hu').mono fun u'' hu'' => ⟨_, ?_, hu''⟩
    have hfed := hopened.feed (tally_succ cfg.measurementCount n i) hv fun _ => by simpa using hw
    exact (hfed.update (by simp)).update (by simp)

/-! ## 3. A sweep -/

/-- The scene of `T_Arm*` at `code`, with the samples recorded. -/
def Recording (cfg : Config) (ipc : Ipc B) (d : Dir) (I : Store → Prop) (a : Nat → Nat)
    (b : Dir → Nat → Nat) (E : List HistEntry) (code : Code B) (s : TestState B) : Prop :=
  ∃ σ, Recorded ipc a b σ ∧ Scene cfg ipc d I σ E (blocked ipc d code) s

/-- The samples recorded when `n` steps of the direction `d` are done and `i`
samples of the next. -/
abbrev progress (cfg : Config) (b : Dir → Nat → Nat) (d : Dir) (n i : Nat) : Dir → Nat → Nat :=
  Function.update b d (tally cfg.measurementCount n i)

variable {d : Dir} {n i : Nat} {a : Nat → Nat} {b : Dir → Nat → Nat} {code : Code B}

include P in
/-- A pass of the inner loop records one sample. -/
theorem tArmLoop_records (hn : n < cfg.messageSizeSteps) (hi : i < cfg.measurementCount)
    (s : TestState B) (h : Recording cfg ipc d (P.Swept d n) a (progress cfg b d n i) E
      (tArmLoop ipc d n ++ code) s) :
    Does cfg ipc own s
      (Recording cfg ipc d (P.Swept d n) a (progress cfg b d n (i + 1)) E code) := by
  obtain ⟨σ, hσ, h⟩ := h
  have hloop : tArmLoop ipc d n ++ code =
      ipc.arm ++ kcall (.kSemGive testRecvSem) :: armAfterRecv ipc d n (ipc.finish d ++ code) := by
    simp [tArmLoop, armAfterRecv]
  rw [hloop] at h
  refine (P.arm d n hn _ _ _ s h).bind ?_
  intro s₁ h₁
  refine (transaction P hn s₁ h₁).bind ?_
  intro s₂ h₂
  refine (feed P hn hi hσ s₂ h₂.1 h₂.2).bind ?_
  intro s₃ h₃
  obtain ⟨σ', hσ', h₃⟩ := h₃
  exact (P.finish d n hn _ _ _ s₃ h₃).mono fun t ht => ⟨σ', hσ', ht⟩

/-- `T_Arm*` at the head of a loop finds the objects as it should. -/
theorem clear_of_scene {I : Store → Prop} {σ : Series → B.Series} {s : TestState B}
    (hI : ∀ x, I x → P.Idle x) (h : Scene cfg ipc d I σ E (blocked ipc d code) s) :
    Clear cfg ipc d s :=
  fun n hn => ⟨P.empty d _ (hI _ h.store) n hn, h.waitq _⟩

include P in
/-- The head of a loop of `T_Arm*`. -/
theorem tArm_loopHead {I : Store → Prop} (hI : ∀ x, I x → P.Idle x) {j : Nat} {cond : Nat → Bool}
    {body : Nat → Code B} (s : TestState B)
    (h : Recording cfg ipc d I a b E (.forUp j cond body :: code) s) :
    Does cfg ipc own s (Recording cfg ipc d I a b E
      (if cond j then body j ++ .forUp (j + 1) cond body :: code else code)) := by
  obtain ⟨σ, hσ, h⟩ := h
  have hown := P.own_common
  have hgood : ∃ d, Blocked d s ∧ Clear cfg ipc d s :=
    ⟨d, h.peersBlocked, clear_of_scene P hI h⟩
  obtain ⟨_, _, _, _, _, _, _, _, _, _, _, _, _, _⟩ := h
  refine .step (by simp_all) ?_
  refine .done ⟨σ, hσ, ?_⟩
  constructor <;> simp [*]

include P in
/-- The inner loop records the samples of a step. -/
theorem tArmStep_records (hn : n < cfg.messageSizeSteps) (s : TestState B)
    (h : Recording cfg ipc d (P.Swept d n) a (progress cfg b d n 0) E
      (tArmStep cfg ipc d n 0 :: code) s) :
    Does cfg ipc own s
      (Recording cfg ipc d (P.Swept d n) a (progress cfg b d (n + 1) 0) E code) := by
  have hI := P.idle_of_swept d n
  refine Leads.bind (Leads.loop (n := cfg.measurementCount) (S := fun i =>
    Recording cfg ipc d (P.Swept d n) a (progress cfg b d n i) E (tArmStep cfg ipc d n i :: code))
    ?_ h) ?_
  · intro i hi t ht
    refine (tArm_loopHead P hI t ht).bind ?_
    intro u hu
    simp only [hi, decide_true, ↓reduceIte] at hu
    exact tArmLoop_records P hn hi u hu
  · intro t ht
    refine (tArm_loopHead P hI t ht).mono ?_
    intro u hu
    simpa [progress, tally_full] using hu

include P in
/-- The sweep records the samples of all steps. -/
theorem tArmSweep_records (s : TestState B)
    (h : Recording cfg ipc d P.Idle a (progress cfg b d 0 0) E (tArmSweep cfg ipc d 0 :: code) s) :
    Does cfg ipc own s
      (Recording cfg ipc d P.Idle a (progress cfg b d cfg.messageSizeSteps 0) E code) := by
  refine Leads.bind (Leads.loop (n := cfg.messageSizeSteps) (S := fun n =>
    Recording cfg ipc d P.Idle a (progress cfg b d n 0) E (tArmSweep cfg ipc d n :: code)) ?_ h) ?_
  · intro n hn t ht
    refine (tArm_loopHead P (fun _ h => h) t ht).bind ?_
    intro u hu
    simp only [hn, decide_true, ↓reduceIte, List.append_assoc, List.cons_append,
      List.nil_append] at hu
    obtain ⟨σ, hσ, hu⟩ := hu
    refine (P.select d n hn _ _ _ u hu).bind ?_
    intro v hv
    refine (tArmStep_records P hn v ⟨σ, hσ, hv⟩).mono ?_
    intro w hw
    obtain ⟨σ', hσ', hw⟩ := hw
    exact ⟨σ', hσ', { hw with store := P.idle_of_swept d n _ hw.store }⟩
  · intro t ht
    refine (tArm_loopHead P (fun _ h => h) t ht).mono ?_
    intro u hu
    simpa using hu

/-! ## 4. T_Self -/

/-- `T_Self` at `code`, with the samples recorded. -/
def SelfRecording (cfg : Config) (ipc : Ipc B) (I : Store → Prop) (a : Nat → Nat)
    (E : List HistEntry) (code : Code B) (s : TestState B) : Prop :=
  ∃ σ, Recorded ipc a (fun _ _ => 0) σ ∧ SelfAt cfg ipc I σ E code s

/-- The head of a loop of `T_Self`, which finds its objects empty. -/
theorem tSelf_loopHead (hown : ∀ s t st, isCommon s st = true → own s t st) {I : Store → Prop}
    (hI : ipc.hasSelf = true → ∀ x, I x → ∀ n < cfg.messageSizeSteps,
      Empty (x.chan (ipc.selfChannel n)))
    {j : Nat} {cond : Nat → Bool} {body : Nat → Code B}
    (s : TestState B) (h : SelfRecording cfg ipc I a E (.forUp j cond body :: code) s) :
    Does cfg ipc own s (SelfRecording cfg ipc I a E
      (if cond j then body j ++ .forUp (j + 1) cond body :: code else code)) := by
  obtain ⟨σ, hσ, h⟩ := h
  have hclear : ClearSelf cfg ipc s := fun hr n hn => ⟨hI hr _ h.store n hn, h.waitq _⟩
  obtain ⟨⟨_, _⟩, _, _, _, _, _, _, _, _, _, _⟩ := h
  refine .step (by simp_all) ?_
  refine .done ⟨σ, hσ, ?_⟩
  constructor <;> simp [*]

/-- `T_Self` opens the window and takes the start marker. -/
theorem openSelf (hown : ∀ s t st, isCommon s st = true → own s t st) {I : Store → Prop}
    {σ : Series → B.Series} (s : TestState B)
    (h : SelfAt cfg ipc I σ E
      (.prim (.mwindowOpen (selfSend n)) :: .prim .resetCounter ::
        .prim (.getStartCnt testStartTime) :: code) s) :
    Does cfg ipc own s (SelfAt cfg ipc I
      (Function.update σ (selfSend n) (B.mwindowOpen (σ (selfSend n)))) E code) := by
  obtain ⟨⟨_, _⟩, _, _, _, _, _, _, _, _, _, _⟩ := h
  iterate 3
    refine .step (by simp [*]) ?_
    simp [*]
  refine .done ?_
  constructor <;> simp [*]

/-- `T_Self` takes the stop marker and feeds the series. -/
theorem feedSelf (hown : ∀ s t st, isCommon s st = true → own s t st) {I : Store → Prop}
    (hstop : ∀ s, I (store s) → nextSeries (s.code tSelfThread) = some (.selfSend n) →
      own s tSelfThread (.prim (.getStopCnt testStopTime)))
    {σ : Series → B.Series} (hopen : B.isOpen (σ (selfSend n)) = true)
    (s : TestState B) (h : SelfAt cfg ipc I σ E (tSelfFeed n code) s) :
    Does cfg ipc own s fun t => ∃ v, B.iterationCount v = B.iterationCount (σ (selfSend n)) + 1 ∧
      SelfAt cfg ipc I (Function.update σ (selfSend n) v) E code t := by
  obtain ⟨⟨_, _⟩, _, _, _, _, _, _, _, _, _, _⟩ := h
  iterate 3
    refine .step (by simp [*, tSelfFeed, nextSeries]) ?_
    simp [*, tSelfFeed]
  refine .done ⟨B.mwindowClose (B.mseriesIterate (σ (selfSend n)) (s.mem.time testStartTime)
    s.log.length).1, by simp [hopen], ?_⟩
  constructor <;> simp [*]

include P in
/-- A pass of the inner loop of `T_Self` records one sample. -/
theorem tSelfLoop_records (hr : ipc.hasSelf = true) (hn : n < cfg.messageSizeSteps)
    (s : TestState B)
    (h : SelfRecording cfg ipc (P.SelfSwept n) (tally cfg.measurementCount n i) E
      (tSelfLoop ipc n ++ code) s) :
    Does cfg ipc own s (SelfRecording cfg ipc (P.SelfSwept n)
      (tally cfg.measurementCount n (i + 1)) E code) := by
  obtain ⟨σ, hσ, h⟩ := h
  have hloop : tSelfLoop ipc n ++ code =
      ipc.arm ++ .prim (.mwindowOpen (selfSend n)) :: .prim .resetCounter ::
        .prim (.getStartCnt testStartTime) :: (ipc.transferSelf n ++ tSelfFeed n code) := by
    simp [tSelfLoop, tSelfFeed]
  rw [hloop] at h
  refine (P.armSelf hr n hn _ _ _ s h).bind ?_
  intro s₁ h₁
  refine (openSelf P.own_common s₁ h₁).bind ?_
  intro s₂ h₂
  refine (P.transferSelf hr n hn _ _ _ s₂ h₂).bind ?_
  intro s₃ h₃
  refine (feedSelf P.own_common (fun s => P.own_stopSelf s n hn) (by simp) s₃ h₃).mono ?_
  intro t ht
  obtain ⟨v, hv, ht⟩ := ht
  refine ⟨_, ?_, { ht with store := P.selfSwept_of_settled n _ ht.store }⟩
  exact (hσ.update (by simp)).feedSelf (tally_succ cfg.measurementCount n i) hv

include P in
/-- The inner loop of `T_Self` records the samples of a step. -/
theorem tSelfStep_records (hr : ipc.hasSelf = true) (hn : n < cfg.messageSizeSteps)
    (s : TestState B)
    (h : SelfRecording cfg ipc (P.SelfSwept n) (tally cfg.measurementCount n 0) E
      (tSelfStep cfg ipc n 0 :: code) s) :
    Does cfg ipc own s (SelfRecording cfg ipc (P.SelfSwept n)
      (tally cfg.measurementCount (n + 1) 0) E code) := by
  have hI := fun hr x hx => P.emptySelf hr x (P.idle_of_selfSwept n x hx)
  refine Leads.bind (Leads.loop (n := cfg.measurementCount) (S := fun i =>
    SelfRecording cfg ipc (P.SelfSwept n) (tally cfg.measurementCount n i) E
      (tSelfStep cfg ipc n i :: code)) ?_ h) ?_
  · intro i hi t ht
    refine (tSelf_loopHead P.own_common hI t ht).bind ?_
    intro u hu
    simp only [hi, decide_true, ↓reduceIte] at hu
    exact tSelfLoop_records P hr hn u hu
  · intro t ht
    refine (tSelf_loopHead P.own_common hI t ht).mono ?_
    intro u hu
    simpa [tally_full] using hu

include P in
/-- The sweep of `T_Self` records the samples of all steps. -/
theorem tSelfSweep_records (hr : ipc.hasSelf = true) (s : TestState B)
    (h : SelfRecording cfg ipc P.Idle (tally cfg.measurementCount 0 0) E
      (tSelfSweep cfg ipc 0 :: code) s) :
    Does cfg ipc own s (SelfRecording cfg ipc P.Idle
      (tally cfg.measurementCount cfg.messageSizeSteps 0) E code) := by
  refine Leads.bind (Leads.loop (n := cfg.messageSizeSteps) (S := fun n =>
    SelfRecording cfg ipc P.Idle (tally cfg.measurementCount n 0) E
      (tSelfSweep cfg ipc n :: code)) ?_ h) ?_
  · intro n hn t ht
    refine (tSelf_loopHead P.own_common P.emptySelf t ht).bind ?_
    intro u hu
    simp only [hn, decide_true, ↓reduceIte, List.append_assoc, List.cons_append,
      List.nil_append] at hu
    obtain ⟨σ, hσ, hu⟩ := hu
    refine (P.selectSelf hr n hn _ _ _ u hu).bind ?_
    intro v hv
    refine (tSelfStep_records P hr hn v ⟨σ, hσ, hv⟩).mono ?_
    intro w hw
    obtain ⟨σ', hσ', hw⟩ := hw
    exact ⟨σ', hσ', { hw with store := P.idle_of_selfSwept n _ hw.store }⟩
  · intro t ht
    refine (tSelf_loopHead P.own_common P.emptySelf t ht).mono ?_
    intro u hu
    simpa using hu

end ZephyrBench.Itc

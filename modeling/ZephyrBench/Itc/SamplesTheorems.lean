/-
ZephyrBench.Itc.SamplesTheorems — how long the samples of inter-task
communication are.

`itc_samples`: in every test all samples that are ever recorded in a series have
one length, and in the end every series consists of exactly its number of them.

## How the proof goes

A sample of a direction spans what both peers do from the start marker to the
stop marker. The history of a transaction is the same in every pass but for the
step, so its length depends on the series alone (`Protocol.sampleLength`), and the
markers are that far apart (`transaction_spaced`).

Between the feeds the run adds no samples, whatever the test does there, so it is
enough to follow the feeds (`Leads.uniformOn`, `Protocol.Even.leads`). The sweeps
are walked through again for that (`tArmSweep_even`, `tSelfSweep_even`), but each
stretch is the one of `Itc.Sweep`: only the numbers of samples before and after
it are used.

`T_Self` keeps no history of its transfers. That each of them is one entry is read
off its code: no interrupt is ever pending and a transfer does not switch, so a
list of statements takes as many entries as it has elements
(`transfers_length`).
-/
import ZephyrBench.Itc.AddressTheorems
import ZephyrBench.Itc.VerdictTheorems
import ZephyrBench.Samples

namespace ZephyrBench.Itc

open Rtos Rtos.Exec Thread Object Series Marker

variable {B : Bmth} {cfg : Config} {ipc : Ipc B}
  {own : TestState B → Thread → Statement B → Prop} (P : Protocol cfg ipc own)
  {E : List HistEntry}

/-! ## 1. Lengths -/

/-- The length of a sample: the history from the start marker to the stop
marker. -/
def Protocol.sampleLength : Series → Nat
  | selfSend n => (ipc.transferSelf n).length + 1
  | sendTo .up n => (P.sendLog .up n).length + 1
  | sendTo .down n => (P.receivedLog n ++ sendSettled ipc (P.sendLog .down n)).length + 1
  | rendezvousTo .up n => (recvSettled (P.sendLog .up n)).length + 1
  | rendezvousTo .down n => (P.sendLog .down n).length + 1

/-- All samples of the series that a test records have the length of their
series. -/
abbrev Protocol.Even (σ : Series → B.Series) : Prop := UniformOn (Records cfg ipc) P.sampleLength σ

/-- A symbolic execution through states with such samples. -/
abbrev Protocol.Evenly (s : TestState B) (Q : TestState B → Prop) : Prop :=
  Leads (program cfg ipc).next (fun u => P.Even u.mem.series) s Q

theorem program_prim (q : Prim Series Marker Assign) (now : Nat) (ret : Option Addr)
    (mem : TestMem B) : (program cfg ipc).prim q now ret mem =
      q.run (fun w ret mem => w.set ret mem) now ret mem := rfl

theorem Assign.set_series (w : Assign) (ret : Option Addr) (mem : TestMem B) :
    (w.set ret mem).series = mem.series := by cases w <;> rfl

variable {P} in
/-- A piece of a run that records no sample. -/
theorem Protocol.Even.leads {s : TestState B} {Q : TestState B → Prop} (hs : P.Even s.mem.series)
    (h : Does cfg ipc own s Q)
    (hQ : ∀ t, Q t → ∀ m, Records cfg ipc m → t.mem.count m = s.mem.count m) :
    P.Evenly s fun t => Q t ∧ P.Even t.mem.series :=
  h.uniformOn Assign.set_series program_prim hs hQ

/-- The same samples are recorded. -/
theorem Recorded.count_eq {a : Nat → Nat} {b : Dir → Nat → Nat} {s t : TestState B}
    (h : Recorded ipc a b s.mem.series) (ht : Recorded ipc a b t.mem.series) (m : Series)
    (hm : Records cfg ipc m) : t.mem.count m = s.mem.count m := by
  rw [Mem.count, Mem.count]
  cases m with
  | selfSend n => rw [h.self, ht.self]
  | sendTo d n => rw [h.send, ht.send]
  | rendezvousTo d n => rw [h.rendezvous hm.1, ht.rendezvous hm.1]

/-- The series are the same. -/
theorem count_congr {σ : Series → B.Series} {s t : TestState B} (h : s.mem.series = σ)
    (ht : t.mem.series = σ) (m : Series) : t.mem.count m = s.mem.count m := by
  rw [Mem.count, Mem.count, ht, h]

theorem Recording.recorded {d : Dir} {I : Store → Prop} {a : Nat → Nat} {b : Dir → Nat → Nat}
    {code : Code B} {s : TestState B} (h : Recording cfg ipc d I a b E code s) :
    Recorded ipc a b s.mem.series := by
  obtain ⟨σ, hσ, h⟩ := h
  exact h.series ▸ hσ

theorem SelfRecording.recorded {I : Store → Prop} {a : Nat → Nat} {code : Code B} {s : TestState B}
    (h : SelfRecording cfg ipc I a E code s) : Recorded ipc a (fun _ _ => 0) s.mem.series := by
  obtain ⟨σ, hσ, h⟩ := h
  exact h.series ▸ hσ

theorem IdleRecording.recorded {I : Store → Prop} {a : Nat → Nat} {b : Dir → Nat → Nat}
    {code : Code B} {s : TestState B} (h : IdleRecording ipc I a b E code s) :
    Recorded ipc a b s.mem.series := by
  obtain ⟨σ, hσ, h⟩ := h
  exact h.series ▸ hσ

/-! ## 2. A transaction -/

/-- The stop markers are as far behind the start marker as a sample is long. -/
structure Spaced (d : Dir) (n : Nat) (s : TestState B) : Prop where
  direct : s.mem.time testStopTime = s.mem.time testStartTime + P.sampleLength (sendTo d n)
  rendezvous : ipc.rendezvous = true → s.mem.time testStopTimeRendezvous =
    s.mem.time testStartTime + P.sampleLength (rendezvousTo d n)

section Transaction

variable {n : Nat} {before : List HistEntry} {τ : Marker → Nat} {s : TestState B}

theorem spaced_up (hstart : τ testStartTime = before.length)
    (htime : s.mem.time = stopTimesUp ipc τ (P.sendLog .up n ++
      .exec (tSendThread .up) (.prim (.getStartCnt testStartTime)) :: before)) :
    Spaced P .up n s := by
  cases hr : ipc.rendezvous with
  | false =>
    refine ⟨?_, fun h => absurd (hr.symm.trans h) Bool.false_ne_true⟩
    simp [htime, stopTimesUp, hr, hstart, Protocol.sampleLength]
    omega
  | true =>
    refine ⟨?_, fun _ => ?_⟩
    all_goals
      simp [htime, stopTimesUp, hr, hstart, Protocol.sampleLength, recvSettled]
      omega

theorem spaced_down (hstart : τ testStartTime = before.length)
    (htime : s.mem.time = stopTimesDown ipc τ (P.receivedLog n) (P.sendLog .down n ++
      .exec (tSendThread .down) (.prim (.getStartCnt testStartTime)) :: before)) :
    Spaced P .down n s := by
  cases hr : ipc.rendezvous with
  | false =>
    refine ⟨?_, fun h => absurd (hr.symm.trans h) Bool.false_ne_true⟩
    simp [htime, stopTimesDown, sendSettled, hr, hstart, Protocol.sampleLength]
    omega
  | true =>
    refine ⟨?_, fun _ => ?_⟩
    all_goals
      simp [htime, stopTimesDown, sendSettled, hr, hstart, Protocol.sampleLength]
      omega

/-- A transaction leaves the markers of its sample. -/
theorem transaction_spaced {d : Dir} (hn : n < cfg.messageSizeSteps) {σ : Series → B.Series}
    {code : Code B} (s : TestState B)
    (h : Scene cfg ipc d (P.Ready d n) σ E
      (blocked ipc d (kcall (.kSemGive testRecvSem) :: armAfterRecv ipc d n code)) s) :
    Does cfg ipc own s fun t =>
      Scene cfg ipc d (P.Settled d n) (opened ipc d n σ) E
        (blocked ipc d (mseriesFeed ipc d n ++ code)) t ∧ Spaced P d n t := by
  have hnext := nextSeries_mseriesFeed ipc d n code
  refine (giveRecv P s h).bind ?_
  intro s₁ h₁
  refine (P.recv d n hn _ _ _ _ _ s₁ h₁).bind ?_
  intro s₂ h₂
  refine (giveArm P hn s₂ h₂).bind ?_
  intro s₃ h₃
  cases d with
  | up =>
    refine (P.sendUp n hn _ _ _ _ _ s₃ h₃).bind ?_
    intro s₄ h₄
    refine (settleUp P hn hnext s₄ h₄).mono fun t ht => ⟨ht.toScene, ?_⟩
    exact spaced_up P (by simp) ht.time
  | down =>
    refine (P.sendDown n hn _ _ _ _ _ s₃ h₃).bind ?_
    intro s₄ h₄
    refine (settleDown P hn hnext s₄ h₄).mono fun t ht => ⟨ht.toScene, ?_⟩
    exact spaced_down P (by simp) ht.time

end Transaction

/-! ## 3. The sweep of a direction -/

attribute [local simp] blocked recvMessage sendMessage Prog.takeIrq program

section Arm

variable {d : Dir} {n i : Nat} {a : Nat → Nat} {b : Dir → Nat → Nat} {I : Store → Prop}
  {σ : Series → B.Series} {code : Code B}

/-- `T_Arm*` feeds a series whose markers have the right distance. -/
theorem feedSeries_even {x : Series} {stop : Marker} (hopen : B.isOpen (σ x) = true)
    (s : TestState B) (h : Scene cfg ipc d I σ E
      (blocked ipc d (.prim (.mseriesIterate x testStartTime stop false) :: code)) s)
    (hs : P.Even s.mem.series)
    (htime : s.mem.time stop = s.mem.time testStartTime + P.sampleLength x) :
    P.Evenly s fun t =>
      (∃ v, B.iterationCount v = B.iterationCount (σ x) + 1 ∧
        Scene cfg ipc d I (Function.update σ x v) E (blocked ipc d code) t) ∧
      P.Even t.mem.series ∧ t.mem.time = s.mem.time := by
  have hv := B.iterationCount_mseriesIterate_open _ (s.mem.time testStartTime) (s.mem.time stop)
    hopen
  have heven : P.Even (Function.update s.mem.series x
      (B.mseriesIterate (s.mem.series x) (s.mem.time testStartTime) (s.mem.time stop)).1) :=
    hs.update fun hm => (hs x hm).iterate fun _ => htime
  obtain ⟨_, _, _, _, _, _, _, _, _, _, _, _, _, hseries⟩ := h
  rw [hseries] at heven
  refine .step hs ?_
  refine .done ⟨⟨_, hv, ?_⟩, ?_, ?_⟩
  · constructor <;> simp [*]
  · simpa [*] using heven
  · simp [*]

/-- `T_Arm*` closes a window. -/
theorem closeWindow_even {x : Series} (hx : x = sendTo d n ∨ x = rendezvousTo d n)
    (s : TestState B)
    (h : Scene cfg ipc d I σ E (blocked ipc d (.prim (.mwindowClose x) :: code)) s)
    (hs : P.Even s.mem.series) :
    P.Evenly s fun t =>
      Scene cfg ipc d I (Function.update σ x (B.mwindowClose (σ x))) E (blocked ipc d code) t ∧
      P.Even t.mem.series := by
  refine hs.leads (closeWindow P hx s h) fun t ht m _ => ?_
  rw [Mem.count, Mem.count, ht.series, h.series]
  by_cases hm : m = x <;> simp [hm]

/-- `T_Arm*` feeds the series of a pass. -/
theorem feed_even (hσ : Recorded ipc a (progress cfg b d n i) σ) (s : TestState B)
    (h : Scene cfg ipc d I (opened ipc d n σ) E (blocked ipc d (mseriesFeed ipc d n ++ code)) s)
    (hs : P.Even s.mem.series) (hspaced : Spaced P d n s) :
    P.Evenly s fun t => ∃ σ', Recorded ipc a (progress cfg b d n (i + 1)) σ' ∧
      Scene cfg ipc d I σ' E (blocked ipc d code) t ∧ P.Even t.mem.series := by
  have hopened := recorded_opened (d := d) (n := n) hσ
  have hopen : B.isOpen (opened ipc d n σ (sendTo d n)) = true := by
    cases hr : ipc.rendezvous <;> simp [opened, hr]
  cases hr : ipc.rendezvous with
  | false =>
    simp only [mseriesFeed, hr, Bool.false_eq_true, ↓reduceIte, List.cons_append,
      List.nil_append] at h
    refine (feedSeries_even P hopen s h hs hspaced.direct).bind ?_
    intro t ht
    obtain ⟨⟨v, hv, ht⟩, heven, -⟩ := ht
    refine (closeWindow_even P (.inl rfl) t ht heven).mono fun u hu => ⟨_, ?_, hu⟩
    have hfed := hopened.feed (tally_succ cfg.measurementCount n i) hv
      (w := Function.update (opened ipc d n σ) (sendTo d n) v (rendezvousTo d n)) (by simp [hr])
    rw [Function.update_eq_self] at hfed
    exact hfed.update (by simp)
  | true =>
    simp only [mseriesFeed, hr, ↓reduceIte, List.cons_append, List.nil_append] at h
    refine (feedSeries_even P hopen s h hs hspaced.direct).bind ?_
    intro t ht
    obtain ⟨⟨v, hv, ht⟩, heven, htime⟩ := ht
    have hopen' : B.isOpen (Function.update (opened ipc d n σ) (sendTo d n) v (rendezvousTo d n)) =
        true := by simp [opened, hr]
    have hrend := hspaced.rendezvous hr
    rw [← htime] at hrend
    refine (feedSeries_even P hopen' t ht heven hrend).bind ?_
    intro u hu
    obtain ⟨⟨w, hw, hu⟩, heven, -⟩ := hu
    refine (closeWindow_even P (.inl rfl) u hu heven).bind ?_
    intro u' hu'
    refine (closeWindow_even P (.inr rfl) u' hu'.1 hu'.2).mono fun u'' hu'' => ⟨_, ?_, hu''⟩
    have hfed := hopened.feed (tally_succ cfg.measurementCount n i) hv fun _ => by simpa using hw
    exact (hfed.update (by simp)).update (by simp)

theorem count_opened (m : Series) :
    B.iterationCount (opened ipc d n σ m) = B.iterationCount (σ m) := by
  by_cases hsend : m = sendTo d n <;> by_cases hrend : m = rendezvousTo d n <;>
    cases hr : ipc.rendezvous <;> simp_all [opened]

/-- A pass of the inner loop of `T_Arm*`: only its feed records a sample. -/
theorem tArmLoop_even (hn : n < cfg.messageSizeSteps) (s : TestState B)
    (h : Recording cfg ipc d (P.Swept d n) a (progress cfg b d n i) E (tArmLoop ipc d n ++ code) s)
    (hs : P.Even s.mem.series) :
    P.Evenly s fun t =>
      Recording cfg ipc d (P.Swept d n) a (progress cfg b d n (i + 1)) E code t ∧
        P.Even t.mem.series := by
  obtain ⟨σ, hσ, h⟩ := h
  have hloop : tArmLoop ipc d n ++ code =
      ipc.arm ++ kcall (.kSemGive testRecvSem) :: armAfterRecv ipc d n (ipc.finish d ++ code) := by
    simp [tArmLoop, armAfterRecv]
  rw [hloop] at h
  refine (hs.leads (P.arm d n hn _ _ _ s h) fun t ht m _ =>
    count_congr h.series ht.series m).bind ?_
  intro s₁ h₁
  obtain ⟨h₁, hs₁⟩ := h₁
  refine (hs₁.leads (transaction_spaced P hn s₁ h₁) fun t ht m _ => ?_).bind ?_
  · rw [Mem.count, Mem.count, ht.1.series, h₁.series]
    exact count_opened m
  intro s₂ h₂
  obtain ⟨⟨h₂, hspaced⟩, hs₂⟩ := h₂
  refine (feed_even P hσ s₂ h₂ hs₂ hspaced).bind ?_
  intro s₃ h₃
  obtain ⟨σ', hσ', h₃, hs₃⟩ := h₃
  refine (hs₃.leads (P.finish d n hn _ _ _ s₃ h₃) fun t ht m _ =>
    count_congr h₃.series ht.series m).mono ?_
  exact fun t ht => ⟨⟨σ', hσ', ht.1⟩, ht.2⟩

/-- The inner loop of `T_Arm*`. -/
theorem tArmStep_even (hn : n < cfg.messageSizeSteps) (s : TestState B)
    (h : Recording cfg ipc d (P.Swept d n) a (progress cfg b d n 0) E
      (tArmStep cfg ipc d n 0 :: code) s) (hs : P.Even s.mem.series) :
    P.Evenly s fun t =>
      Recording cfg ipc d (P.Swept d n) a (progress cfg b d (n + 1) 0) E code t ∧
        P.Even t.mem.series := by
  have hI := P.idle_of_swept d n
  refine Leads.bind (Leads.loop (n := cfg.measurementCount) (S := fun i t =>
    Recording cfg ipc d (P.Swept d n) a (progress cfg b d n i) E
      (tArmStep cfg ipc d n i :: code) t ∧ P.Even t.mem.series) ?_ ⟨h, hs⟩) ?_
  · intro i hi t ht
    refine (ht.2.leads (tArm_loopHead P hI t ht.1) fun u hu =>
      ht.1.recorded.count_eq hu.recorded).bind ?_
    intro u hu
    simp only [hi, decide_true, ↓reduceIte] at hu
    exact tArmLoop_even P hn u hu.1 hu.2
  · intro t ht
    refine (ht.2.leads (tArm_loopHead P hI t ht.1) fun u hu =>
      ht.1.recorded.count_eq hu.recorded).mono ?_
    intro u hu
    simpa [progress, tally_full] using hu

/-- The sweep of `T_Arm*`. -/
theorem tArmSweep_even (s : TestState B)
    (h : Recording cfg ipc d P.Idle a (progress cfg b d 0 0) E (tArmSweep cfg ipc d 0 :: code) s)
    (hs : P.Even s.mem.series) :
    P.Evenly s fun t =>
      Recording cfg ipc d P.Idle a (progress cfg b d cfg.messageSizeSteps 0) E code t ∧
        P.Even t.mem.series := by
  refine Leads.bind (Leads.loop (n := cfg.messageSizeSteps) (S := fun n t =>
    Recording cfg ipc d P.Idle a (progress cfg b d n 0) E (tArmSweep cfg ipc d n :: code) t ∧
      P.Even t.mem.series) ?_ ⟨h, hs⟩) ?_
  · intro n hn t ht
    refine (ht.2.leads (tArm_loopHead P (fun _ h => h) t ht.1) fun u hu =>
      ht.1.recorded.count_eq hu.recorded).bind ?_
    intro u hu
    obtain ⟨⟨σ, hσ, hu⟩, hs⟩ := hu
    simp only [hn, decide_true, ↓reduceIte, List.append_assoc, List.cons_append,
      List.nil_append] at hu
    refine (hs.leads (P.select d n hn _ _ _ u hu) fun v hv m _ =>
      count_congr hu.series hv.series m).bind ?_
    intro v hv
    refine (tArmStep_even P hn v ⟨σ, hσ, hv.1⟩ hv.2).mono ?_
    intro w hw
    obtain ⟨⟨σ', hσ', hw⟩, hs'⟩ := hw
    exact ⟨⟨σ', hσ', { hw with store := P.idle_of_swept d n _ hw.store }⟩, hs'⟩
  · intro t ht
    refine (ht.2.leads (tArm_loopHead P (fun _ h => h) t ht.1) fun u hu =>
      ht.1.recorded.count_eq hu.recorded).mono ?_
    intro u hu
    simpa using hu

end Arm

/-! ## 4. The sweep of T_Self -/

/-- A statement of a transfer: it passes the message on, or assigns a variable. -/
def TransferStmt : Statement B → Prop
  | .call c => ∀ mem, isTransfer (c mem) = true
  | .prim (.assign _) => True
  | _ => False

section Self

variable {n i : Nat} {a : Nat → Nat} {I : Store → Prop} {σ : Series → B.Series} {code : Code B}
  {s t : TestState B} {st : Statement B} {rest : Code B}

/-- A transfer of `T_Self` is one entry of the history. -/
theorem transfer_next (hst : s.Executes tSelfThread st rest) (htransfer : TransferStmt st)
    (hgood : Good cfg ipc own s) :
    ((program cfg ipc).next s).kern.current = some tSelfThread ∧
      ((program cfg ipc).next s).code tSelfThread = rest ∧
      ((program cfg ipc).next s).log.length = s.log.length + 1 ∧
      ((program cfg ipc).next s).mem.time = s.mem.time ∧
      ((program cfg ipc).next s).mem.series = s.mem.series := by
  have hstmt := hgood
  unfold Good State.AtStmt at hstmt
  simp only [hst.current, hst.code] at hstmt
  rw [hst.next_eq]
  cases st with
  | call c =>
    have hself := hstmt.2.2.1 rfl (htransfer s.mem)
    have hcode := exec_code (program cfg ipc) s tSelfThread (.call c) rest tSelfThread
    refine ⟨hself.1, ?_, ?_, rfl, rfl⟩
    · rcases hcode with ⟨c', entry, prio, heq, hcreate, -⟩ | hcode
      · obtain rfl := Stmt.call.inj heq
        have hcall := htransfer s.mem
        rw [hcreate] at hcall
        exact absurd hcall Bool.false_ne_true
      · simpa [Stmt.left] using hcode
    · show (logSwitch _ (s.kern.call (c s.mem)).current (_ :: s.log)).length = _
      rw [hself.1, logSwitch, if_pos rfl, List.length_cons]
  | prim q =>
    cases q with
    | assign w =>
      refine ⟨hst.current, by simp [Prog.exec], by simp [Prog.exec], ?_, w.set_series _ _⟩
      cases w <;> rfl
    | _ => exact htransfer.elim
  | _ => exact htransfer.elim

/-- At its iteration inside the window, `T_Self` stays or records a sample. -/
theorem iterates_or_stays {P' : TestState B → Prop} {x y : Marker} {sig : Bool}
    (h : Steps (program cfg ipc).next P' s t) (hcur : s.kern.current = some tSelfThread)
    (hcode : s.code tSelfThread = .prim (.mseriesIterate (selfSend n) x y sig) :: rest)
    (hopen : s.mem.isOpen (selfSend n) = true) :
    t.code tSelfThread = .prim (.mseriesIterate (selfSend n) x y sig) :: rest ∨
      s.mem.count (selfSend n) < t.mem.count (selfSend n) := by
  induction h with
  | refl s => exact .inl hcode
  | @head s t _ hrest ih =>
    rcases next_cases (program cfg ipc) s with ⟨-, hnext⟩ | ⟨u, st, rest', hst, hnext⟩ | hnext
    · rw [hnext, AddressTest.takeIrq_eq] at ih
      exact ih hcur hcode hopen
    · right
      obtain rfl := Option.some.inj (hcur.symm.trans hst.current)
      obtain ⟨rfl, rfl⟩ := List.cons.inj (hcode.symm.trans hst.code)
      refine Nat.lt_of_lt_of_le ?_ (hrest.count_le Assign.set_series program_prim (selfSend n))
      rw [hnext]
      simp [Prog.exec, Prim.run, hopen]
    · rw [hnext] at ih
      exact ih hcur hcode hopen

/-- The code `l` takes `T_Self` from `s` to `t`, where it feeds its series: each
statement of `l` is one entry of the history. -/
theorem transfers_length {l : Code B} (h : Steps (program cfg ipc).next (Good cfg ipc own) s t)
    (hl : ∀ st ∈ l, TransferStmt st) (hcur : s.kern.current = some tSelfThread)
    (hcode : s.code tSelfThread = l ++ tSelfFeed n code)
    (hopen : s.mem.isOpen (selfSend n) = true)
    (hfeed : t.code tSelfThread = tSelfFeed n code)
    (hcount : t.mem.count (selfSend n) = s.mem.count (selfSend n)) :
    t.log.length = s.log.length + l.length ∧ t.mem.time = s.mem.time := by
  induction h generalizing l with
  | refl s =>
    obtain rfl := List.self_eq_append_left.mp (hfeed.symm.trans hcode)
    exact ⟨rfl, rfl⟩
  | @head s t hgood hrest ih =>
    rcases next_cases (program cfg ipc) s with ⟨-, hnext⟩ | ⟨u, st, rest, hst, hnext⟩ | hnext
    · rw [hnext, AddressTest.takeIrq_eq] at ih
      exact ih hl hcur hcode hopen hfeed hcount
    · obtain rfl := Option.some.inj (hcur.symm.trans hst.current)
      cases l with
      | nil =>
        -- the feed would be over before `t`, and one sample more recorded
        rw [hnext] at hrest
        obtain ⟨rfl, rfl⟩ := List.cons.inj (hcode.symm.trans hst.code)
        have hcode' : ((program cfg ipc).next s).code tSelfThread =
            .prim (.mseriesIterate (selfSend n) testStartTime testStopTime false) ::
              .prim (.mwindowClose (selfSend n)) :: code := by
          rw [hnext]
          simp [Prog.exec]
        rw [hnext] at hcode'
        rcases iterates_or_stays hrest hst.current hcode' (by simpa using hopen)
          with hstays | hrecords
        · have hhead := List.cons.inj (hfeed.symm.trans hstays)
          exact absurd (Stmt.prim.inj hhead.1) (by simp)
        · exact absurd hcount (Nat.ne_of_gt hrecords)
      | cons st' l =>
        obtain ⟨rfl, rfl⟩ := List.cons.inj (hcode.symm.trans hst.code)
        obtain ⟨hcur', hcode', hlog, htime, hseries⟩ :=
          transfer_next hst (hl _ List.mem_cons_self) hgood
        have hopen' : ((program cfg ipc).next s).mem.isOpen (selfSend n) = true := by
          rw [Mem.isOpen, hseries]
          exact hopen
        have hcount' := hcount.trans (count_congr hseries rfl (selfSend n))
        obtain ⟨hlog', htime'⟩ :=
          ih (fun st h => hl st (List.mem_cons_of_mem _ h)) hcur' hcode' hopen' hfeed hcount'
        refine ⟨?_, htime'.trans htime⟩
        rw [hlog', hlog, List.length_cons]
        omega
    · rw [hnext] at ih
      exact ih hl hcur hcode hopen hfeed hcount

/-- `T_Self` opens the window and takes the start marker. -/
theorem openSelf_even (s : TestState B)
    (h : SelfAt cfg ipc I σ E
      (.prim (.mwindowOpen (selfSend n)) :: .prim .resetCounter ::
        .prim (.getStartCnt testStartTime) :: code) s) (hs : P.Even s.mem.series) :
    P.Evenly s fun t =>
      SelfAt cfg ipc I (Function.update σ (selfSend n) (B.mwindowOpen (σ (selfSend n)))) E code t ∧
        P.Even t.mem.series ∧ t.log.length = t.mem.time testStartTime + 1 := by
  have heven : P.Even (Function.update s.mem.series (selfSend n)
      (B.mwindowOpen (s.mem.series (selfSend n)))) :=
    hs.update fun hm => (hs _ hm).windowOpen
  obtain ⟨⟨_, _⟩, _, _, _, _, _, _, _, _, _, hseries, _⟩ := h
  rw [hseries] at heven
  refine .step hs ?_
  simp [*]
  iterate 2
    refine .step (by simpa using heven) ?_
    simp [*]
  refine .done ⟨?_, ?_, ?_⟩
  · constructor <;> simp [*]
  · simpa using heven
  · simp

/-- `T_Self` takes the stop marker and feeds the series. -/
theorem feedSelf_even (hopen : B.isOpen (σ (selfSend n)) = true) (s : TestState B)
    (h : SelfAt cfg ipc I σ E (tSelfFeed n code) s) (hs : P.Even s.mem.series)
    (htime : s.log.length = s.mem.time testStartTime + P.sampleLength (selfSend n)) :
    P.Evenly s fun t =>
      (∃ v, B.iterationCount v = B.iterationCount (σ (selfSend n)) + 1 ∧
        SelfAt cfg ipc I (Function.update σ (selfSend n) v) E code t) ∧
      P.Even t.mem.series := by
  have hiterate : Records cfg ipc (selfSend n) → Uniform (P.sampleLength (selfSend n))
      (B.mseriesIterate (s.mem.series (selfSend n)) (s.mem.time testStartTime) s.log.length).1 :=
    fun hm => (hs _ hm).iterate fun _ => htime
  have hfed : P.Even (Function.update s.mem.series (selfSend n) _) := hs.update hiterate
  have hclosed : P.Even (Function.update s.mem.series (selfSend n) _) :=
    hs.update fun hm => (hiterate hm).windowClose
  obtain ⟨⟨_, _⟩, _, _, _, _, _, _, _, _, _, hseries, _⟩ := h
  rw [hseries] at hs
  rw [hseries, htime] at hfed hclosed
  refine .step (by simpa [hseries] using hs) ?_
  simp [*, tSelfFeed]
  refine .step (by simpa [hseries] using hs) ?_
  simp [*]
  refine .step (by simpa using hfed) ?_
  simp [*]
  refine .done ⟨⟨B.mwindowClose (B.mseriesIterate (σ (selfSend n)) (s.mem.time testStartTime)
    (s.mem.time testStartTime + P.sampleLength (selfSend n))).1, by simp [hopen], ?_⟩,
    by simpa using hclosed⟩
  constructor <;> simp [*]

variable (hr : ipc.hasSelf = true)
include hr

/-- `T_Self` passes the message to itself. -/
theorem transferSelf_even (hn : n < cfg.messageSizeSteps)
    (htransfer : ∀ st ∈ ipc.transferSelf n, TransferStmt st)
    (hopen : B.isOpen (σ (selfSend n)) = true) (s : TestState B)
    (h : SelfAt cfg ipc (P.SelfReady n) σ E (ipc.transferSelf n ++ tSelfFeed n code) s)
    (hs : P.Even s.mem.series) (hlog : s.log.length = s.mem.time testStartTime + 1) :
    P.Evenly s fun t => SelfAt cfg ipc (P.SelfSettled n) σ E (tSelfFeed n code) t ∧
      P.Even t.mem.series ∧
      t.log.length = t.mem.time testStartTime + P.sampleLength (selfSend n) := by
  obtain ⟨t, hsteps, ht⟩ := P.transferSelf hr n hn σ E code s h
  have hcount := count_congr h.series ht.series
  have hopen' : s.mem.isOpen (selfSend n) = true := by
    rw [Mem.isOpen, h.series]
    exact hopen
  obtain ⟨hlength, htime⟩ := transfers_length hsteps htransfer h.runs.1 h.task.2.2.2 hopen'
    ht.task.2.2.2 (hcount _)
  have hleads : Does cfg ipc own s (· = t) := ⟨t, hsteps, rfl⟩
  refine (hs.leads hleads fun u hu m _ => hu ▸ hcount m).mono ?_
  intro u hu
  obtain ⟨rfl, heven⟩ := hu
  refine ⟨ht, heven, ?_⟩
  rw [hlength, hlog, htime, Protocol.sampleLength]
  omega

/-- A pass of the inner loop of `T_Self`. -/
theorem tSelfLoop_even (hn : n < cfg.messageSizeSteps)
    (htransfer : ∀ st ∈ ipc.transferSelf n, TransferStmt st) (s : TestState B)
    (h : SelfRecording cfg ipc (P.SelfSwept n) (tally cfg.measurementCount n i) E
      (tSelfLoop ipc n ++ code) s) (hs : P.Even s.mem.series) :
    P.Evenly s fun t => SelfRecording cfg ipc (P.SelfSwept n)
      (tally cfg.measurementCount n (i + 1)) E code t ∧ P.Even t.mem.series := by
  obtain ⟨σ, hσ, h⟩ := h
  have hloop : tSelfLoop ipc n ++ code =
      ipc.arm ++ .prim (.mwindowOpen (selfSend n)) :: .prim .resetCounter ::
        .prim (.getStartCnt testStartTime) :: (ipc.transferSelf n ++ tSelfFeed n code) := by
    simp [tSelfLoop, tSelfFeed]
  rw [hloop] at h
  refine (hs.leads (P.armSelf hr n hn _ _ _ s h) fun t ht m _ =>
    count_congr h.series ht.series m).bind ?_
  intro s₁ h₁
  refine (openSelf_even P s₁ h₁.1 h₁.2).bind ?_
  intro s₂ h₂
  obtain ⟨h₂, hs₂, hlog⟩ := h₂
  refine (transferSelf_even P hr hn htransfer (by simp) s₂ h₂ hs₂ hlog).bind ?_
  intro s₃ h₃
  obtain ⟨h₃, hs₃, hlog⟩ := h₃
  refine (feedSelf_even P (by simp) s₃ h₃ hs₃ hlog).mono ?_
  intro t ht
  obtain ⟨⟨v, hv, ht⟩, hs'⟩ := ht
  refine ⟨⟨_, ?_, { ht with store := P.selfSwept_of_settled n _ ht.store }⟩, hs'⟩
  exact (hσ.update (by simp)).feedSelf (tally_succ cfg.measurementCount n i) hv

/-- The inner loop of `T_Self`. -/
theorem tSelfStep_even (hn : n < cfg.messageSizeSteps)
    (htransfer : ∀ st ∈ ipc.transferSelf n, TransferStmt st) (s : TestState B)
    (h : SelfRecording cfg ipc (P.SelfSwept n) (tally cfg.measurementCount n 0) E
      (tSelfStep cfg ipc n 0 :: code) s) (hs : P.Even s.mem.series) :
    P.Evenly s fun t => SelfRecording cfg ipc (P.SelfSwept n)
      (tally cfg.measurementCount (n + 1) 0) E code t ∧ P.Even t.mem.series := by
  have hI := fun hr x hx => P.emptySelf hr x (P.idle_of_selfSwept n x hx)
  refine Leads.bind (Leads.loop (n := cfg.measurementCount) (S := fun i t =>
    SelfRecording cfg ipc (P.SelfSwept n) (tally cfg.measurementCount n i) E
      (tSelfStep cfg ipc n i :: code) t ∧ P.Even t.mem.series) ?_ ⟨h, hs⟩) ?_
  · intro i hi t ht
    refine (ht.2.leads (tSelf_loopHead P.own_common hI t ht.1) fun u hu =>
      ht.1.recorded.count_eq hu.recorded).bind ?_
    intro u hu
    simp only [hi, decide_true, ↓reduceIte] at hu
    exact tSelfLoop_even P hr hn htransfer u hu.1 hu.2
  · intro t ht
    refine (ht.2.leads (tSelf_loopHead P.own_common hI t ht.1) fun u hu =>
      ht.1.recorded.count_eq hu.recorded).mono ?_
    intro u hu
    simpa [tally_full] using hu

/-- The sweep of `T_Self`. -/
theorem tSelfSweep_even
    (htransfer : ∀ n < cfg.messageSizeSteps, ∀ st ∈ ipc.transferSelf n, TransferStmt st)
    (s : TestState B)
    (h : SelfRecording cfg ipc P.Idle (tally cfg.measurementCount 0 0) E
      (tSelfSweep cfg ipc 0 :: code) s) (hs : P.Even s.mem.series) :
    P.Evenly s fun t => SelfRecording cfg ipc P.Idle
      (tally cfg.measurementCount cfg.messageSizeSteps 0) E code t ∧ P.Even t.mem.series := by
  refine Leads.bind (Leads.loop (n := cfg.messageSizeSteps) (S := fun n t =>
    SelfRecording cfg ipc P.Idle (tally cfg.measurementCount n 0) E
      (tSelfSweep cfg ipc n :: code) t ∧ P.Even t.mem.series) ?_ ⟨h, hs⟩) ?_
  · intro n hn t ht
    refine (ht.2.leads (tSelf_loopHead P.own_common P.emptySelf t ht.1) fun u hu =>
      ht.1.recorded.count_eq hu.recorded).bind ?_
    intro u hu
    obtain ⟨⟨σ, hσ, hu⟩, hs⟩ := hu
    simp only [hn, decide_true, ↓reduceIte, List.append_assoc, List.cons_append,
      List.nil_append] at hu
    refine (hs.leads (P.selectSelf hr n hn _ _ _ u hu) fun v hv m _ =>
      count_congr hu.series hv.series m).bind ?_
    intro v hv
    refine (tSelfStep_even P hr hn (htransfer n hn) v ⟨σ, hσ, hv.1⟩ hv.2).mono ?_
    intro w hw
    obtain ⟨⟨σ', hσ', hw⟩, hs'⟩ := hw
    exact ⟨⟨σ', hσ', { hw with store := P.idle_of_selfSwept n _ hw.store }⟩, hs'⟩
  · intro t ht
    refine (ht.2.leads (tSelf_loopHead P.own_common P.emptySelf t ht.1) fun u hu =>
      ht.1.recorded.count_eq hu.recorded).mono ?_
    intro u hu
    simpa using hu

end Self

/-! ## 5. The run -/

section Run

variable {d : Dir} {a : Nat → Nat} {b : Dir → Nat → Nat} {code : Code B}

/-- The passes of a direction record samples of one length for each series. -/
theorem dir_even (hb : b d = fun _ => 0) (s : TestState B)
    (h : IdleRecording ipc P.Idle a b E (ipc.before d ++ (iTaskDir d ++ iTaskAfter cfg ipc d)) s)
    (hs : P.Even s.mem.series) :
    P.Evenly s fun t => IdleRecording ipc P.Idle a (progress cfg b d cfg.messageSizeSteps 0)
      (dirEvents d ++ E) (iTaskAfter cfg ipc d) t ∧ P.Even t.mem.series := by
  obtain ⟨σ, hσ, h⟩ := h
  have hstart : progress cfg b d 0 0 = b := by
    have hzero : tally cfg.measurementCount 0 0 = b d := by
      rw [hb]
      exact funext (tally_zero _)
    rw [progress, hzero, Function.update_eq_self]
  refine (hs.leads (P.before d _ _ _ s h) fun t ht m _ => count_congr h.series ht.series m).bind ?_
  intro s₁ h₁
  obtain ⟨h₁, hs₁⟩ := h₁
  refine (hs₁.leads (startDir P s₁ h₁) fun t ht m _ => count_congr h₁.series ht.series m).bind ?_
  intro s₂ h₂
  refine (tArmSweep_even P s₂ ⟨σ, hstart ▸ hσ, h₂.1⟩ h₂.2).bind ?_
  intro s₃ h₃
  obtain ⟨h₃, hs₃⟩ := h₃
  rw [dirEvents, List.append_assoc]
  refine hs₃.leads (endDir P (fun m hm => ?_) s₃ h₃) fun t ht =>
    h₃.recorded.count_eq ht.recorded
  rw [progress, Function.update_self, tally_done hm]

/-- So do those of `T_Self`. -/
theorem self_even (hr : ipc.hasSelf = true)
    (htransfer : ∀ n < cfg.messageSizeSteps, ∀ st ∈ ipc.transferSelf n, TransferStmt st)
    (s : TestState B)
    (h : IdleRecording ipc P.Idle (fun _ => 0) (fun _ _ => 0) E (iTaskSelf ++ iTaskUp cfg ipc) s)
    (hs : P.Even s.mem.series) :
    P.Evenly s fun t => IdleRecording ipc P.Idle
      (tally cfg.measurementCount cfg.messageSizeSteps 0) (fun _ _ => 0) (selfEvents ++ E)
      (iTaskUp cfg ipc) t ∧ P.Even t.mem.series := by
  obtain ⟨σ, hσ, h⟩ := h
  have hstart : tally cfg.measurementCount 0 0 = fun _ => 0 := funext (tally_zero _)
  refine (hs.leads (startSelf P.own_common s h) fun t ht m _ =>
    count_congr h.series ht.series m).bind ?_
  intro s₁ h₁
  refine (tSelfSweep_even P hr htransfer s₁ ⟨σ, hstart ▸ hσ, h₁.1⟩ h₁.2).bind ?_
  intro s₂ h₂
  obtain ⟨h₂, hs₂⟩ := h₂
  rw [selfEvents, List.append_assoc]
  exact hs₂.leads (endSelf P s₂ h₂) fun t ht => h₂.recorded.count_eq ht.recorded

/-- The run up to the verdict. -/
theorem run_leads_even
    (htransfer : ∀ n < cfg.messageSizeSteps, ∀ st ∈ ipc.transferSelf n, TransferStmt st) :
    P.Evenly (start cfg ipc)
      (ZephyrBench.Settled idleThread outliers fun _ σ => P.Even σ) := by
  have hbegin : P.Even (start cfg ipc).mem.series :=
    fun m _ => Fed.uniform (n := 0) (.initialized _)
  have hnone : Recorded ipc (fun _ => 0) (fun _ _ => 0) (start cfg ipc).mem.series := by
    constructor <;> simp [start, Mem.initial]
  refine (hbegin.leads (boot P.own_common) fun t ht => hnone.count_eq ht.recorded).bind ?_
  intro s₀ h₀
  obtain ⟨⟨σ, hσ, h₀⟩, hs₀⟩ := h₀
  refine (hs₀.leads (P.init _ _ _ s₀ h₀) fun t ht m _ =>
    count_congr h₀.series ht.series m).bind ?_
  intro s₁ h₁
  obtain ⟨h₁, hs₁⟩ := h₁
  have hself : P.Evenly s₁ fun t => (∃ a,
      IdleRecording ipc P.Idle a (fun _ _ => 0) (if ipc.hasSelf then selfEvents else [])
        (iTaskUp cfg ipc) t) ∧ P.Even t.mem.series := by
    cases hr : ipc.hasSelf with
    | false => exact .done ⟨⟨fun _ => 0, σ, hσ, by simpa [hr] using h₁⟩, hs₁⟩
    | true =>
      refine (self_even P hr htransfer s₁ ⟨σ, hσ, by simpa [hr] using h₁⟩ hs₁).mono ?_
      exact fun t ht => ⟨⟨_, by simpa using ht.1⟩, ht.2⟩
  refine hself.bind ?_
  intro s₂ h₂
  obtain ⟨⟨a, h₂⟩, hs₂⟩ := h₂
  rw [iTaskUp, List.append_assoc] at h₂
  refine (dir_even P rfl s₂ h₂ hs₂).bind ?_
  intro s₃ h₃
  obtain ⟨h₃, hs₃⟩ := h₃
  have hafter : iTaskAfter cfg ipc .up = kcall (.kSemReset testArmSem) ::
      kcall (.kSemReset testRecvSem) ::
        (ipc.before .down ++ (iTaskDir .down ++ iTaskAfter cfg ipc .down)) := by
    simp [iTaskAfter]
  rw [hafter] at h₃
  refine (hs₃.leads (resetSems P s₃ h₃) fun t ht => h₃.recorded.count_eq ht.recorded).bind ?_
  intro s₄ h₄
  refine (dir_even P (by simp [progress]) s₄ h₄.1 h₄.2).bind ?_
  intro s₅ h₅
  obtain ⟨h₅, hs₅⟩ := h₅
  have hrecorded := h₅.recorded
  obtain ⟨σ₅, hσ₅, h₅⟩ := h₅
  refine (hs₅.leads (countOutliers_ends P s₅ ⟨σ₅, hσ₅, { h₅ with store := trivial }⟩) fun t ht =>
    hrecorded.count_eq ht.recorded).mono ?_
  intro t ht
  obtain ⟨⟨σ', hσ', ht⟩, hs'⟩ := ht
  exact ⟨ht.runs.1, ht.irq.1, ht.idle.2.2.2 ▸ .head, hs'⟩

/-- At all times the samples have their length. -/
theorem run_even {K : Type} (Z : Zephyr K Thread Object Addr EntryFn)
    (htransfer : ∀ n < cfg.messageSizeSteps, ∀ st ∈ ipc.transferSelf n, TransferStmt st)
    (n : Nat) : P.Even (run cfg ipc Z n).mem.series := by
  rw [run, run_view]
  refine (run_leads_even P htransfer).always (fun t ht k => ?_) n
  exact (iterate_of_closed ht (fun _ h => h.next fun _ _ _ _ => rfl) k).rest

end Run

/-- In the end every series that a test records has its samples. -/
theorem Complete.count {k : Kernel Thread Object Addr} {σ : Series → B.Series}
    (h : Complete cfg ipc k σ) {m : Series} (hm : Records cfg ipc m) :
    B.iterationCount (σ m) = cfg.measurementCount := by
  cases m with
  | selfSend n => exact (h n hm.2).1 hm.1
  | sendTo d n => exact ((h n hm).2 d).1
  | rendezvousTo d n => exact ((h n hm.2).2 d).2 hm.1

/-! ## 6. The tests -/

namespace Test

/-- The length of the samples: the statements that the tasks execute and the
switches between them, up to the stop marker. -/
def sampleLength (T : Test) : Series → Nat
  | selfSend _ =>
    match T with
    | .msgq | .pipeAsync => 3
    | _ => 4
  | sendTo .up _ =>
    match T with
    | .msgq | .pipeAsync | .pipeSync => 3
    | _ => 4
  | sendTo .down _ =>
    match T with
    | .msgq | .pipeAsync => 4
    | .mailboxSync => 8
    | _ => 5
  | rendezvousTo .up _ =>
    match T with
    | .pipeSync => 6
    | _ => 7
  | rendezvousTo .down _ =>
    match T with
    | .pipeSync => 2
    | _ => 5

theorem sampleLength_eq (T : Test) {m : Series} (hm : Records cfg (T.ipc B cfg) m) :
    (T.protocol B cfg).sampleLength m = T.sampleLength m := by
  cases m with
  | selfSend n =>
    cases T with
    | pipeSync => exact absurd hm.1 Bool.false_ne_true
    | mailboxSync => exact absurd hm.1 Bool.false_ne_true
    | _ => rfl
  | sendTo d n => cases T <;> cases d <;> rfl
  | rendezvousTo d n =>
    cases T with
    | pipeSync => cases d <;> rfl
    | mailboxSync => cases d <;> rfl
    | _ => exact absurd hm.1 Bool.false_ne_true

theorem transferSelf_stmt (T : Test) (n : Nat) :
    ∀ st ∈ (T.ipc B cfg).transferSelf n, TransferStmt st := by
  cases T <;> simp [Test.ipc, Itc.fifo, Itc.lifo, Itc.stack, addressIpc, Itc.msgq, Itc.pipeAsync,
    Itc.pipeSync, Itc.mailboxAsync, Itc.mailboxSync, TransferStmt, isTransfer]

end Test

variable {K : Type} (Z : Zephyr K Thread Object Addr EntryFn)

/-- In every test all samples that are ever recorded in a series have one
length, and in the end every series consists of exactly its number of them. -/
theorem itc_samples (T : Test) :
    (∀ n, UniformOn (Records cfg (T.ipc B cfg)) T.sampleLength
      (run cfg (T.ipc B cfg) Z n).mem.series) ∧
    Ends (run cfg (T.ipc B cfg) Z) fun s => ∀ m, Records cfg (T.ipc B cfg) m →
      Fed (List.replicate cfg.measurementCount (T.sampleLength m)) (s.mem.series m) := by
  have heven := run_even (T.protocol B cfg) Z fun n _ => T.transferSelf_stmt n
  have huniform : ∀ n, UniformOn (Records cfg (T.ipc B cfg)) T.sampleLength
      (run cfg (T.ipc B cfg) Z n).mem.series := by
    intro n m hm
    rw [← T.sampleLength_eq hm]
    exact heven n m hm
  refine ⟨huniform, ?_⟩
  have hends : T.Completes B cfg Z := T.completes Z
  obtain ⟨n, hn⟩ := hends
  refine ⟨n, fun k hk m hm => ?_⟩
  have hfed := huniform k m hm
  have hcount : B.iterationCount ((run cfg (T.ipc B cfg) Z k).mem.series m) =
      cfg.measurementCount := (hn k hk).rest.count hm
  rw [Uniform, hcount] at hfed
  exact hfed

end ZephyrBench.Itc

/-
ZephyrBench.TaskSwitching.TaskChangeTheorems — what `task_change` measures.

`taskChange_settles`: both scenarios record `MEASUREMENT_COUNT` samples, for
every number of dummy tasks and every documented kernel. Every sample of S_A is
one yield of `L_Task_SA` and the switch to `H_Task_SA`, every sample of S_B one
yield that does not switch, and no task of S_A is left when S_B takes a start
marker.

## How the proof goes

The tasks of S_A have one priority, so every yield turns the ready queue by one
place and a round of yields restores it: `L_Task_SA`, `H_Task_SA`, then the dummy
tasks in the order of their creation. `RoundSA` is the state at the beginning of
a round, `TurnsSA` the one in which some dummy tasks have had their turn, and
`sampleSA` and `turnsSA` lead from one to the next. The last round is cut short
by the task that finds the series complete (`lastSA_alone`, `stopsSA`).

## The first start marker

In the first round `H_Task_SA` yields before it takes a stop marker. The first
start marker of S_A therefore has no sample, and with dummy tasks the way from it
to the first stop marker leads through them (`not_cleanPairs_one_dummy`). That is
why `Good` speaks of the start marker behind a previous stop marker
(`startsSinceStop`) and does not pair all start markers with stop markers.
-/
import ZephyrBench.TaskSwitching.Dummies
import ZephyrBench.TaskSwitching.TaskChange

namespace ZephyrBench.TaskSwitching.TaskChange

open Rtos Rtos.Exec Thread Object Series Marker

variable {B : Bmth} (cfg : Config)

/-! ## 1. What is claimed of every state -/

/-- The window of a sample of S_A, latest entry first. -/
def windowSA : List (HistEntry EntryFn) :=
  [ .exec saHighPrioThread (.prim (.getStopCnt testStopTime)),
    .switch (some saLowPrioThread) (some saHighPrioThread),
    .exec saLowPrioThread (.call .kYield),
    .exec saLowPrioThread (.prim (.getStartCnt testStartTime)) ]

/-- The window of a sample of S_B. -/
def windowSB : List (HistEntry EntryFn) :=
  [ .exec sbThread (.prim (.getStopCnt testStopTime)),
    .exec sbThread (.call .kYield),
    .exec sbThread (.prim (.getStartCnt testStartTime)) ]

/-- The number of start markers since the last stop marker, if there is one;
the latest entry comes first. -/
def startsSinceStop : List (HistEntry EntryFn) → Option Nat
  | [] => none
  | .exec _ (.prim (.getStopCnt _)) :: _ => some 0
  | .exec _ (.prim (.getStartCnt _)) :: log => (startsSinceStop log).map (· + 1)
  | _ :: log => startsSinceStop log

/-- The dummy tasks, in the order of their creation. -/
def dummies : List Thread := (List.range cfg.dummyCount).map saDummyThreads

/-- The other ready tasks of the priority of `L_Task_SA` when it yields. -/
def peers : List Thread := saHighPrioThread :: dummies cfg

/-- The tasks of S_A have been removed. -/
def GoneSA (s : TestState B EntryFn) : Prop :=
  s.kern.alive saLowPrioThread = false ∧ s.kern.alive saHighPrioThread = false ∧
    ∀ i < cfg.dummyCount, s.kern.alive (saDummyThreads i) = false

/-- `L_Task_SA` yields to `H_Task_SA` and goes behind `dummy_count + 1` tasks of
its priority. -/
def YieldSA (s : TestState B EntryFn) : Prop :=
  s.kern.readyq = saLowPrioThread :: (peers cfg ++ [idleThread]) ∧
    (∀ u ∈ peers cfg, s.kern.prio u = s.kern.prio saLowPrioThread) ∧
    (s.kern.yield saLowPrioThread).current = some saHighPrioThread ∧
    (s.kern.yield saLowPrioThread).readyq = peers cfg ++ [saLowPrioThread, idleThread]

/-- What `t` is about to execute finds the state as it should be. -/
def Good (s : TestState B EntryFn) : Prop :=
  s.AtStmt fun t (st : Statement B EntryFn) =>
    match st with
    | .prim (.mseriesIterate scenarioA start stop _) =>
      t = saHighPrioThread ∧ s.mem.isOpen scenarioA = true ∧ s.Window start stop windowSA
    | .prim (.mseriesIterate scenarioB start stop _) =>
      t = sbThread ∧ s.mem.isOpen scenarioB = true ∧ s.Window start stop windowSB
    | .prim (.getStartCnt _) =>
      t = saLowPrioThread ∧ s.mem.count scenarioA < cfg.measurementCount ∨
        t = sbThread ∧ GoneSA cfg s
    | .prim (.getStopCnt _) =>
      t = saHighPrioThread → ∀ n, startsSinceStop s.log = some n → n = 1
    | .call c =>
      (c s.mem = .kYield → t = saLowPrioThread → YieldSA cfg s) ∧
      ∀ u, c s.mem = .kThreadAbort u → t = idleThread ∧ s.kern.suspended u = true
    | _ => True

/-! ## 2. S_A -/

@[local simp] theorem mem_dummies {t : Thread} :
    t ∈ dummies cfg ↔ ∃ i < cfg.dummyCount, saDummyThreads i = t := by
  simp [dummies]

@[local simp] theorem startsSinceStop_ite {p : Prop} [Decidable p]
    {l l' : List (HistEntry EntryFn)} :
    startsSinceStop (if p then l else l') =
      if p then startsSinceStop l else startsSinceStop l' :=
  apply_ite ..

/-- A task that yields goes behind its peers and in front of `I_Task`. -/
theorem insertPrio_peer {pr : Thread → Nat} {t : Thread} {front : List Thread}
    (hfront : ∀ u ∈ front, pr u = pr t) (hidle : pr t < pr idleThread) :
    insertPrio pr t (front ++ [idleThread]) = front ++ [t, idleThread] :=
  insertPrio_between (fun u hu => Nat.le_of_eq (hfront u hu)) (by simpa using hidle)

/-- `L_Task_SA` runs and is about to begin a round, with `n` samples recorded;
`left` is what is left of `H_Task_SA`. -/
structure RoundSA (left : Code B EntryFn) (n : Nat) (s : TestState B EntryFn) : Prop where
  runs : s.Runs saLowPrioThread (saLowPrioThread :: (peers cfg ++ [idleThread]))
  irq : s.NoIrq
  idle : s.ThreadAt idleThread taskIdlePrio false .no (iTaskSB cfg)
  low : s.ThreadAt saLowPrioThread taskSaLowPrio false .no [.loop lTaskSALoop]
  high : s.ThreadAt saHighPrioThread taskSaHighPrio false .no left
  dummies : ∀ i < cfg.dummyCount, s.ThreadAt (saDummyThreads i) taskSaDummyPrio false .no
    [.loop (dummyTaskLoop cfg)]
  marks : startsSinceStop s.log = if n = 0 then none else some 0
  countA : s.mem.count scenarioA = n
  countB : s.mem.count scenarioB = 0

attribute [local simp] Good State.Window windowSA windowSB taskIdlePrio taskSaLowPrio
  taskSaHighPrio taskSaDummyPrio taskSbHighPrio startEventMask lTaskSALoop hTaskSALoop
  hTaskSAClose taskSBLoop dummyTaskLoop body lTaskSA hTaskSA taskSB dummyTask complete
  startsSinceStop peers

theorem good_of_scaffold (s : TestState B EntryFn) (h : s.AtStmt fun _ st => Scaffold st) :
    Good cfg s :=
  h.mono fun _ _ h => by cases h <;> simp [waitOnMask]

/-- The turns of the dummy tasks in a round: `a` have yielded, `b` are still
to run. -/
structure TurnsSA (n : Nat) (a b : List Nat) (s : TestState B EntryFn) : Prop where
  current : s.kern.current = (b.map saDummyThreads ++ saLowPrioThread :: saHighPrioThread ::
    (a.map saDummyThreads ++ [idleThread])).head?
  readyq : s.kern.readyq = b.map saDummyThreads ++ saLowPrioThread :: saHighPrioThread ::
    (a.map saDummyThreads ++ [idleThread])
  irq : s.NoIrq
  idle : s.ThreadAt idleThread taskIdlePrio false .no (iTaskSB cfg)
  low : s.ThreadAt saLowPrioThread taskSaLowPrio false .no [.loop lTaskSALoop]
  high : s.ThreadAt saHighPrioThread taskSaHighPrio false .no
    ((hTaskSALoop cfg).tail ++ [.loop (hTaskSALoop cfg)])
  dummies : ∀ i < cfg.dummyCount, s.ThreadAt (saDummyThreads i) taskSaDummyPrio false .no
    [.loop (dummyTaskLoop cfg)]
  marks : startsSinceStop s.log = if n = 0 then none else some 0
  countA : s.mem.count scenarioA = n
  countB : s.mem.count scenarioB = 0

/-- The first round: `H_Task_SA` yields before it takes a stop marker. -/
theorem firstSA (s : TestState B EntryFn) (h : RoundSA cfg [.loop (hTaskSALoop cfg)] 0 s) :
    Leads (program (body cfg)).next (Good cfg) s
      (TurnsSA cfg 0 [] (List.range cfg.dummyCount)) := by
  have hN : 0 < cfg.measurementCount := cfg.one_le_measurementCount
  cases h
  have hlow : insertPrio s.kern.prio saLowPrioThread (dummies cfg ++ [idleThread]) =
      dummies cfg ++ [saLowPrioThread, idleThread] :=
    insertPrio_peer (by simp +contextual [*]) (by simp [*])
  have hhigh : insertPrio s.kern.prio saHighPrioThread
      ((dummies cfg ++ [saLowPrioThread]) ++ [idleThread]) =
      (dummies cfg ++ [saLowPrioThread]) ++ [saHighPrioThread, idleThread] :=
    insertPrio_peer (by simp +contextual [*, or_imp]) (by simp [*])
  simp only [List.append_assoc, List.singleton_append] at hhigh
  -- L_Task_SA takes a start marker and yields
  iterate 5
    refine .step (by simp +contextual [*, YieldSA]) ?_
    simp [*]
  -- H_Task_SA yields
  iterate 2
    refine .step (by simp +contextual [*]) ?_
    simp [*]
  refine .done ?_
  constructor <;> simp +contextual [*, dummies]

/-- A sample of S_A that does not end the scenario. -/
theorem sampleSA {n : Nat} (hn : n < cfg.measurementCount)
    (hlast : cfg.dummyCount = 0 → n + 1 < cfg.measurementCount) (s : TestState B EntryFn)
    (h : RoundSA cfg ((hTaskSALoop cfg).tail ++ [.loop (hTaskSALoop cfg)]) n s) :
    Leads (program (body cfg)).next (Good cfg) s
      (TurnsSA cfg (n + 1) [] (List.range cfg.dummyCount)) := by
  cases h
  have hlow : insertPrio s.kern.prio saLowPrioThread (dummies cfg ++ [idleThread]) =
      dummies cfg ++ [saLowPrioThread, idleThread] :=
    insertPrio_peer (by simp +contextual [*]) (by simp [*])
  have hhigh : insertPrio s.kern.prio saHighPrioThread
      ((dummies cfg ++ [saLowPrioThread]) ++ [idleThread]) =
      (dummies cfg ++ [saLowPrioThread]) ++ [saHighPrioThread, idleThread] :=
    insertPrio_peer (by simp +contextual [*, or_imp]) (by simp [*])
  simp only [List.append_assoc, List.singleton_append] at hhigh
  -- L_Task_SA takes a start marker and yields
  iterate 5
    refine .step (by simp +contextual [*, YieldSA]) ?_
    simp [*]
  -- H_Task_SA takes the stop marker and records
  iterate 2
    refine .step (by simp +contextual [*]) ?_
    simp [*]
  by_cases hd : cfg.dummyCount = 0
  · have hn' : ¬ cfg.measurementCount ≤ n + 1 := Nat.not_le.mpr (hlast hd)
    iterate 4
      refine .step (by simp +contextual [*]) ?_
      simp [*]
    refine .done ?_
    constructor <;> simp +contextual [*, dummies]
  · iterate 2
      refine .step (by simp +contextual [*]) ?_
      simp [*]
    refine .done ?_
    constructor <;> simp +contextual [*, dummies]

/-- The dummy tasks yield one after the other; the round is complete. -/
theorem turnsSA {n : Nat} (hn : n < cfg.measurementCount) (s : TestState B EntryFn)
    (h : TurnsSA cfg n [] (List.range cfg.dummyCount) s) :
    Leads (program (body cfg)).next (Good cfg) s
      (RoundSA cfg ((hTaskSALoop cfg).tail ++ [.loop (hTaskSALoop cfg)]) n) := by
  have hn' : ¬ cfg.measurementCount ≤ n := Nat.not_le.mpr hn
  refine (Leads.forEach (S := TurnsSA cfg n) ?_ h).mono fun t h => ?_
  · intro a x b hab s h
    have hmem : ∀ i ∈ a ++ x :: b, i < cfg.dummyCount := fun i hi => by
      rwa [hab, List.mem_range] at hi
    have hx : x < cfg.dummyCount := hmem x (by simp)
    have ha : ∀ i ∈ a, i < cfg.dummyCount := fun i hi => hmem i (by simp [hi])
    have hb : ∀ i ∈ b, i < cfg.dummyCount := fun i hi => hmem i (by simp [hi])
    cases h
    have hins : insertPrio s.kern.prio (saDummyThreads x)
        ((b.map saDummyThreads ++ saLowPrioThread :: saHighPrioThread ::
          a.map saDummyThreads) ++ [idleThread]) =
        (b.map saDummyThreads ++ saLowPrioThread :: saHighPrioThread ::
          a.map saDummyThreads) ++ [saDummyThreads x, idleThread] :=
      insertPrio_peer (by simp +contextual [*, or_imp, forall_and]) (by simp [*])
    simp only [List.append_assoc, List.cons_append] at hins
    iterate 4
      refine .step (by simp +contextual [*]) ?_
      simp [*]
    refine .done ?_
    constructor <;> simp +contextual [*]
  · cases h
    constructor <;> simp +contextual [*, dummies]

/-- The tasks of S_A have suspended themselves. -/
structure EndedSA (s : TestState B EntryFn) : Prop where
  runs : s.Runs idleThread [idleThread]
  irq : s.NoIrq
  idle : s.ThreadAt idleThread taskIdlePrio false .no (iTaskSB cfg)
  low : s.kern.suspended saLowPrioThread = true ∧ s.kern.pend saLowPrioThread = .no
  high : s.kern.suspended saHighPrioThread = true ∧ s.kern.pend saHighPrioThread = .no
  dummies : ∀ i < cfg.dummyCount, s.kern.suspended (saDummyThreads i) = true ∧
    s.kern.pend (saDummyThreads i) = .no
  countA : s.mem.count scenarioA = cfg.measurementCount
  countB : s.mem.count scenarioB = 0

/-- The last sample without dummy tasks: `H_Task_SA` ends the scenario. -/
theorem lastSA_alone {n : Nat} (hn : n + 1 = cfg.measurementCount) (hd : cfg.dummyCount = 0)
    (s : TestState B EntryFn)
    (h : RoundSA cfg ((hTaskSALoop cfg).tail ++ [.loop (hTaskSALoop cfg)]) n s) :
    Leads (program (body cfg)).next (Good cfg) s (EndedSA cfg) := by
  have hn' : n < cfg.measurementCount := by omega
  have hdummies : dummies cfg = [] := by simp [dummies, hd]
  cases h
  iterate 5
    refine .step (by simp +contextual [*, YieldSA]) ?_
    simp [*]
  iterate 6
    refine .step (by simp +contextual [*]) ?_
    simp [*]
  refine .done ?_
  constructor <;> simp [*]

/-- The end of the scenario with dummy tasks: `a` have suspended themselves,
the first of them `L_Task_SA` and `H_Task_SA` too. -/
structure StopsSA (a b : List Nat) (s : TestState B EntryFn) : Prop where
  current : s.kern.current = (b.map saDummyThreads ++
    if a = [] then [saLowPrioThread, saHighPrioThread, idleThread] else [idleThread]).head?
  readyq : s.kern.readyq = b.map saDummyThreads ++
    if a = [] then [saLowPrioThread, saHighPrioThread, idleThread] else [idleThread]
  irq : s.NoIrq
  idle : s.ThreadAt idleThread taskIdlePrio false .no (iTaskSB cfg)
  low : s.kern.suspended saLowPrioThread = !a.isEmpty ∧ s.kern.pend saLowPrioThread = .no
  high : s.kern.suspended saHighPrioThread = !a.isEmpty ∧ s.kern.pend saHighPrioThread = .no
  done : ∀ i ∈ a, s.kern.suspended (saDummyThreads i) = true
  ready : ∀ i ∈ b, s.kern.suspended (saDummyThreads i) = false ∧
    s.code (saDummyThreads i) = [.loop (dummyTaskLoop cfg)]
  pend : ∀ i < cfg.dummyCount, s.kern.pend (saDummyThreads i) = .no
  countA : s.mem.count scenarioA = cfg.measurementCount
  countB : s.mem.count scenarioB = 0

theorem stopsSA (hd : cfg.dummyCount ≠ 0) (s : TestState B EntryFn)
    (h : TurnsSA cfg cfg.measurementCount [] (List.range cfg.dummyCount) s) :
    Leads (program (body cfg)).next (Good cfg) s (EndedSA cfg) := by
  have hstop : StopsSA cfg [] (List.range cfg.dummyCount) s := by
    cases h
    constructor <;> simp +contextual [*]
  refine (Leads.forEach (S := StopsSA cfg) ?_ hstop).mono fun t h => ?_
  · intro a x b hab s h
    have hnodup : (a ++ x :: b).Nodup := hab ▸ List.nodup_range
    have ha : ∀ i ∈ a, i ≠ x := fun i hi h =>
      (List.nodup_append.mp hnodup).2.2 i hi x (by simp) h
    have hb : ∀ i ∈ b, i ≠ x := fun i hi h =>
      (List.nodup_cons.mp (List.nodup_append.mp hnodup).2.1).1 (h ▸ hi)
    cases h
    cases a with
    | nil =>
      have herase : ((b.map saDummyThreads ++
          [saLowPrioThread, saHighPrioThread, idleThread]).erase saLowPrioThread).erase
            saHighPrioThread = b.map saDummyThreads ++ [idleThread] := by
        rw [List.erase_append_right _ (by simp), List.erase_append_right _ (by simp)]
        simp
      iterate 6
        refine .step (by simp +contextual [*]) ?_
        simp [*]
      refine .done ?_
      constructor <;> simp +contextual [*]
    | cons y a =>
      iterate 6
        refine .step (by simp +contextual [*]) ?_
        simp [*]
      refine .done ?_
      constructor <;> simp +contextual [*]
      rintro i (hi | rfl) <;> simp [*]
  · have hne : List.range cfg.dummyCount ≠ [] := by simp [hd]
    cases h
    constructor <;> simp +contextual [*]

/-- The tasks of S_A wait for the start; `I_Task` is about to create the dummy
tasks. -/
structure BootedSA (s : TestState B EntryFn) : Prop where
  runs : s.Runs idleThread [idleThread]
  irq : s.NoIrq
  event : s.ObjectAt testEvent (.event 0) [saLowPrioThread, saHighPrioThread]
  idle : s.ThreadAt idleThread taskIdlePrio false .no
    (createDummies saDummyThreads .dummyTask (fun _ => taskSaDummyPrio) cfg.dummyCount 0 ::
      iTaskSA cfg)
  low : s.ThreadAt saLowPrioThread taskSaLowPrio false (.on testEvent) [.loop lTaskSALoop]
  high : s.ThreadAt saHighPrioThread taskSaHighPrio false (.on testEvent)
    [.loop (hTaskSALoop cfg)]
  events : s.kern.events saLowPrioThread = startEventMask ∧
    s.kern.events saHighPrioThread = startEventMask
  stops : ∀ u x, .exec u (.prim (.getStopCnt x)) ∉ s.log
  countA : s.mem.count scenarioA = 0
  countB : s.mem.count scenarioB = 0

theorem boot_leads :
    Leads (program (body cfg)).next (Good (B := B) cfg) (start (body cfg) .iTask)
      (BootedSA cfg) := by
  iterate 5
    refine .step (by simp [start, iTask, Kernel.boot]) ?_
    simp [start, iTask, Kernel.boot]
  refine .done ?_
  constructor <;> simp [Mem.initial]

theorem startsSinceStop_eq_none {log : List (HistEntry EntryFn)}
    (h : ∀ u x, .exec u (.prim (.getStopCnt x)) ∉ log) : startsSinceStop log = none := by
  fun_induction startsSinceStop log with
  | case1 => rfl
  | case2 u x log => exact absurd List.mem_cons_self (h u x)
  | case3 u x log ih => simpa using ih fun u x hx => h u x (List.mem_cons_of_mem _ hx)
  | case4 e log _ _ ih => exact ih fun u x hx => h u x (List.mem_cons_of_mem _ hx)

/-- The post of the start bit makes the tasks of S_A ready, in the order in
which they were created. -/
theorem startSA (s : TestState B EntryFn) (h : BootedSA cfg s) :
    Leads (program (body cfg)).next (Good cfg) s (RoundSA cfg [.loop (hTaskSALoop cfg)] 0) := by
  have hscaffold : ∀ s : TestState B EntryFn, s.AtStmt (fun _ st => ScaffoldOf saDummyThreads
      (kcall (.kEventWaitSafe testEvent startEventMask .forever)) st) → Good cfg s :=
    fun t ht => good_of_scaffold cfg t (ht.mono fun _ _ hst =>
      hst.scaffold (.event _ _ h.event (by decide)))
  refine (createDummies_leads (D := saDummyThreads) (.event _ _ h.event (by decide)) (.once _)
    (fun _ _ => saDummyThreads.inj) (by simp) (by simp) hscaffold h.runs h.irq
    h.idle.2.2.2 ?_ ?_).bind fun t ht => ?_
  · simp [h.idle.1]
  · simp [h.low.1, h.high.1]
  have hmarks : startsSinceStop t.log = none :=
    startsSinceStop_eq_none fun u x hx => h.stops u x (ht.stops u x hx)
  have hwait : t.kern.waitq testEvent = saLowPrioThread :: saHighPrioThread :: dummies cfg := by
    rw [ht.waiting, dummyOrder_const]
    rfl
  obtain ⟨_, _, _, _, _, _, _, -, _, _, _, _, _, _, _, _, _, _, _⟩ := ht
  cases h
  have hmatch : Kernel.matching t.kern.events startEventMask (dummies cfg) = dummies cfg :=
    Kernel.matching_eq_self (by simp +contextual [*])
  have hrest : Kernel.notMatching t.kern.events startEventMask (dummies cfg) = [] :=
    Kernel.notMatching_eq_nil (by simp +contextual [*])
  have hconsumed : startEventMask |||
      Kernel.consumedBits t.kern.events startEventMask (dummies cfg) = startEventMask :=
    Kernel.or_consumedBits (by simp +contextual [*])
  simp only [startEventMask, BitVec.ofNat_eq_ofNat] at hmatch hrest hconsumed
  have hawake : awake t.kern.suspended (dummies cfg) = dummies cfg :=
    awake_eq_self (by simp +contextual [*])
  have hready : enqueueAll t.kern.prio (dummies cfg)
      [saLowPrioThread, saHighPrioThread, idleThread] =
      saLowPrioThread :: saHighPrioThread :: (dummies cfg ++ [idleThread]) := by
    have h : enqueueAll t.kern.prio ((dummyOrder (fun _ => 3) cfg.dummyCount).map saDummyThreads)
        ([saLowPrioThread, saHighPrioThread] ++ [idleThread]) = _ :=
      enqueueAll_dummies (by simp +contextual [*]) (by simp [*]) (by simp [*])
    rwa [dummyOrder_const] at h
  refine .step (by simp [*, iTaskSA]) ?_
  simp [*, iTaskSA]
  refine .done ?_
  constructor <;> simp +contextual [*]

/-- The rounds of S_A, up to the last sample. -/
theorem roundsSA (s : TestState B EntryFn) (h : RoundSA cfg [.loop (hTaskSALoop cfg)] 0 s) :
    Leads (program (body cfg)).next (Good cfg) s (EndedSA cfg) := by
  have hN := cfg.one_le_measurementCount
  refine (firstSA cfg s h).bind ?_
  intro s h
  refine (turnsSA cfg hN s h).bind ?_
  intro s h
  refine (Leads.loop (n := cfg.measurementCount - 1) (fun n hn s h => ?_) h).bind fun s h => ?_
  · refine (sampleSA cfg (by omega) (fun _ => by omega) s h).bind ?_
    exact fun s h => turnsSA cfg (by omega) s h
  by_cases hd : cfg.dummyCount = 0
  · exact lastSA_alone cfg (by omega) hd s h
  · refine (sampleSA cfg (by omega) (fun hd' => absurd hd' hd) s h).bind ?_
    intro s h
    rw [Nat.sub_add_cancel hN] at h
    exact stopsSA cfg hd s h

/-- `I_Task` removes the tasks of S_A, the first `i` dummy tasks so far. -/
structure RemovingSA (i : Nat) (s : TestState B EntryFn) : Prop where
  runs : s.Runs idleThread [idleThread]
  irq : s.NoIrq
  idle : s.ThreadAt idleThread taskIdlePrio false .no
    (abortDummies cfg.dummyCount i ::
      kcall (.kThreadCreate sbThread .taskSB taskSbHighPrio) :: verdictLoop)
  low : s.kern.alive saLowPrioThread = false
  high : s.kern.alive saHighPrioThread = false
  gone : ∀ j < i, s.kern.alive (saDummyThreads j) = false
  dummies : ∀ i < cfg.dummyCount, s.kern.suspended (saDummyThreads i) = true ∧
    s.kern.pend (saDummyThreads i) = .no
  countA : s.mem.count scenarioA = cfg.measurementCount
  countB : s.mem.count scenarioB = 0

theorem leaveSA (s : TestState B EntryFn) (h : EndedSA cfg s) :
    Leads (program (body cfg)).next (Good cfg) s (RemovingSA cfg 0) := by
  cases h
  iterate 2
    refine .step (by simp [*, iTaskSB]) ?_
    simp [*, iTaskSB]
  refine .done ?_
  constructor <;> simp +contextual [*]

theorem removeSA {i : Nat} (hi : i < cfg.dummyCount) (s : TestState B EntryFn)
    (h : RemovingSA cfg i s) :
    Leads (program (body cfg)).next (Good cfg) s (RemovingSA cfg (i + 1)) := by
  cases h
  iterate 2
    refine .step (by simp [*, abortDummies]) ?_
    simp [*, abortDummies]
  refine .done ?_
  constructor <;> simp +contextual [*, abortDummies, ↓Nat.forall_lt_succ_right, Nat.ne_of_lt]

/-! ## 3. S_B -/

/-- `Task_SB` runs and is about to take sample `i + 1`. -/
structure HeadSB (i : Nat) (s : TestState B EntryFn) : Prop where
  runs : s.Runs sbThread [sbThread, idleThread]
  irq : s.NoIrq
  gone : GoneSA cfg s
  idle : s.ThreadAt idleThread taskIdlePrio false .no verdictLoop
  task : s.ThreadAt sbThread taskSbHighPrio false .no [.loop (taskSBLoop cfg)]
  countA : s.mem.count scenarioA = cfg.measurementCount
  countB : s.mem.count scenarioB = i

theorem startSB (s : TestState B EntryFn) (h : RemovingSA cfg cfg.dummyCount s) :
    Leads (program (body cfg)).next (Good cfg) s (HeadSB cfg 0) := by
  cases h
  iterate 2
    refine .step (by simp [*, abortDummies]) ?_
    simp [*, abortDummies]
  refine .done ?_
  constructor <;> simp +contextual [*, GoneSA]

theorem passSB {i : Nat} (hi : i < cfg.measurementCount - 1) (s : TestState B EntryFn)
    (h : HeadSB cfg i s) :
    Leads (program (body cfg)).next (Good cfg) s (HeadSB cfg (i + 1)) := by
  have hi' : ¬ cfg.measurementCount ≤ i + 1 := by omega
  obtain ⟨_, _, ⟨_, _, _⟩, _, _, _, _⟩ := h
  iterate 9
    refine .step (by simp +contextual [*, GoneSA]) ?_
    simp [*]
  refine .done ?_
  constructor <;> simp +contextual [*, GoneSA]

theorem endSB (s : TestState B EntryFn) (h : HeadSB cfg (cfg.measurementCount - 1) s) :
    Leads (program (body cfg)).next (Good cfg) s
      (AtVerdict cfg.measurementCount cfg.measurementCount) := by
  have hN : cfg.measurementCount - 1 + 1 = cfg.measurementCount :=
    Nat.sub_add_cancel cfg.one_le_measurementCount
  obtain ⟨_, _, ⟨_, _, _⟩, _, _, _, _⟩ := h
  iterate 10
    refine .step (by simp +contextual [*, GoneSA]) ?_
    simp [*]
  refine .done ?_
  constructor <;> simp [*, VerdictCode.head]

/-! ## 4. The whole run -/

theorem run_leads :
    Leads (program (body cfg)).next (Good (B := B) cfg) (start (body cfg) .iTask)
      (AtVerdict cfg.measurementCount cfg.measurementCount) := by
  refine (boot_leads cfg).bind ?_
  intro s hs
  refine (startSA cfg s hs).bind ?_
  intro s hs
  refine (roundsSA cfg s hs).bind ?_
  intro s hs
  refine (leaveSA cfg s hs).bind ?_
  intro s hs
  refine (Leads.loop (S := RemovingSA cfg) (fun i hi => removeSA cfg hi) hs).bind ?_
  intro s hs
  refine (startSB cfg s hs).bind ?_
  intro s hs
  exact (Leads.loop (S := HeadSB cfg) (fun i hi => passSB cfg hi) hs).bind (endSB cfg)

theorem good_of_atVerdict {a b : Nat} (s : TestState B EntryFn) (h : AtVerdict a b s) :
    Good cfg s :=
  h.atStmt trivial (fun _ _ => trivial) fun _ => trivial

/-- The run over any documented kernel gets to the verdict with
`MEASUREMENT_COUNT` samples in each scenario; every sample that is recorded
has the window it should have, and every yield of `L_Task_SA` finds the order
it should find. -/
theorem taskChange_settles {K : Type} (Z : Zephyr K Thread Object Empty EntryFn) :
    Ends (run (B := B) Z (body cfg) .iTask)
        (AtVerdict cfg.measurementCount cfg.measurementCount) ∧
      ∀ n, Good cfg (run (B := B) Z (body cfg) .iTask n) :=
  run_of_leads Z (run_leads cfg) (good_of_atVerdict cfg)

/-! ## 5. The first start marker -/

/-- Between a start marker and the stop marker that follows it, neither a dummy
task nor `I_Task` executes anything; the latest entry comes first. -/
def CleanPairs (log : List (HistEntry EntryFn)) : Prop :=
  ∀ after between before t u x y,
    log = after ++ .exec u (.prim (.getStopCnt x)) :: (between ++
      .exec t (.prim (.getStartCnt y)) :: before) →
    (∀ v z, .exec v (.prim (.getStopCnt z)) ∉ between) →
    ∀ v a, .exec v a ∈ between → v ≠ idleThread ∧ ∀ i, v ≠ saDummyThreads i

/-- One sample and one dummy task: after the first start marker `H_Task_SA`
yields to the dummy task. -/
theorem not_cleanPairs_one_dummy :
    ¬ ∀ n, CleanPairs
      (run (B := .plain) Zephyr.documented (body ⟨1, 1, by decide⟩) .iTask n).log := by
  intro h
  have hrun : (run (B := .plain) Zephyr.documented (body ⟨1, 1, by decide⟩) .iTask 27).log =
      [] ++ .exec saHighPrioThread (.prim (.getStopCnt testStopTime)) ::
        ([ .switch (some saLowPrioThread) (some saHighPrioThread),
           .exec saLowPrioThread (.call .kYield),
           .exec saLowPrioThread (.prim (.getStartCnt testStartTime)),
           .exec saLowPrioThread (.prim .resetCounter),
           .exec saLowPrioThread (.prim (.mwindowOpen scenarioA)),
           .switch (some (saDummyThreads 0)) (some saLowPrioThread),
           .exec (saDummyThreads 0) (.call .kYield),
           .exec (saDummyThreads 0) (.prim (.mwindowClose scenarioA)),
           .switch (some saHighPrioThread) (some (saDummyThreads 0)),
           .exec saHighPrioThread (.call .kYield),
           .switch (some saLowPrioThread) (some saHighPrioThread),
           .exec saLowPrioThread (.call .kYield) ] ++
          .exec saLowPrioThread (.prim (.getStartCnt testStartTime)) ::
          (run (B := .plain) Zephyr.documented (body ⟨1, 1, by decide⟩) .iTask 13).log) := by
    decide +kernel
  exact (h 27 _ _ _ _ _ _ _ hrun (by simp) (saDummyThreads 0) (.call .kYield) (by simp)).2 0 rfl

end ZephyrBench.TaskSwitching.TaskChange

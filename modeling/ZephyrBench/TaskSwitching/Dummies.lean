/-
ZephyrBench.TaskSwitching.Dummies — the dummy tasks as a group.

A test creates its dummy tasks one after the other, each of them runs until it
waits, and they stand in the wait queue in the order `dummyOrder`: by priority,
then by creation. What is proved, for any test of the family and any number of
dummy tasks:

  * `createDummies_leads` — the loop of `I_Task` creates them all, and then they
    all wait, behind those that waited before.
  * `requeue_leads` — after a post that woke them all they wait again in the
    same order, one after the other.
  * `abortDummies_leads` — `I_Task` removes them all.

Each of the three says what changes and that nothing else does, so a proof about
one test need not look into the loops again.

## How the proofs go

Each is an induction over the dummy tasks that are still to come, with a
structure for the state in between (`Created`, `Requeued`, `Aborted`). The
structures compare with the state before the loop, since the tests start the
loops in different states. `Waits` is what the creation asks of the statement by
which a dummy task waits: that it pends the task on a given object. Waits for an
event and takes of a semaphore are its two cases.

The priorities enter only through `insertPrio_dummy` and `insertPrio_requeue`: a
task that queues up finds its place among the others, which need not be the end.
-/
import ZephyrBench.TaskSwitching.Common

namespace ZephyrBench.TaskSwitching

open Rtos Rtos.Exec

variable {B : Bmth} {F : Type} {body : F → Code B F} {Good : TestState B F → Prop}
  {s : TestState B F}

/-- The statements that create and run dummy tasks. -/
inductive Scaffold : Statement B F → Prop
  | forUp (i : Nat) (cond : Nat → Bool) (body : Nat → Code B F) : Scaffold (.forUp i cond body)
  | loop (body : Code B F) : Scaffold (.loop body)
  | create (t : Thread) (entry : F) (prio : Nat) : Scaffold (kcall (.kThreadCreate t entry prio))
  | take (o : Object) : Scaffold (kcall (.kSemTake o .forever))
  | waitFor (o : Object) (mask : BitVec 32) :
    Scaffold (kcall (.kEventWaitSafe o mask .forever))
  | wait : Scaffold waitOnMask
  | close : Scaffold (.prim (.mwindowClose .scenarioA))

/-- The statements that create the dummy tasks `D` and let them wait by
`wait`. -/
inductive ScaffoldOf (D : Nat → Thread) (wait : Statement B F) : Statement B F → Prop
  | forUp (i : Nat) (cond : Nat → Bool) (body : Nat → Code B F) :
    ScaffoldOf D wait (.forUp i cond body)
  | loop (body : Code B F) : ScaffoldOf D wait (.loop body)
  | create (i : Nat) (entry : F) (prio : Nat) :
    ScaffoldOf D wait (kcall (.kThreadCreate (D i) entry prio))
  | wait : ScaffoldOf D wait wait
  | close : ScaffoldOf D wait (.prim (.mwindowClose .scenarioA))

/-! ## 1. Their order -/

/-- The order in which `d` dummy tasks stand in a queue. -/
def dummyOrder (prios : Nat → Nat) (d : Nat) : List Nat := sortPrio prios (List.range d)

section Order

variable {prios : Nat → Nat} {d i : Nat} {pr : Thread → Nat} {D : Nat → Thread}

@[simp] theorem mem_dummyOrder : i ∈ dummyOrder prios d ↔ i < d := by
  simp [dummyOrder, mem_sortPrio]

theorem dummyOrder_nodup : (dummyOrder prios d).Nodup := sortPrio_nodup List.nodup_range

theorem dummyOrder_perm : (dummyOrder prios d).Perm (List.range d) := sortPrio_perm _

@[simp] theorem dummyOrder_eq_nil : dummyOrder prios d = [] ↔ d = 0 := by
  rw [← List.length_eq_zero_iff, dummyOrder_perm.length_eq, List.length_range]

/-- Dummy tasks of one priority stand in the order of their creation. -/
theorem dummyOrder_const (p : Nat) : dummyOrder (fun _ => p) d = List.range d :=
  sortPrio_eq_self (List.pairwise_of_forall fun _ _ => Nat.le_refl p)

/-- The next dummy task finds its place. -/
theorem insertPrio_dummy (h : ∀ j < i + 1, pr (D j) = prios j) :
    insertPrio pr (D i) ((dummyOrder prios i).map D) = (dummyOrder prios (i + 1)).map D := by
  rw [insertPrio_map (p := prios), dummyOrder, dummyOrder, List.range_succ,
    sortPrio_append_singleton]
  intro j hj
  rcases List.mem_cons.mp hj with rfl | hj
  · exact h j (Nat.lt_succ_self j)
  · exact h j (Nat.lt_succ_of_lt (mem_dummyOrder.mp hj))

theorem sortedPrio_dummies (h : ∀ j < d, pr (D j) = prios j) :
    SortedPrio pr ((dummyOrder prios d).map D) := by
  refine List.pairwise_map.mpr ((sortPrio_sorted _).imp_of_mem fun {j k} hj hk hjk => ?_)
  rwa [h j (mem_dummyOrder.mp hj), h k (mem_dummyOrder.mp hk)]

/-- A dummy task that waits again stands behind those that have done so. -/
theorem insertPrio_requeue {a b : List Nat} {x : Nat} (h : ∀ j < d, pr (D j) = prios j)
    (hab : a ++ x :: b = dummyOrder prios d) :
    insertPrio pr (D x) (a.map D) = a.map D ++ [D x] := by
  have hsorted := sortedPrio_dummies h
  rw [← hab, List.map_append, List.map_cons] at hsorted
  exact insertPrio_of_le fun u hu => (List.pairwise_append.mp hsorted).2.2 u hu (D x) (by simp)

/-- The dummy tasks become ready between `a` and `b`. -/
theorem enqueueAll_dummies {a b : List Thread} (h : ∀ j < d, pr (D j) = prios j)
    (ha : ∀ u ∈ a, ∀ j < d, pr u ≤ prios j) (hb : ∀ u ∈ b, ∀ j < d, prios j < pr u) :
    enqueueAll pr ((dummyOrder prios d).map D) (a ++ b) =
      a ++ (dummyOrder prios d).map D ++ b := by
  refine enqueueAll_sorted (sortedPrio_dummies h) (fun u hu t ht => ?_) fun t ht u hu => ?_
  · obtain ⟨j, hj, rfl⟩ := List.mem_map.mp ht
    have hj' := mem_dummyOrder.mp hj
    rw [h j hj']
    exact ha u hu j hj'
  · obtain ⟨j, hj, rfl⟩ := List.mem_map.mp ht
    have hj' := mem_dummyOrder.mp hj
    rw [h j hj']
    exact hb u hu j hj'

end Order

/-! ## 2. They are created and wait -/

/-- In `s`, `wait` pends a task on `o`, behind `front`; a wait for an event
registers `mask`. -/
inductive Waits (s : TestState B F) (front : List Thread) :
    Object → Option (BitVec 32) → Statement B F → Prop
  | sem (limit : Nat) (hsem : s.ObjectAt .testSem (.sem 0 limit) front) :
    Waits s front .testSem none (kcall (.kSemTake .testSem .forever))
  | event (mask bits : BitVec 32) (hevent : s.ObjectAt .testEvent (.event bits) front)
    (hbits : mask &&& bits = 0) :
    Waits s front .testEvent (some mask) (kcall (.kEventWaitSafe .testEvent mask .forever))
  | eventOf (mask bits : BitVec 32) (hevent : s.ObjectAt .testEvent (.event bits) front)
    (hbits : mask &&& bits = 0) (hmask : s.mem.vars.dummyTaskEventMask = mask) :
    Waits s front .testEvent (some mask) waitOnMask

theorem ScaffoldOf.scaffold {front : List Thread} {o : Object} {mask : Option (BitVec 32)}
    {D : Nat → Thread} {wait st : Statement B F} (hwait : Waits s front o mask wait)
    (h : ScaffoldOf D wait st) : Scaffold st := by
  cases h with
  | forUp i cond body => exact .forUp i cond body
  | loop body => exact .loop body
  | create i entry prio => exact .create (D i) entry prio
  | close => exact .close
  | wait =>
    cases hwait
    · exact .take _
    · exact .waitFor _ _
    · exact .wait

/-- The loop bodies of the dummy tasks that wait by `wait`. -/
inductive DummyLoop (wait : Statement B F) : Code B F → Prop
  | plain : DummyLoop wait [wait]
  | close : DummyLoop wait [.prim (.mwindowClose .scenarioA), wait]

/-- The bodies of the dummy tasks that first wait by `wait`, with what is left
of them then. -/
inductive DummyBody (wait : Statement B F) : Code B F → Code B F → Prop
  | loop {l : Code B F} (h : DummyLoop wait l) : DummyBody wait [.loop l] [.loop l]
  | once (rest : Code B F) : DummyBody wait (wait :: rest) rest

/-- `t` is `s` after the first `i` dummy tasks are created and wait on `o`,
behind `front`; `I_Task` is left with `code`. -/
structure Created (D : Nat → Thread) (prios : Nat → Nat) (o : Object) (mask : Option (BitVec 32))
    (left : Code B F) (front : List Thread) (i : Nat) (code : Code B F)
    (s t : TestState B F) : Prop where
  runs : t.Runs .idleThread [.idleThread]
  irq : t.kern.irq = s.kern.irq
  obj : t.kern.obj = s.kern.obj
  vars : t.mem.vars = s.mem.vars
  countA : t.mem.count .scenarioA = s.mem.count .scenarioA
  countB : t.mem.count .scenarioB = s.mem.count .scenarioB
  closed : s.mem.isOpen .scenarioA = false → t.mem.isOpen .scenarioA = false
  waiting : t.kern.waitq o = front ++ (dummyOrder prios i).map D
  waitq : ∀ o', o' ≠ o → t.kern.waitq o' = s.kern.waitq o'
  dummies : ∀ j < i, t.ThreadAt (D j) (prios j) false (.on o) left
  dummyEvents : ∀ j < i, t.kern.events (D j) = mask.getD (s.kern.events (D j))
  prio : ∀ u, (∀ j, u ≠ D j) → t.kern.prio u = s.kern.prio u
  suspended : ∀ u, (∀ j, u ≠ D j) → t.kern.suspended u = s.kern.suspended u
  pend : ∀ u, (∀ j, u ≠ D j) → t.kern.pend u = s.kern.pend u
  fresh : ∀ j, i ≤ j → t.kern.events (D j) = s.kern.events (D j)
  events : ∀ u, (∀ j, u ≠ D j) → t.kern.events u = s.kern.events u
  idle : t.code .idleThread = code
  code : ∀ u, u ≠ .idleThread → (∀ j, u ≠ D j) → t.code u = s.code u
  stops : ∀ u x, .exec u (.prim (.getStopCnt x)) ∈ t.log →
    .exec u (.prim (.getStopCnt x)) ∈ s.log

section Create

variable {D : Nat → Thread} {dummyTask : F} {prios : Nat → Nat} {d i : Nat} {o : Object}
  {mask : Option (BitVec 32)} {wait : Statement B F} {left rest : Code B F} {front : List Thread}
  (hwait : Waits s front o mask wait) (hbody : DummyBody wait (body dummyTask) left)
  (hD : Function.Injective D) (hidle : ∀ j, .idleThread ≠ D j) (hfrontD : ∀ j, D j ∉ front)
  (hGood : ∀ s : TestState B F, s.AtStmt (fun _ st => ScaffoldOf D wait st) → Good s)

include hD hfrontD in
/-- The next dummy task queues up behind `front` and those that wait already. -/
theorem insertPrio_created {code : Code B F} {t : TestState B F}
    (ht : Created D prios o mask left front i code s t)
    (hfront : ∀ u ∈ front, s.kern.prio u ≤ prios i) :
    insertPrio (Function.update t.kern.prio (D i) (prios i)) (D i)
        (front ++ (dummyOrder prios i).map D) = front ++ (dummyOrder prios (i + 1)).map D := by
  have hprio := ht.prio
  have hdummies := ht.dummies
  rw [insertPrio_append_of_le, insertPrio_dummy]
  · simp +contextual [*, hD.eq_iff, ↓Nat.forall_lt_succ_right, Nat.ne_of_lt]
  · intro u hu
    have hne : ∀ j, u ≠ D j := fun j hj => hfrontD j (hj ▸ hu)
    simp [*]

include hwait hbody hD hidle hfrontD hGood

/-- One dummy task is created, runs until it waits, and `I_Task` goes on. -/
theorem createDummy_leads (hirq : s.NoIrq) (hlow : prios i < s.kern.prio .idleThread)
    (hfront : ∀ u ∈ front, s.kern.prio u ≤ prios i) (hi : i < d) {t : TestState B F}
    (ht : Created D prios o mask left front i (createDummies D dummyTask prios d i :: rest) s t) :
    Leads (program body).next Good t
      (Created D prios o mask left front (i + 1)
        (createDummies D dummyTask prios d (i + 1) :: rest) s) := by
  have hidle' : ∀ j, D j ≠ .idleThread := fun j => (hidle j).symm
  have hlow' : ¬ s.kern.prio .idleThread ≤ prios i := Nat.not_le.mpr hlow
  have hwaitGood : ∀ u : TestState B F, u.AtStmt (fun _ st => st = wait) → Good u := by
    refine fun u hu => hGood u (hu.mono ?_)
    rintro _ _ rfl
    exact .wait
  have hins := insertPrio_created hD hfrontD ht hfront
  have hgt : ∀ j, i + 1 ≤ j → i ≤ j ∧ j ≠ i := fun j hj => by omega
  obtain ⟨⟨_, _⟩, _, _, _, _, _, _, _, _, _, _, _, _, _, _, _, hcode, _, _⟩ := ht
  rw [createDummies] at hcode
  refine .step (hGood t (by simp [*, ScaffoldOf.forUp])) ?_
  simp [*]
  refine .step (hGood _ (by simp [*, ScaffoldOf.create])) ?_
  simp [*]
  generalize hc : body dummyTask = c at hbody
  cases hbody
  case' loop hloop _ =>
    refine .step (hGood _ (by simp [*, ScaffoldOf.loop])) ?_
    simp [*]
    cases hloop
    case' close =>
      refine .step (hGood _ (by simp [*, ScaffoldOf.close])) ?_
      simp [*]
  all_goals
    refine .step (hwaitGood _ (by simp [*])) ?_
    cases hwait <;> simp [*, waitOnMask] <;> refine .done ?_ <;> constructor <;>
      simp +contextual [*, hD.eq_iff, ↓Nat.forall_lt_succ_right, Nat.ne_of_lt, waitOnMask,
        createDummies]

theorem createDummies_leads (hruns : s.Runs .idleThread [.idleThread]) (hirq : s.NoIrq)
    (hcode : s.code .idleThread = createDummies D dummyTask prios d 0 :: rest)
    (hprio : ∀ i < d, prios i < s.kern.prio .idleThread)
    (hfront : ∀ u ∈ front, ∀ i < d, s.kern.prio u ≤ prios i) :
    Leads (program body).next Good s (Created D prios o mask left front d rest s) := by
  have hall : Leads (program body).next Good s
      (Created D prios o mask left front d (createDummies D dummyTask prios d d :: rest) s) := by
    refine Leads.loop (S := fun i => Created D prios o mask left front i
      (createDummies D dummyTask prios d i :: rest) s) ?_ ?_
    · intro i hi t ht
      exact createDummy_leads hwait hbody hD hidle hfrontD hGood hirq (hprio i hi)
        (fun u hu => hfront u hu i hi) hi ht
    · cases hwait <;> constructor <;> simp +contextual [*, dummyOrder, sortPrio]
  have hidle' : ∀ j, D j ≠ .idleThread := fun j => (hidle j).symm
  refine hall.bind ?_
  intro t ht
  cases ht
  refine .step (hGood t (by simp [*, createDummies, ScaffoldOf.forUp])) (.done ?_)
  constructor <;> simp +contextual [*, createDummies]

end Create

/-! ## 3. They wait again -/

/-- `t` is `s` after the dummy tasks `a`, all ready in `s`, wait on
`test_event` again, with `b` still to run. -/
structure Requeued (D : Nat → Thread) (mask : BitVec 32) (front back : List Thread)
    (a b : List Nat) (s t : TestState B F) : Prop where
  current : t.kern.current = (b.map D ++ back).head?
  readyq : t.kern.readyq = b.map D ++ back
  irq : t.kern.irq = s.kern.irq
  prio : t.kern.prio = s.kern.prio
  suspended : t.kern.suspended = s.kern.suspended
  obj : t.kern.obj = s.kern.obj
  vars : t.mem.vars = s.mem.vars
  countA : t.mem.count .scenarioA = s.mem.count .scenarioA
  countB : t.mem.count .scenarioB = s.mem.count .scenarioB
  waiting : t.kern.waitq .testEvent = front ++ a.map D
  waitq : ∀ o, o ≠ .testEvent → t.kern.waitq o = s.kern.waitq o
  pendDummy : ∀ i ∈ a, t.kern.pend (D i) = .on .testEvent
  eventsDummy : ∀ i ∈ a, t.kern.events (D i) = mask
  pend : ∀ u, (∀ i, u ≠ D i) → t.kern.pend u = s.kern.pend u
  events : ∀ u, (∀ i, u ≠ D i) → t.kern.events u = s.kern.events u
  code : ∀ u, t.code u = s.code u

section Requeue

variable {D : Nat → Thread} {prios : Nat → Nat} {d : Nat} {mask bits : BitVec 32}
  {dummyLoop : Code B F} {front back : List Thread}

/-- The first of the ready dummy tasks runs until it waits. -/
theorem requeueDummy_leads {a b : List Nat} {x : Nat} {t : TestState B F}
    (hloop : DummyLoop waitOnMask dummyLoop) (hD : Function.Injective D)
    (hGood : ∀ s : TestState B F, s.AtStmt (fun _ st => ScaffoldOf D waitOnMask st) → Good s)
    (hirq : s.NoIrq) (hobj : s.kern.obj .testEvent = .event bits) (hbits : mask &&& bits = 0)
    (hprio : ∀ i < d, s.kern.prio (D i) = prios i)
    (hfront : ∀ u ∈ front, ∀ i < d, s.kern.prio u ≤ prios i)
    (hcode : ∀ i < d, s.code (D i) = [.loop dummyLoop])
    (hmask : s.mem.vars.dummyTaskEventMask = mask) (hab : a ++ x :: b = dummyOrder prios d)
    (ht : Requeued D mask front back a (x :: b) s t) :
    Leads (program body).next Good t (Requeued D mask front back (a ++ [x]) b s) := by
  have hx : x < d := by
    have hmem : x ∈ dummyOrder prios d := by simp [← hab]
    exact mem_dummyOrder.mp hmem
  have hne : ∀ i ∈ a, i ≠ x := by
    rintro i hi rfl
    have hnodup : (dummyOrder prios d).Nodup := dummyOrder_nodup
    rw [← hab] at hnodup
    exact (List.nodup_append.mp hnodup).2.2 i hi i (by simp) rfl
  have hmask0 : mask &&& bits = 0#32 := hbits
  cases ht
  have hins : insertPrio s.kern.prio (D x) (front ++ a.map D) = front ++ (a.map D ++ [D x]) := by
    rw [insertPrio_append_of_le, insertPrio_requeue hprio hab]
    simpa [*] using fun u hu => hfront u hu x hx
  refine .step (hGood t (by simp [*, ScaffoldOf.loop])) ?_
  simp [*]
  cases hloop with
  | plain =>
    refine .step (hGood _ (by simp [*, ScaffoldOf.wait])) ?_
    simp [*, waitOnMask]
    refine .done ?_
    constructor <;> simp +contextual [*, hD.eq_iff, waitOnMask]
    all_goals
      rintro i (hi | rfl) hi'
      · simp [*]
      · exact absurd rfl hi'
  | close =>
    refine .step (hGood _ (by simp [*, ScaffoldOf.close])) ?_
    simp [*]
    refine .step (hGood _ (by simp [*, ScaffoldOf.wait])) ?_
    simp [*, waitOnMask]
    refine .done ?_
    constructor <;> simp +contextual [*, hD.eq_iff, waitOnMask]
    all_goals
      rintro i (hi | rfl) hi'
      · simp [*]
      · exact absurd rfl hi'

theorem requeue_leads (hloop : DummyLoop waitOnMask dummyLoop) (hD : Function.Injective D)
    (hGood : ∀ s : TestState B F, s.AtStmt (fun _ st => ScaffoldOf D waitOnMask st) → Good s)
    (hcurrent : s.kern.current = ((dummyOrder prios d).map D ++ back).head?)
    (hreadyq : s.kern.readyq = (dummyOrder prios d).map D ++ back) (hirq : s.NoIrq)
    (hevent : s.ObjectAt .testEvent (.event bits) front) (hbits : d = 0 ∨ mask &&& bits = 0)
    (hprio : ∀ i < d, s.kern.prio (D i) = prios i)
    (hfront : ∀ u ∈ front, ∀ i < d, s.kern.prio u ≤ prios i)
    (hcode : ∀ i < d, s.code (D i) = [.loop dummyLoop])
    (hmask : s.mem.vars.dummyTaskEventMask = mask) :
    Leads (program body).next Good s (Requeued D mask front back (dummyOrder prios d) [] s) := by
  refine Leads.forEach (S := fun a b => Requeued D mask front back a b s) ?_ ?_
  · intro a x b hab t ht
    have hd : d ≠ 0 := by
      rintro rfl
      simp [dummyOrder, sortPrio] at hab
    exact requeueDummy_leads hloop hD hGood hirq hevent.1 (hbits.resolve_left hd) hprio hfront
      hcode hmask hab ht
  · constructor <;> simp [*]

end Requeue

/-! ## 4. They are removed -/

/-- The statements that remove dummy tasks. -/
inductive Removal : Statement B F → Prop
  | forUp (i : Nat) (cond : Nat → Bool) (body : Nat → Code B F) : Removal (.forUp i cond body)
  | abort (t : Thread) : Removal (kcall (.kThreadAbort t))

/-- `t` is `s` after the first `i` of `d` dummy tasks that wait on `o` are gone
and `I_Task` is left with `code`. -/
structure Aborted (d i : Nat) (o : Object) (code : Code B F) (s t : TestState B F) : Prop where
  runs : t.Runs .idleThread [.idleThread]
  irq : t.kern.irq = s.kern.irq
  prio : t.kern.prio = s.kern.prio
  suspended : t.kern.suspended = s.kern.suspended
  events : t.kern.events = s.kern.events
  obj : t.kern.obj = s.kern.obj
  mem : t.mem = s.mem
  waiting : (t.kern.waitq o).Perm ((List.range' i (d - i)).map .saDummyThreads)
  waitq : ∀ o', o' ≠ o → t.kern.waitq o' = s.kern.waitq o'
  pendDummy : ∀ j, i ≤ j → t.kern.pend (.saDummyThreads j) = s.kern.pend (.saDummyThreads j)
  pend : ∀ u, (∀ j, u ≠ .saDummyThreads j) → t.kern.pend u = s.kern.pend u
  idle : t.code .idleThread = code
  code : ∀ u, u ≠ .idleThread → t.code u = s.code u

theorem Aborted.waitq_eq_nil {d : Nat} {o : Object} {code : Code B F} {s t : TestState B F}
    (h : Aborted d d o code s t) : t.kern.waitq o = [] := by
  simpa using h.waiting

/-- The loop removes all of them, and nothing else changes. -/
theorem abortDummies_leads {d : Nat} {o : Object} {rest : Code B F}
    (hGood : ∀ s : TestState B F, s.AtStmt (fun _ st => Removal st) → Good s)
    (hruns : s.Runs .idleThread [.idleThread]) (hirq : s.NoIrq)
    (hcode : s.code .idleThread = abortDummies d 0 :: rest)
    (hwait : (s.kern.waitq o).Perm ((List.range d).map .saDummyThreads))
    (hpend : ∀ i < d, s.kern.pend (.saDummyThreads i) = .on o) :
    Leads (program body).next Good s fun t => Aborted d d o rest s t := by
  have hloop : Leads (program body).next Good s
      (Aborted d d o (abortDummies d d :: rest) s) := by
    refine Leads.loop (S := fun i => Aborted d i o (abortDummies d i :: rest) s) ?_ ?_
    · intro i hi t ht
      obtain ⟨⟨_, _⟩, _, _, _, _, _, _, hwaiting, _, hdummy, _, hidle, _⟩ := ht
      have hi' := hpend i hi
      rw [← hdummy i (Nat.le_refl i)] at hi'
      have herase : ((t.kern.waitq o).erase (.saDummyThreads i)).Perm
          ((List.range' (i + 1) (d - (i + 1))).map .saDummyThreads) := by
        have hd : d - i = d - (i + 1) + 1 := by omega
        rw [hd, List.range'_succ, List.map_cons] at hwaiting
        simpa using hwaiting.erase (.saDummyThreads i)
      rw [abortDummies] at hidle
      refine .step (hGood t (by simp [*, Removal.forUp])) ?_
      simp [*]
      refine .step (hGood _ (by simp [*, Removal.abort])) ?_
      simp [*]
      refine .done ?_
      constructor <;> simp +contextual [*, abortDummies]
      intro j hj
      have hne : j ≠ i := by omega
      have hle : i ≤ j := by omega
      simp [*]
    · constructor <;> simp [*]
      rwa [← List.range_eq_range']
  refine hloop.bind ?_
  intro t ht
  have hnil := ht.waitq_eq_nil
  cases ht
  refine .step (hGood t (by simp [*, abortDummies, Removal.forUp])) (.done ?_)
  constructor <;> simp +contextual [*, abortDummies]

end ZephyrBench.TaskSwitching

/-
ZephyrBench.Rtos.Exec — symbolic execution.

The equations that compute a step of the machine, for `simp`, when the facts
about the state (who runs, what is left of its body, the queues) are among the
hypotheses. They are in effect where this namespace is open. A proof about a
piece of a run then repeats `refine .step (by simp [*]) ?_; simp [*]`: the
first part is the property of the state the run leaves, the second the step.

The facts about a state are stated with the abbreviations of this module,
`State.ThreadAt`, `State.Runs`, `State.ObjectAt` and `State.NoIrq`, one for each
thread and each object that a program has. They unfold to equations with a field
of the state on the left, which is what `simp` needs to rewrite with them.

Two kinds of lists do not compute, because their length is a parameter of the
program: the ready queue and the wait queue of an object on which dummy tasks
stand. The lemmas of the first section say what a wake-up does to them:

  * `awake_eq_self`, `matching_eq_self`, `notMatching_eq_nil` — all waiters are
    woken.
  * `matching_eq_nil`, `notMatching_eq_self` — none is.
  * `or_consumedBits`, `consumedBits_eq` — waiters with one mask consume the
    bits that it meets, however many they are.
-/
import ZephyrBench.Bench
import ZephyrBench.Run

namespace ZephyrBench.Rtos

variable {K T O A F P G : Type}

/-- The thread `t`: its priority, whether it is suspended, where it is pended,
and what is left of its body. -/
abbrev State.ThreadAt (s : DocState T O A F P G) (t : T) (prio : Nat) (suspended : Bool)
    (pend : Pend O) (code : List (Stmt T O A F P G)) : Prop :=
  s.kern.prio t = prio ∧ s.kern.suspended t = suspended ∧ s.kern.pend t = pend ∧ s.code t = code

/-- No interrupt is pending and no handler runs. -/
abbrev State.NoIrq (s : DocState T O A F P G) : Prop :=
  s.kern.irq.pending = false ∧ s.kern.irq.inIsr = false

/-- `t` runs and the ready queue is `q`. -/
abbrev State.Runs (s : DocState T O A F P G) (t : T) (q : List T) : Prop :=
  s.kern.current = some t ∧ s.kern.readyq = q

/-- The object `o` and its wait queue. -/
abbrev State.ObjectAt (s : DocState T O A F P G) (o : O) (x : Obj T A) (waitq : List T) : Prop :=
  s.kern.obj o = x ∧ s.kern.waitq o = waitq

/-! ## The lists of a wake-up -/

section Lists

variable {suspended : T → Bool} {events : T → BitVec 32} {bits m : BitVec 32}

theorem awake_nil : awake suspended [] = [] := rfl

theorem awake_cons (t : T) (ws : List T) :
    awake suspended (t :: ws) =
      if suspended t then awake suspended ws else t :: awake suspended ws := by
  cases h : suspended t <;> simp [awake, h]

theorem awake_eq_self {ws : List T} (h : ∀ t ∈ ws, suspended t = false) :
    awake suspended ws = ws :=
  List.filter_eq_self.mpr fun t ht => by simp [h t ht]

namespace Kernel

theorem matching_nil : matching events bits [] = [] := rfl

theorem matching_cons (t : T) (q : List T) :
    matching events bits (t :: q) =
      if events t &&& bits = 0 then matching events bits q else t :: matching events bits q := by
  by_cases h : events t &&& bits = 0#32 <;> simp [matching, h]

theorem notMatching_nil : notMatching events bits [] = [] := rfl

theorem notMatching_cons (t : T) (q : List T) :
    notMatching events bits (t :: q) =
      if events t &&& bits = 0 then t :: notMatching events bits q
      else notMatching events bits q := by
  by_cases h : events t &&& bits = 0#32 <;> simp [notMatching, h]

theorem matching_append (q r : List T) :
    matching events bits (q ++ r) = matching events bits q ++ matching events bits r :=
  List.filter_append ..

theorem notMatching_append (q r : List T) :
    notMatching events bits (q ++ r) = notMatching events bits q ++ notMatching events bits r :=
  List.filter_append ..

/-- Every waiter matches. -/
theorem matching_eq_self {q : List T} (h : ∀ t ∈ q, events t &&& bits ≠ 0) :
    matching events bits q = q :=
  List.filter_eq_self.mpr fun t ht => by simpa using h t ht

theorem notMatching_eq_nil {q : List T} (h : ∀ t ∈ q, events t &&& bits ≠ 0) :
    notMatching events bits q = [] :=
  List.filter_eq_nil_iff.mpr fun t ht => by simpa using h t ht

/-- No waiter matches. -/
theorem matching_eq_nil {q : List T} (h : ∀ t ∈ q, events t &&& bits = 0) :
    matching events bits q = [] :=
  List.filter_eq_nil_iff.mpr fun t ht => by simpa using h t ht

theorem notMatching_eq_self {q : List T} (h : ∀ t ∈ q, events t &&& bits = 0) :
    notMatching events bits q = q :=
  List.filter_eq_self.mpr fun t ht => by simpa using h t ht

/-- Further waiters with the same mask consume nothing more. -/
theorem or_consumedBits {ws : List T} (h : ∀ t ∈ ws, events t &&& bits = m) :
    m ||| consumedBits events bits ws = m := by
  induction ws with
  | nil => simp [consumedBits]
  | cons t ws ih =>
    rw [consumedBits, h t (by simp), ← BitVec.or_assoc, BitVec.or_self]
    exact ih fun u hu => h u (by simp [hu])

/-- Waiters with one and the same mask consume what it meets. -/
theorem consumedBits_eq {ws : List T} (h : ∀ t ∈ ws, events t &&& bits = m) (hne : ws ≠ []) :
    consumedBits events bits ws = m := by
  cases ws with
  | nil => exact absurd rfl hne
  | cons t ws =>
    rw [consumedBits, h t (by simp)]
    exact or_consumedBits fun u hu => h u (by simp [hu])

/-- Nothing is consumed: `~~~0` in evaluated form. -/
theorem and_ones (x : BitVec 32) : x &&& 4294967295#32 = x := BitVec.and_allOnes

end Kernel

end Lists

namespace Exec

attribute [scoped simp] State.ThreadAt State.NoIrq State.Runs State.ObjectAt
  Prog.next Prog.step Prog.exec Prog.install logSwitch State.AtStmt
  Kernel.call Kernel.callBy Kernel.reschedule Kernel.enqueue Kernel.dequeue Kernel.setObj
  Kernel.pendOn Kernel.wake Kernel.threadCreate Kernel.threadAbort Kernel.threadSuspend
  Kernel.threadResume Kernel.yield Kernel.semInit Kernel.semGive Kernel.semTake Kernel.semReset
  Kernel.eventInit Kernel.eventPost Kernel.eventClear Kernel.eventWaitSafe
  awake_nil awake_cons Kernel.matching_nil Kernel.matching_cons Kernel.notMatching_nil
  Kernel.notMatching_cons Kernel.consumedBits Kernel.and_ones
  Prim.run Mem.count Mem.isOpen insertPrio Function.update_apply

end Exec

end ZephyrBench.Rtos

/-
ZephyrBench.TaskSwitching.Signals — how `I_Task` is told that a pass is over.

The task that ends a pass posts `SIGNALIZE_YIELD_EVENT_MASK` to `test_event`,
and `I_Task` waits for that bit before every further pass. An event holds one bit
and no count: two posts without a wait between them are one. `Signals` says of
the call that a test is about to make what it finds: a post finds the bit clear
and a wait of `I_Task` finds it set.

What is proved:

  * `callBy_pending` — what a call of a test does to the bit while nobody waits
    for it, and that then nobody comes to wait for it.
  * `Tracked.next` — posts and waits in the history balance along a run whose
    calls find what they should.
  * `Tracked.merge` — they balance with a difference of one more after a post
    that found the bit set.
  * `acknowledged_of_leads` — for a whole run in which one post finds the bit
    set: every other post is answered by its own wait, and how the two scenarios
    share them (`Acknowledged`).
  * `leads_of_sound` — the two executions that `acknowledged_of_leads` asks for
    also show that the test is good throughout.

## Why a run has two parts

`Signals` holds up to the first signal of S_B and from there on, but not in the
state between: there the signal of the last pass of S_A is still set. So a test
is executed in two parts, and `Merging` is what the second one starts from.
-/
import ZephyrBench.TaskSwitching.Common

namespace ZephyrBench.TaskSwitching

open Rtos Rtos.Exec Thread Object

variable {B : Bmth} {F : Type}

/-! ## 1. What the calls find -/

/-- The bit is set in `test_event`. -/
def yieldPending (k : Kernel Thread Object Empty) : Bool :=
  match k.obj testEvent with
  | .event bits => bits &&& signalizeYieldEventMask != 0
  | _ => false

theorem yieldPending_of_event {k : Kernel Thread Object Empty} {bits : BitVec 32}
    (h : k.obj testEvent = .event bits) :
    yieldPending k = (bits &&& signalizeYieldEventMask != 0) := by
  unfold yieldPending
  rw [h]

theorem yieldPending_setObj (k : Kernel Thread Object Empty) (bits : BitVec 32) :
    yieldPending (k.setObj testEvent (.event bits)) =
      (bits &&& signalizeYieldEventMask != 0) :=
  yieldPending_of_event (by simp)

/-- The thread `t` is about to make the call `c`. -/
def CallsNext (s : TestState B F) (t : Thread) (c : Call Thread Object Empty F) : Prop :=
  s.kern.current = some t ∧ ∃ c' rest, s.code t = .call c' :: rest ∧ c' s.mem = c

/-- The calls that a test makes while `poster` ends the passes, and what those
on `test_event` find. -/
def SignalCall (poster : Thread) (s : TestState B F) (t : Thread) :
    Call Thread Object Empty F → Prop
  | .kEventInit o => o = testEvent ∧ s.kern.obj testEvent = .unset
  | .kEventPost o mask => o = testEvent ∧
      (mask = signalizeYieldEventMask ∧ t = poster ∧
          (∃ bits, s.kern.obj testEvent = .event bits ∧ bits &&& signalizeYieldEventMask = 0) ∨
        mask &&& signalizeYieldEventMask = 0)
  | .kEventClear o mask => o = testEvent ∧ mask &&& signalizeYieldEventMask = 0
  | .kEventWaitSafe o mask _ => o = testEvent ∧
      (mask &&& signalizeYieldEventMask = 0 ∨ mask = s.mem.vars.dummyTaskEventMask ∨
        mask = signalizeYieldEventMask ∧ t = idleThread ∧
          ∃ bits, s.kern.obj testEvent = .event bits ∧ bits &&& signalizeYieldEventMask ≠ 0)
  | .kSemInit o _ _ | .kSemGive o | .kSemTake o _ | .kSemReset o => o = testSem
  | .kThreadCreate u _ _ =>
    u = sbHighPrioThread → s.kern.obj testEvent = .event signalizeYieldEventMask
  | .kThreadAbort _ | .kThreadSuspendCurrent | .kThreadResume _ => True
  | _ => False

/-- What is about to be executed is one of the calls above. -/
def Signals (poster : Thread) (s : TestState B F) : Prop :=
  s.AtStmt fun t (st : Statement B F) =>
    match st with
    | .call c => SignalCall poster s t (c s.mem)
    | .prim (.assign (.dummyTaskEventMask mask)) => mask &&& signalizeYieldEventMask = 0
    | _ => True

/-- What a symbolic execution of a test shows of every state: `Good`, which is
about the samples of the test, and `Signals`. -/
def Sound (Good : TestState B F → Prop) (poster : Thread) (s : TestState B F) : Prop :=
  Good s ∧ Signals poster s

theorem Signals.call {poster t : Thread} {s : TestState B F} {c : Call Thread Object Empty F}
    (h : Signals poster s) (hc : CallsNext s t c) : SignalCall poster s t c := by
  obtain ⟨hcur, c', rest, hcode, rfl⟩ := hc
  simpa [Signals, hcur, hcode] using h

/-! ## 2. The kernel -/

section Kernel

variable {poster t : Thread} {s : TestState B F} {k : Kernel Thread Object Empty}
  {c : Call Thread Object Empty F}

/-- Nobody waits for the bit. -/
def Unawaited (k : Kernel Thread Object Empty) : Prop :=
  ∀ u ∈ k.waitq testEvent, k.events u &&& signalizeYieldEventMask = 0

theorem and_not_and {x z y : BitVec 32} (h : z &&& y = 0) : x &&& ~~~z &&& y = x &&& y := by
  ext i hi
  have hbit : (z[i] && y[i]) = false := by
    rw [← BitVec.getElem_and, h]
    simp
  cases hz : z[i] <;> simp_all

theorem or_and_right {x z y : BitVec 32} (hz : z &&& y = 0) : (x ||| z) &&& y = x &&& y := by
  ext i hi
  have hzi : (z[i] && y[i]) = false := by
    rw [← BitVec.getElem_and, hz]
    simp
  cases hy : y[i] <;> simp_all

theorem or_and {x z y : BitVec 32} (hx : x &&& y = 0) (hz : z &&& y = 0) :
    (x ||| z) &&& y = 0 :=
  (or_and_right hz).trans hx

theorem ne_signalizeYieldEventMask {mask : BitVec 32}
    (h : mask &&& signalizeYieldEventMask = 0) : mask ≠ signalizeYieldEventMask := by
  rintro rfl
  exact absurd h (by decide)

/-- Waiters that do not wait for the bit do not consume it. -/
theorem consumedBits_and {events : Thread → BitVec 32} {bits : BitVec 32} {ws : List Thread}
    (h : ∀ u ∈ ws, events u &&& signalizeYieldEventMask = 0) :
    Kernel.consumedBits events bits ws &&& signalizeYieldEventMask = 0 := by
  induction ws with
  | nil => simp [Kernel.consumedBits]
  | cons u ws ih =>
    have hu := h u List.mem_cons_self
    have hws := ih fun v hv => h v (List.mem_cons_of_mem _ hv)
    refine or_and ?_ hws
    rw [BitVec.and_assoc, BitVec.and_comm bits, ← BitVec.and_assoc, hu]
    simp

/-- A post of other bits leaves the bit as it is; a post of the bit sets it. -/
theorem eventPost_pending {mask bits : BitVec 32} (hu : Unawaited k)
    (hobj : k.obj testEvent = .event bits) :
    yieldPending (k.eventPost testEvent mask) =
      ((bits ||| mask) &&& signalizeYieldEventMask != 0) := by
  have hconsumed : Kernel.consumedBits k.events (bits ||| mask)
      (Kernel.matching k.events (bits ||| mask) (k.waitq testEvent)) &&&
        signalizeYieldEventMask = 0 :=
    consumedBits_and fun u hu' => hu u (List.mem_of_mem_filter hu')
  have hobj' : (k.eventPost testEvent mask).obj testEvent = .event ((bits ||| mask) &&&
      ~~~Kernel.consumedBits k.events (bits ||| mask)
        (Kernel.matching k.events (bits ||| mask) (k.waitq testEvent))) := by
    simp [Kernel.eventPost, hobj, Kernel.reschedule, Kernel.wake, Kernel.setObj]
  rw [yieldPending_of_event hobj', and_not_and hconsumed]

theorem eventPost_other {mask : BitVec 32} (hu : Unawaited k)
    (hmask : mask &&& signalizeYieldEventMask = 0) :
    yieldPending (k.eventPost testEvent mask) = yieldPending k := by
  cases hobj : k.obj testEvent with
  | event bits =>
    rw [eventPost_pending hu hobj, or_and_right hmask, yieldPending_of_event hobj]
  | _ => simp [Kernel.eventPost, hobj]

theorem eventPost_yield {bits : BitVec 32} (hu : Unawaited k)
    (hobj : k.obj testEvent = .event bits) (hclear : bits &&& signalizeYieldEventMask = 0) :
    yieldPending (k.eventPost testEvent signalizeYieldEventMask) = true := by
  rw [eventPost_pending hu hobj, BitVec.or_comm, or_and_right hclear]
  decide

theorem eventPost_unawaited {mask : BitVec 32} (hu : Unawaited k) :
    Unawaited (k.eventPost testEvent mask) := by
  unfold Kernel.eventPost
  split
  · intro u hmem
    simp only [Kernel.reschedule, Kernel.wake, Kernel.setObj, Function.update_self] at hmem
    exact hu u (List.mem_of_mem_filter hmem)
  · exact hu

/-- Is the bit set after a call? -/
def pendingAfter (pending : Bool) : Call Thread Object Empty F → Bool
  | .kEventPost _ mask => if mask = signalizeYieldEventMask then true else pending
  | .kEventWaitSafe _ mask _ => if mask = signalizeYieldEventMask then false else pending
  | _ => pending

/-- The calls of a test that are not about `test_event` leave it alone. -/
theorem callBy_frame (me : Thread) (hc : match c with
    | .kSemInit o _ _ | .kSemGive o | .kSemTake o _ | .kSemReset o => o = testSem
    | .kThreadCreate _ _ _ | .kThreadSuspendCurrent | .kThreadResume _ => True
    | _ => False) :
    (k.callBy me c).obj testEvent = k.obj testEvent ∧
      (k.callBy me c).waitq testEvent = k.waitq testEvent ∧
      (k.callBy me c).events = k.events := by
  cases c with
  | kThreadCreate u entry prio => exact ⟨rfl, rfl, rfl⟩
  | kThreadSuspendCurrent =>
    simp only [Kernel.callBy, Kernel.threadSuspend]
    split <;> exact ⟨rfl, rfl, rfl⟩
  | kThreadResume u =>
    simp only [Kernel.callBy, Kernel.threadResume]
    split <;> exact ⟨rfl, rfl, rfl⟩
  | kSemInit o count limit =>
    subst hc
    simp [Kernel.callBy, Kernel.semInit, Kernel.setObj]
  | kSemGive o =>
    subst hc
    simp only [Kernel.callBy, Kernel.semGive]
    repeat' split
    all_goals simp [Kernel.reschedule, Kernel.wake, Kernel.setObj]
  | kSemTake o timeout =>
    subst hc
    simp only [Kernel.callBy, Kernel.semTake]
    repeat' split
    all_goals simp [Kernel.reschedule, Kernel.pendOn, Kernel.setObj]
  | kSemReset o =>
    subst hc
    simp only [Kernel.callBy, Kernel.semReset]
    split
    all_goals simp [Kernel.reschedule, Kernel.wake, Kernel.setObj]
  | _ => exact hc.elim

theorem threadAbort_pending (u : Thread) : yieldPending (k.threadAbort u) = yieldPending k := by
  simp only [Kernel.threadAbort, Kernel.reschedule, yieldPending]
  cases hpend : k.pend u with
  | onSend o =>
    by_cases ho : o = testEvent
    · subst ho
      simp only [Function.update_self]
      cases hobj : k.obj testEvent <;> simp [Kernel.dropSender]
    · simp only [Function.update_of_ne (Ne.symm ho)]
  | _ => rfl

theorem threadAbort_unawaited (u : Thread) (hu : Unawaited k) : Unawaited (k.threadAbort u) := by
  intro v hv
  simp only [Kernel.threadAbort, Kernel.reschedule] at hv ⊢
  cases hpend : k.pend u with
  | on o =>
    simp only [hpend] at hv
    by_cases ho : o = testEvent
    · subst ho
      rw [Function.update_self] at hv
      exact hu v (List.mem_of_mem_erase hv)
    · rw [Function.update_of_ne (Ne.symm ho)] at hv
      exact hu v hv
  | _ =>
    simp only [hpend] at hv
    exact hu v hv

theorem eventWaitSafe_unawaited {mask : BitVec 32} {timeout : Timeout} (me : Thread)
    (hu : Unawaited k)
    (hmask : mask &&& signalizeYieldEventMask = 0 ∨
      ∃ bits, k.obj testEvent = .event bits ∧ mask &&& bits ≠ 0) :
    Unawaited (k.eventWaitSafe me testEvent mask timeout) := by
  unfold Kernel.eventWaitSafe
  split
  case h_2 => exact hu
  case h_1 bits hobj =>
    split
    · exact hu
    · rename_i hzero
      have hfree : mask &&& signalizeYieldEventMask = 0 := by
        rcases hmask with hmask | ⟨bits', hobj', hne⟩
        · exact hmask
        · rw [hobj, Obj.event.injEq] at hobj'
          subst hobj'
          simp at hzero
          exact absurd hzero hne
      cases timeout with
      | noWait => exact hu
      | forever =>
        intro v hv
        simp only [Kernel.pendOn, Kernel.reschedule, Function.update_self, mem_insertPrio] at hv ⊢
        by_cases hme : v = me
        · rw [hme, Function.update_self]
          exact hfree
        · rw [Function.update_of_ne hme]
          exact hu v (hv.resolve_left hme)

theorem eventWaitSafe_pending {mask : BitVec 32} {timeout : Timeout} (me : Thread)
    (hmask : mask &&& signalizeYieldEventMask = 0) :
    yieldPending (k.eventWaitSafe me testEvent mask timeout) = yieldPending k := by
  unfold Kernel.eventWaitSafe
  split
  case h_2 => rfl
  case h_1 bits hobj =>
    split
    · rw [yieldPending_of_event hobj, yieldPending_setObj,
        and_not_and hmask]
    · cases timeout <;> rfl

theorem eventWaitSafe_yield {bits : BitVec 32} {timeout : Timeout} (me : Thread)
    (hobj : k.obj testEvent = .event bits) (hset : signalizeYieldEventMask &&& bits ≠ 0) :
    yieldPending (k.eventWaitSafe me testEvent signalizeYieldEventMask timeout) = false := by
  have hset' : ¬ signalizeYieldEventMask &&& bits = 0#32 := hset
  have hobj' : (k.eventWaitSafe me testEvent signalizeYieldEventMask timeout).obj testEvent =
      .event (bits &&& ~~~signalizeYieldEventMask) := by
    simp [hobj, hset']
  rw [yieldPending_of_event hobj']
  simp [BitVec.and_assoc, BitVec.and_comm (~~~signalizeYieldEventMask)]

theorem eventClear_pending {mask : BitVec 32} (hmask : mask &&& signalizeYieldEventMask = 0) :
    yieldPending (k.eventClear testEvent mask) = yieldPending k := by
  unfold Kernel.eventClear
  split
  case h_2 => rfl
  case h_1 bits hobj =>
    rw [yieldPending_of_event hobj, yieldPending_setObj, and_not_and hmask]

/-- A call of a test changes the bit as `pendingAfter` says, and nobody comes
to wait for it. -/
theorem callBy_pending (hu : Unawaited s.kern)
    (hmask : s.mem.vars.dummyTaskEventMask &&& signalizeYieldEventMask = 0)
    (hc : SignalCall poster s t c) :
    yieldPending (s.kern.callBy t c) = pendingAfter (yieldPending s.kern) c ∧
      Unawaited (s.kern.callBy t c) := by
  have hframe : ∀ k' : Kernel Thread Object Empty, k'.obj testEvent = s.kern.obj testEvent ∧
      k'.waitq testEvent = s.kern.waitq testEvent ∧ k'.events = s.kern.events →
      yieldPending k' = yieldPending s.kern ∧ Unawaited k' := by
    rintro k' ⟨hobj, hwaitq, hevents⟩
    unfold yieldPending Unawaited
    rw [hobj, hwaitq, hevents]
    exact ⟨rfl, hu⟩
  cases c with
  | kEventInit o =>
    obtain ⟨rfl, hobj⟩ := hc
    constructor
    · simp [Kernel.callBy, Kernel.eventInit, Kernel.setObj, yieldPending, pendingAfter, hobj]
    · simp [Kernel.callBy, Kernel.eventInit, Unawaited]
  | kEventPost o mask =>
    obtain ⟨rfl, ⟨rfl, -, bits, hobj, hclear⟩ | hfree⟩ := hc
    · refine ⟨?_, eventPost_unawaited hu⟩
      rw [pendingAfter, if_pos rfl]
      exact eventPost_yield hu hobj hclear
    · refine ⟨?_, eventPost_unawaited hu⟩
      rw [pendingAfter, if_neg (ne_signalizeYieldEventMask hfree)]
      exact eventPost_other hu hfree
  | kEventClear o mask =>
    obtain ⟨rfl, hfree⟩ := hc
    refine ⟨eventClear_pending hfree, ?_⟩
    simp only [Kernel.callBy, Kernel.eventClear]
    split <;> exact hu
  | kEventWaitSafe o mask timeout =>
    have hother : mask &&& signalizeYieldEventMask = 0 →
        yieldPending (s.kern.eventWaitSafe t testEvent mask timeout) =
            pendingAfter (yieldPending s.kern)
              (.kEventWaitSafe testEvent mask timeout : Call Thread Object Empty F) ∧
          Unawaited (s.kern.eventWaitSafe t testEvent mask timeout) := by
      intro hfree
      refine ⟨?_, eventWaitSafe_unawaited t hu (.inl hfree)⟩
      rw [eventWaitSafe_pending t hfree, pendingAfter, if_neg (ne_signalizeYieldEventMask hfree)]
    obtain ⟨rfl, hfree | hvars | ⟨rfl, -, bits, hobj, hset⟩⟩ := hc
    · exact hother hfree
    · exact hother (hvars ▸ hmask)
    · rw [BitVec.and_comm] at hset
      refine ⟨?_, eventWaitSafe_unawaited t hu (.inr ⟨bits, hobj, hset⟩)⟩
      rw [pendingAfter, if_pos rfl]
      exact eventWaitSafe_yield t hobj hset
  | kThreadAbort u => exact ⟨threadAbort_pending u, threadAbort_unawaited u hu⟩
  | kThreadCreate u entry prio => exact hframe _ (callBy_frame t trivial)
  | kThreadSuspendCurrent => exact hframe _ (callBy_frame (F := F) t trivial)
  | kThreadResume u => exact hframe _ (callBy_frame (F := F) t trivial)
  | kSemInit o count limit => exact hframe _ (callBy_frame (F := F) t hc)
  | kSemGive o => exact hframe _ (callBy_frame (F := F) t hc)
  | kSemTake o timeout => exact hframe _ (callBy_frame (F := F) t hc)
  | kSemReset o => exact hframe _ (callBy_frame (F := F) t hc)
  | _ => exact hc.elim

end Kernel

/-! ## 3. Posts and waits in the history -/

/-- A post of the bit, or a wait for it. -/
inductive Signal
  | posted
  | awaited
  deriving DecidableEq

def callSignal : Call Thread Object Empty F → Option Signal
  | .kEventPost _ mask => if mask = signalizeYieldEventMask then some .posted else none
  | .kEventWaitSafe _ mask _ => if mask = signalizeYieldEventMask then some .awaited else none
  | _ => none

def entrySignal : HistEntry F → Option Signal
  | .exec _ (.call c) => callSignal c
  | _ => none

/-- How often the bit has been posted, or waited for. -/
def signalCount (x : Signal) (log : List (HistEntry F)) : Nat :=
  log.countP fun e => entrySignal e == some x

section History

variable {x : Signal} {log : List (HistEntry F)}

theorem signalCount_cons (e : HistEntry F) :
    signalCount x (e :: log) = signalCount x log + if entrySignal e = some x then 1 else 0 := by
  simp [signalCount, List.countP_cons]

theorem signalCount_logSwitch (old new : Option Thread) :
    signalCount x (logSwitch old new log) = signalCount x log := by
  unfold logSwitch
  split
  · rfl
  · rw [signalCount_cons]
    rfl

end History

/-- The history balances, when `m` posts have found the bit set. -/
structure Tracked (m : Nat) (s : TestState B F) : Prop where
  unawaited : Unawaited s.kern
  mask : s.mem.vars.dummyTaskEventMask &&& signalizeYieldEventMask = 0
  balance : signalCount .posted s.log =
    signalCount .awaited s.log + (yieldPending s.kern).toNat + m

section Step

variable {poster t : Thread} {s : TestState B F} {c : Call Thread Object Empty F} {m : Nat}
  {body : F → Code B F}

/-- The bit before and after a post, a wait for it, and any other call. -/
theorem SignalCall.pending (hc : SignalCall poster s t c)
    (hmask : s.mem.vars.dummyTaskEventMask &&& signalizeYieldEventMask = 0) :
    match callSignal c with
    | some .posted => yieldPending s.kern = false ∧ pendingAfter false c = true
    | some .awaited => yieldPending s.kern = true ∧ t = idleThread ∧ pendingAfter true c = false
    | none => pendingAfter (yieldPending s.kern) c = yieldPending s.kern := by
  have hne : signalizeYieldEventMask &&& signalizeYieldEventMask ≠ 0#32 := by decide
  cases c with
  | kEventPost o mask =>
    by_cases hm : mask = signalizeYieldEventMask
    · subst hm
      obtain ⟨-, ⟨-, -, bits, hobj, hclear⟩ | hfree⟩ := hc
      · simp [callSignal, pendingAfter, yieldPending_of_event hobj, hclear]
      · exact absurd hfree hne
    · simp [callSignal, pendingAfter, hm]
  | kEventWaitSafe o mask timeout =>
    by_cases hm : mask = signalizeYieldEventMask
    · subst hm
      obtain ⟨-, hfree | hvars | ⟨-, ht, bits, hobj, hset⟩⟩ := hc
      · exact absurd hfree hne
      · exact absurd (hvars ▸ hmask) hne
      · simp [callSignal, pendingAfter, yieldPending_of_event hobj, ht]
        exact hset
    · simp [callSignal, pendingAfter, hm]
  | _ => rfl

/-- A step that does not touch the bit. -/
theorem Tracked.of_eq {s' : TestState B F} (hs : Tracked m s)
    (hobj : s'.kern.obj = s.kern.obj) (hwaitq : s'.kern.waitq = s.kern.waitq)
    (hevents : s'.kern.events = s.kern.events)
    (hmask : s'.mem.vars.dummyTaskEventMask &&& signalizeYieldEventMask = 0)
    (hlog : ∀ x, signalCount x s'.log = signalCount x s.log) : Tracked m s' := by
  obtain ⟨hunawaited, -, hbalance⟩ := hs
  refine ⟨?_, hmask, ?_⟩
  · unfold Unawaited
    rw [hwaitq, hevents]
    exact hunawaited
  · unfold yieldPending at hbalance ⊢
    rw [hlog, hlog, hobj, hbalance]

theorem Tracked.takeIrq (hs : Tracked m s) :
    Tracked m ((program body).takeIrq .documented s) :=
  hs.of_eq rfl rfl rfl hs.mask fun _ => signalCount_logSwitch ..

theorem Tracked.call (hs : Tracked m s) (hc : SignalCall poster s t c)
    (code : Thread → Code B F) :
    Tracked m { kern := s.kern.callBy t c, code, mem := s.mem,
                log := logSwitch (some t) (s.kern.callBy t c).current
                  (.exec t (.call c) :: s.log) } := by
  obtain ⟨hunawaited, hmask, hbalance⟩ := hs
  obtain ⟨hafter, hnobody⟩ := callBy_pending hunawaited hmask hc
  refine ⟨hnobody, hmask, ?_⟩
  have hpending := hc.pending hmask
  simp only [signalCount_logSwitch, signalCount_cons, entrySignal]
  rw [hafter]
  have hcases : callSignal c = none ∨ callSignal c = some .posted ∨
      callSignal c = some .awaited := by
    rcases callSignal c with _ | _ | _ <;> simp
  rcases hcases with hsig | hsig | hsig
  · simp only [hsig] at hpending ⊢
    rw [hpending, hbalance]
    simp
  · simp only [hsig] at hpending ⊢
    rw [hpending.1] at hbalance ⊢
    rw [hpending.2, hbalance]
    simp
    omega
  · simp only [hsig] at hpending ⊢
    rw [hpending.1] at hbalance ⊢
    rw [hpending.2.2, hbalance]
    simp

/-- A step keeps the balance, as long as the call it makes finds what it is to
find. -/
theorem Tracked.next (hs : Tracked m s) (h : Signals poster s) :
    Tracked m ((program body).next s) := by
  cases hirq : s.kern.irq.pending && s.kern.irq.enabled with
  | true =>
    rw [next_of_irq hirq]
    exact hs.takeIrq
  | false =>
    cases hcur : s.kern.current with
    | none => rwa [next_of_none hirq hcur]
    | some t =>
      cases hcode : s.code t with
      | nil => rwa [next_of_nil hirq hcur hcode]
      | cons st rest =>
        rw [next_of_cons hirq hcur hcode]
        cases st with
        | call c =>
          have hc := h.call ⟨hcur, c, rest, hcode, rfl⟩
          have hcall : s.kern.call (c s.mem) = s.kern.callBy t (c s.mem) := by
            simp only [Kernel.call, hcur]
          have hnext := hs.call hc ((program body).install (c s.mem)
            (Function.update s.code t rest))
          rw [← hcall] at hnext
          exact hnext
        | prim q =>
          have hmask : (q.run (fun w _ mem => w.set mem) s.log.length (s.kern.data.ret t)
              s.mem).vars.dummyTaskEventMask &&& signalizeYieldEventMask = 0 := by
            cases q with
            | assign w =>
              cases w
              simpa [Signals, hcur, hcode] using h
            | _ => exact hs.mask
          refine hs.of_eq rfl rfl rfl hmask ?_
          intro x
          exact signalCount_cons _
        | loop l => exact hs.of_eq rfl rfl rfl hs.mask fun _ => rfl
        | forUp i cond l => exact hs.of_eq rfl rfl rfl hs.mask fun _ => rfl
        | ite cond yes no => exact hs.of_eq rfl rfl rfl hs.mask fun _ => rfl

/-- `poster` is about to post although the bit is set. -/
structure Merging (poster : Thread) (s : TestState B F) : Prop where
  irq : s.kern.irq.pending = false
  calls : CallsNext s poster (.kEventPost testEvent signalizeYieldEventMask)
  event : s.kern.obj testEvent = .event signalizeYieldEventMask
  started : s.code sbHighPrioThread ≠ []

theorem Merging.pending (h : Merging poster s) : yieldPending s.kern = true := by
  rw [yieldPending_of_event h.event]
  decide

/-- Two posts become one. -/
theorem Tracked.merge (hs : Tracked m s) (h : Merging poster s) :
    Tracked (m + 1) ((program body).next s) := by
  obtain ⟨hunawaited, hmask, hbalance⟩ := hs
  obtain ⟨hirq, ⟨hcur, c, rest, hcode, hc⟩, hevent, -⟩ := h
  have hirq' : (s.kern.irq.pending && s.kern.irq.enabled) = false := by rw [hirq, Bool.false_and]
  have hcall : s.kern.call (c s.mem) = s.kern.eventPost testEvent signalizeYieldEventMask := by
    rw [hc]
    simp only [Kernel.call, hcur]
    rfl
  have hbefore : yieldPending s.kern = true := by
    rw [yieldPending_of_event hevent]
    decide
  have hafter : yieldPending (s.kern.eventPost testEvent signalizeYieldEventMask) = true := by
    rw [eventPost_pending hunawaited hevent]
    decide
  rw [next_of_cons hirq' hcur hcode]
  simp only [Prog.exec, documented_call, documented_view]
  rw [hcall]
  refine ⟨eventPost_unawaited hunawaited, hmask, ?_⟩
  have hposted : callSignal (c s.mem) = some .posted := by
    rw [hc]
    rfl
  simp only [signalCount_logSwitch, signalCount_cons, entrySignal, hposted]
  rw [hafter, hbalance, hbefore]
  simp
  omega

end Step

/-! ## 4. Whole runs -/

section Run

variable {K : Type} {body : F → Code B F} {iTask : F} {s : TestState B F} {t u : Thread}
  {c : Call Thread Object Empty F}

theorem CallsNext.unique {c' : Call Thread Object Empty F} (h : CallsNext s t c)
    (h' : CallsNext s u c') : t = u ∧ c = c' := by
  obtain ⟨hcur, d, rest, hcode, rfl⟩ := h
  obtain ⟨hcur', d', rest', hcode', rfl⟩ := h'
  obtain rfl := Option.some.inj (hcur.symm.trans hcur')
  rw [hcode, List.cons.injEq, Stmt.call.injEq] at hcode'
  exact ⟨rfl, by rw [hcode'.1]⟩

theorem mem_logSwitch {e : HistEntry F} {old new : Option Thread} {log : List (HistEntry F)}
    (h : e ∈ log) : e ∈ logSwitch old new log := by
  unfold logSwitch
  split
  · exact h
  · exact List.mem_cons_of_mem _ h

theorem exec_mem_logSwitch {x : Act Thread Object Empty F (Prim Series Marker Assign)}
    {old new : Option Thread} {log : List (HistEntry F)}
    (h : Entry.exec t x ∈ logSwitch old new log) : Entry.exec t x ∈ log := by
  unfold logSwitch at h
  split at h
  · exact h
  · exact (List.mem_cons.mp h).resolve_left nofun

/-- The history only grows. -/
theorem mem_log_next {e : HistEntry F} (h : e ∈ s.log) : e ∈ ((program body).next s).log := by
  cases hirq : s.kern.irq.pending && s.kern.irq.enabled with
  | true =>
    rw [next_of_irq hirq]
    exact mem_logSwitch h
  | false =>
    cases hcur : s.kern.current with
    | none => rwa [next_of_none hirq hcur]
    | some t =>
      cases hcode : s.code t with
      | nil => rwa [next_of_nil hirq hcur hcode]
      | cons st rest =>
        rw [next_of_cons hirq hcur hcode]
        cases st with
        | call c => exact mem_logSwitch (List.mem_cons_of_mem _ h)
        | prim q => exact List.mem_cons_of_mem _ h
        | _ => exact h

/-- A call in the history was executed in an earlier state. -/
theorem callsNext_of_mem_log (h : Entry.exec t (.call c) ∈ ((program body).next s).log) :
    Entry.exec t (.call c) ∈ s.log ∨ CallsNext s t c := by
  cases hirq : s.kern.irq.pending && s.kern.irq.enabled with
  | true =>
    rw [next_of_irq hirq] at h
    exact .inl (exec_mem_logSwitch h)
  | false =>
    cases hcur : s.kern.current with
    | none =>
      rw [next_of_none hirq hcur] at h
      exact .inl h
    | some v =>
      cases hcode : s.code v with
      | nil =>
        rw [next_of_nil hirq hcur hcode] at h
        exact .inl h
      | cons st rest =>
        rw [next_of_cons hirq hcur hcode] at h
        cases st with
        | call d =>
          rcases List.mem_cons.mp (exec_mem_logSwitch h) with heq | hlog
          · rw [Entry.exec.injEq, Act.call.injEq] at heq
            obtain ⟨rfl, rfl⟩ := heq
            exact .inr ⟨hcur, d, rest, hcode, rfl⟩
          · exact .inl hlog
        | prim q => exact .inl ((List.mem_cons.mp h).resolve_left nofun)
        | _ => exact .inl h

/-- If `u` has something to execute, its creation is in the history. -/
def Begun (u : Thread) (s : TestState B F) : Prop :=
  s.code u ≠ [] → ∃ t entry prio, Entry.exec t (.call (.kThreadCreate u entry prio)) ∈ s.log

theorem Begun.next (hs : Begun u s) : Begun u ((program body).next s) := by
  have hkeep : s.code u ≠ [] → ∃ t entry prio,
      Entry.exec t (.call (.kThreadCreate u entry prio)) ∈ ((program body).next s).log := by
    intro hne
    obtain ⟨t, entry, prio, hmem⟩ := hs hne
    exact ⟨t, entry, prio, mem_log_next hmem⟩
  by_cases hne : s.code u ≠ []
  · exact fun _ => hkeep hne
  · have hnil : s.code u = [] := not_not.mp hne
    cases hirq : s.kern.irq.pending && s.kern.irq.enabled with
    | true =>
      rw [next_of_irq hirq]
      exact fun h => absurd hnil h
    | false =>
      cases hcur : s.kern.current with
      | none => rwa [next_of_none hirq hcur]
      | some v =>
        cases hcode : s.code v with
        | nil => rwa [next_of_nil hirq hcur hcode]
        | cons st rest =>
          have huv : u ≠ v := by
            rintro rfl
            simp [hnil] at hcode
          rw [next_of_cons hirq hcur hcode]
          cases st with
          | call d =>
            intro h
            have hinstall : (program body).install (d s.mem) (Function.update s.code v rest) u ≠
                [] := h
            cases hd : d s.mem with
            | kThreadCreate w entry prio =>
              by_cases huw : u = w
              · subst huw
                refine ⟨v, entry, prio, mem_logSwitch ?_⟩
                rw [hd]
                exact List.mem_cons_self
              · simp [hd, Prog.install, huw, huv, hnil] at hinstall
            | _ => simp [hd, Prog.install, huv, hnil] at hinstall
          | _ =>
            intro h
            simp [Prog.exec, huv, hnil] at h

/-- `t` is about to create `sb_high_prio_thread`. -/
def CreatesSB (s : TestState B F) (t : Thread) : Prop :=
  ∃ entry prio, CallsNext s t (.kThreadCreate sbHighPrioThread entry prio)

/-- `t` is about to wait for the end of a pass. -/
def AwaitsYield (s : TestState B F) (t : Thread) : Prop :=
  ∃ timeout, CallsNext s t (.kEventWaitSafe testEvent signalizeYieldEventMask timeout)

/-- `t` is about to post the end of a pass. -/
def PostsYield (s : TestState B F) (t : Thread) : Prop :=
  CallsNext s t (.kEventPost testEvent signalizeYieldEventMask)

/-- How the passes of a run are acknowledged, with `posterA` ending those of
S_A and `posterB` those of S_B: the last pass of S_A is not, so its signal is
what `test_event` holds when the tasks of S_B are created, and the first post
of S_B, at step `first`, is merged with it. -/
structure Acknowledged (posterA posterB : Thread) (first : Nat) (r : Nat → TestState B F) :
    Prop where
  created : ∃ n < first, ∃ t, CreatesSB (r n) t
  border : ∀ n t, CreatesSB (r n) t → (r n).kern.obj testEvent = .event signalizeYieldEventMask
  merged : PostsYield (r first) posterB ∧ yieldPending (r first).kern = true
  posts : ∀ n t, PostsYield (r n) t → n ≠ first →
    yieldPending (r n).kern = false ∧ t = if n < first then posterA else posterB
  waits : ∀ n t, AwaitsYield (r n) t → t = idleThread ∧ yieldPending (r n).kern = true
  balance : ∀ n, signalCount .posted (r n).log = signalCount .awaited (r n).log +
    (yieldPending (r n).kern).toNat + if first < n then 1 else 0

/-- A call in the history of a run was executed in a state of the run. -/
theorem exists_callsNext {r : Nat → TestState B F} (hlog : (r 0).log = [])
    (hr : ∀ n, r (n + 1) = (program body).next (r n)) {n : Nat}
    (h : Entry.exec t (.call c) ∈ (r n).log) : ∃ m < n, CallsNext (r m) t c := by
  induction n with
  | zero =>
    rw [hlog] at h
    cases h
  | succ n ih =>
    rw [hr] at h
    rcases callsNext_of_mem_log h with hbefore | hnow
    · obtain ⟨m, hm, hcalls⟩ := ih hbefore
      exact ⟨m, Nat.lt_succ_of_lt hm, hcalls⟩
    · exact ⟨n, Nat.lt_succ_self n, hnow⟩

theorem tracked_start : Tracked 0 (start (B := B) body iTask) where
  unawaited _ hu := absurd hu List.not_mem_nil
  mask := BitVec.zero_and
  balance := rfl

theorem begun_start : Begun sbHighPrioThread (start (B := B) body iTask) :=
  fun h => absurd rfl h

section Steps

variable {posterA posterB : Thread} {first n : Nat} {r : Nat → TestState B F}

theorem begun_run (hstart : r 0 = start body iTask)
    (hr : ∀ n, r (n + 1) = (program body).next (r n)) : Begun sbHighPrioThread (r n) := by
  induction n with
  | zero =>
    rw [hstart]
    exact begun_start
  | succ n ih =>
    rw [hr]
    exact ih.next

/-- In a run in which only the post at step `first` finds the bit set, that one
is merged and no other. -/
theorem tracked_run (hstart : r 0 = start body iTask)
    (hr : ∀ n, r (n + 1) = (program body).next (r n)) (hmerge : Merging posterB (r first))
    (hsignals : ∀ n, n ≠ first → Signals (if n < first then posterA else posterB) (r n)) :
    Tracked (if first < n then 1 else 0) (r n) := by
  induction n with
  | zero =>
    rw [hstart]
    exact tracked_start
  | succ n ih =>
    rw [hr]
    by_cases hn : n = first
    · subst hn
      rw [if_neg (Nat.lt_irrefl n)] at ih
      rw [if_pos (Nat.lt_succ_self n)]
      exact ih.merge hmerge
    · have hlt : (first < n + 1) = (first < n) := by
        rw [eq_iff_iff, Nat.lt_succ_iff_lt_or_eq]
        exact or_iff_left (Ne.symm hn)
      simp only [hlt]
      exact ih.next (hsignals n hn)

/-- Every call of such a run is that post or one of `SignalCall`. -/
theorem callsNext_run (hmerge : Merging posterB (r first))
    (hsignals : ∀ n, n ≠ first → Signals (if n < first then posterA else posterB) (r n))
    {c : Call Thread Object Empty F} (hc : CallsNext (r n) t c) :
    n = first ∧ t = posterB ∧ c = .kEventPost testEvent signalizeYieldEventMask ∨
      n ≠ first ∧ SignalCall (if n < first then posterA else posterB) (r n) t c := by
  by_cases hn : n = first
  · subst hn
    exact .inl ⟨rfl, hc.unique hmerge.calls⟩
  · exact .inr ⟨hn, (hsignals n hn).call hc⟩

theorem acknowledged_of_signals (hstart : r 0 = start body iTask)
    (hr : ∀ n, r (n + 1) = (program body).next (r n)) (hmerge : Merging posterB (r first))
    (hsignals : ∀ n, n ≠ first → Signals (if n < first then posterA else posterB) (r n)) :
    Acknowledged posterA posterB first r := by
  have htracked := fun n => tracked_run (n := n) hstart hr hmerge hsignals
  have hlog : (r 0).log = [] := by rw [hstart]; rfl
  refine ⟨?_, ?_, ⟨hmerge.calls, hmerge.pending⟩, ?_, ?_, fun n => (htracked n).balance⟩
  · obtain ⟨t, entry, prio, hmem⟩ := begun_run hstart hr hmerge.started
    obtain ⟨n, hn, hcalls⟩ := exists_callsNext hlog hr hmem
    exact ⟨n, hn, t, entry, prio, hcalls⟩
  · rintro n t ⟨entry, prio, hcreate⟩
    rcases callsNext_run hmerge hsignals hcreate with ⟨-, -, hpost⟩ | ⟨-, hfinds⟩
    · cases hpost
    · exact hfinds rfl
  · intro n t hpost hn
    rcases callsNext_run hmerge hsignals hpost with ⟨hfirst, -⟩ | ⟨-, hfinds⟩
    · exact absurd hfirst hn
    · have hclear := hfinds.pending (htracked n).mask
      obtain ⟨-, ⟨-, ht, -⟩ | hfree⟩ := hfinds
      · simp only [callSignal, if_true] at hclear
        exact ⟨hclear.1, ht⟩
      · exact absurd hfree (by decide)
  · rintro n t ⟨timeout, hwait⟩
    rcases callsNext_run hmerge hsignals hwait with ⟨-, -, hpost⟩ | ⟨-, hfinds⟩
    · cases hpost
    · have hset := hfinds.pending (htracked n).mask
      simp only [callSignal, if_true] at hset
      exact ⟨hset.2.1, hset.1⟩

end Steps

/-- Two symbolic executions, up to the post that finds the bit set and from
there to the last loop of `I_Task`, settle a run over any documented kernel. -/
theorem acknowledged_of_leads (Z : Zephyr K Thread Object Empty F) {posterA posterB : Thread}
    {Q : TestState B F → Prop} {R : Kernel Thread Object Empty → (Series → B.Series) → Prop}
    (hA : Leads (program body).next (Signals posterA) (start body iTask) Q)
    (hQ : ∀ s, Q s → Merging posterB s)
    (hB : ∀ s, Q s → Leads (program body).next (Signals posterB) ((program body).next s)
      (Settled idleThread outliers R)) :
    ∃ first, Acknowledged posterA posterB first (run (B := B) Z body iTask) := by
  obtain ⟨t, hsteps, ht⟩ := hA
  obtain ⟨first, rfl, hbefore⟩ := hsteps.exists_iterate
  have hrun : ∀ n, run Z body iTask n = (program body).next^[n] (start body iTask) :=
    fun n => run_view (program body) Z ..
  refine ⟨first, acknowledged_of_signals (hrun 0) ?_ ?_ ?_⟩
  · intro n
    rw [hrun, hrun, Function.iterate_succ_apply']
  · rw [hrun]
    exact hQ _ ht
  · intro n hn
    rw [hrun]
    by_cases hlt : n < first
    · rw [if_pos hlt]
      exact hbefore n hlt
    · rw [if_neg hlt]
      obtain ⟨k, rfl⟩ : ∃ k, n = k + (first + 1) :=
        ⟨n - (first + 1), by omega⟩
      rw [Function.iterate_add_apply, Function.iterate_succ_apply']
      refine (hB _ ht).always (fun s hs m => ?_) k
      have hsettled := iterate_of_closed hs (fun s hs => hs.next (program_prim body)) m
      exact hsettled.atStmt trivial (fun _ _ => trivial) fun _ => trivial

/-- Of the same two executions: a test is good throughout if it is in the state
between them. -/
theorem leads_of_sound {Good Q R : TestState B F → Prop} {posterA posterB : Thread}
    {s : TestState B F} (hA : Leads (program body).next (Sound Good posterA) s Q)
    (hgood : ∀ s, Q s → Good s)
    (hB : ∀ s, Q s → Leads (program body).next (Sound Good posterB) ((program body).next s) R) :
    Leads (program body).next Good s R := by
  refine (hA.imp fun _ h => h.1).bind ?_
  intro s hs
  exact .step (hgood s hs) ((hB s hs).imp fun _ h => h.1)

end Run

end ZephyrBench.TaskSwitching

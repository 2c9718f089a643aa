/-
ZephyrBench.Itc.AddressTheorems — `fifo`, `lifo` and `stack` are one program.

`addresses_lockstep`: in each of the three tests no object ever holds more than
one item, and the runs of the three go in lockstep. Replacing the queues of
`fifo` by the objects of another test, and the calls by the calls of that test,
turns every state of the run into a state of the other's.

## How the proof goes

The order in which an object hands out its items cannot show while it holds at
most one. `call_rename` says this of a call: one of `fifo` that finds no more
than one item under way (`Fits`) does, up to the renaming, what the call of the
other test does. It is a case for each kind of call; those of the common programs
do not look at these objects at all (`callBy_base`).

`Sim` relates the states. A step keeps it, and keeps `AtMostOne` of the state of
`fifo` (`sim_next`); what `Fits` asks is known along the run of `fifo` from
`AddressStmt`. So the run of `fifo` alone carries the induction, and nothing has
to be known of the other test before.

Code is related statement by statement (`SimStmt`), since a loop in the code of a
thread contains calls that are still to be renamed.
-/
import ZephyrBench.Itc.Addresses
import ZephyrBench.Rtos.CallTheorems

namespace ZephyrBench.Itc

open Rtos Rtos.Exec Thread Object Series Marker

namespace AddressTest

variable {B : Bmth} {cfg : Config} (T : AddressTest)

/-! ## 1. Renaming -/

/-- The object of the test that stands for an object of `fifo`. -/
def convObj : AddressTest → Obj Thread Addr → Obj Thread Addr
  | .stack, .queue items => .stack items stackMaxEntries
  | _, x => x

def convKernel (k : Kernel Thread Object Addr) : Kernel Thread Object Addr :=
  { k with obj := fun o => T.convObj (k.obj o) }

/-- The call of the test that stands for a call of `fifo`. -/
def rename : AddressTest → Call Thread Object Addr EntryFn → Call Thread Object Addr EntryFn
  | .lifo, .kFifoInit o => .kLifoInit o
  | .lifo, .kFifoPut o item => .kLifoPut o item
  | .lifo, .kFifoGet o _ => .kLifoGet o .forever
  | .stack, .kFifoInit o => .kStackInit o stackMaxEntries
  | .stack, .kFifoPut o item => .kStackPush o item
  | .stack, .kFifoGet o _ => .kStackPop o .forever
  | _, c => c

def renameEntry : HistEntry → HistEntry
  | .exec t (.call c) => .exec t (.call (T.rename c))
  | e => e

/-- Is it a call of the common programs? -/
def isBase : Call Thread Object Addr EntryFn → Bool
  | .kThreadCreate .. | .kThreadAbort _ | .kThreadSuspendCurrent | .kSemInit .. | .kSemGive _
  | .kSemTake .. | .kSemReset _ | .kEventInit _ | .kEventPost .. | .kEventWaitSafe .. => true
  | _ => false

/-- Is it a call of `fifo`? -/
def isKnown : Call Thread Object Addr EntryFn → Bool
  | .kFifoInit _ | .kFifoPut .. | .kFifoGet .. => true
  | c => isBase c

/-! ## 2. Calls -/

variable {k : Kernel Thread Object Addr} {me : Thread}

@[simp] theorem convObj_sem (count limit : Nat) :
    T.convObj (.sem count limit) = .sem count limit := by
  cases T <;> rfl

@[simp] theorem convObj_event (bits : BitVec 32) : T.convObj (.event bits) = .event bits := by
  cases T <;> rfl

/-- Replacing an object and then converting all is converting and replacing. -/
theorem update_convObj {f : Object → Obj Thread Addr} {o : Object} {x y : Obj Thread Addr}
    (h : T.convObj x = y) :
    Function.update (fun u => T.convObj (f u)) o y =
      fun u => T.convObj (Function.update f o x u) := by
  funext u
  by_cases hu : u = o
  · simp [hu, h]
  · simp [hu]

theorem dropSender_convObj (t : Thread) (x : Obj Thread Addr) :
    Kernel.dropSender t (T.convObj x) = T.convObj (Kernel.dropSender t x) := by
  cases T <;> cases x <;> rfl

section Base

attribute [local simp] convKernel Kernel.wake Kernel.reschedule Kernel.setObj Kernel.pendOn

/-- A semaphore or an event stands for itself. -/
@[local simp] theorem update_sem {f : Object → Obj Thread Addr} {o : Object} {count limit : Nat} :
    Function.update (fun u => T.convObj (f u)) o (.sem count limit) =
      fun u => T.convObj (Function.update f o (.sem count limit) u) :=
  update_convObj T (convObj_sem T count limit)

@[local simp] theorem update_event {f : Object → Obj Thread Addr} {o : Object} {bits : BitVec 32} :
    Function.update (fun u => T.convObj (f u)) o (.event bits) =
      fun u => T.convObj (Function.update f o (.event bits) u) :=
  update_convObj T (convObj_event T bits)

theorem semGive_conv (o : Object) : (T.convKernel k).semGive o = T.convKernel (k.semGive o) := by
  cases h : k.obj o with
  | sem count limit => cases hw : k.waitq o <;> simp [Kernel.semGive, h, hw]
  | _ => cases T <;> simp [Kernel.semGive, h, convObj]

theorem semTake_conv (o : Object) (timeout : Timeout) :
    (T.convKernel k).semTake me o timeout = T.convKernel (k.semTake me o timeout) := by
  cases h : k.obj o with
  | sem count limit =>
    by_cases hc : 0 < count
    · simp [Kernel.semTake, h, hc]
    · cases timeout with
      | noWait => simp [Kernel.semTake, h, hc]
      | forever =>
        simp [Kernel.semTake, h, hc]
        rfl
  | _ => cases T <;> simp [Kernel.semTake, h, convObj]

theorem semReset_conv (o : Object) : (T.convKernel k).semReset o = T.convKernel (k.semReset o) := by
  cases h : k.obj o with
  | sem count limit =>
    simp [Kernel.semReset, h]
    rfl
  | _ => cases T <;> simp [Kernel.semReset, h, convObj]

theorem eventPost_conv (o : Object) (mask : BitVec 32) :
    (T.convKernel k).eventPost o mask = T.convKernel (k.eventPost o mask) := by
  cases h : k.obj o with
  | event bits =>
    simp [Kernel.eventPost, h]
    rfl
  | _ => cases T <;> simp [Kernel.eventPost, h, convObj]

theorem eventWaitSafe_conv (o : Object) (mask : BitVec 32) (timeout : Timeout) :
    (T.convKernel k).eventWaitSafe me o mask timeout =
      T.convKernel (k.eventWaitSafe me o mask timeout) := by
  cases h : k.obj o with
  | event bits =>
    by_cases hm : mask &&& bits = 0#32
    · cases timeout with
      | noWait => simp [Kernel.eventWaitSafe, h, hm]
      | forever =>
        simp [Kernel.eventWaitSafe, h, hm]
        rfl
    · simp [Kernel.eventWaitSafe, h, hm]
  | _ => cases T <;> simp [Kernel.eventWaitSafe, h, convObj]

theorem threadAbort_conv (t : Thread) :
    (T.convKernel k).threadAbort t = T.convKernel (k.threadAbort t) := by
  cases h : k.pend t with
  | onSend o =>
    simp [Kernel.threadAbort, h, update_convObj T (dropSender_convObj T t (k.obj o)).symm]
    rfl
  | _ =>
    simp [Kernel.threadAbort, h]
    rfl

/-- A call of the common programs does the same in both tests. -/
theorem callBy_base {c : Call Thread Object Addr EntryFn} (hc : isBase c = true) :
    (T.convKernel k).callBy me c = T.convKernel (k.callBy me c) := by
  cases c with
  | kThreadCreate t entry prio => rfl
  | kThreadAbort t => exact threadAbort_conv T t
  | kThreadSuspendCurrent =>
    by_cases h : k.suspended me
    · simp [Kernel.callBy, Kernel.threadSuspend, h]
    · simp [Kernel.callBy, Kernel.threadSuspend, h]
      rfl
  | kSemInit o count limit => simp [Kernel.callBy, Kernel.semInit]
  | kSemGive o => exact semGive_conv T o
  | kSemTake o timeout => exact semTake_conv T o timeout
  | kSemReset o => exact semReset_conv T o
  | kEventInit o => simp [Kernel.callBy, Kernel.eventInit]
  | kEventPost o mask => exact eventPost_conv T o mask
  | kEventWaitSafe o mask timeout => exact eventWaitSafe_conv T o mask timeout
  | _ => exact absurd hc (by simp [isBase])

end Base

section Transfer

attribute [local simp] rename convKernel convObj Kernel.callBy Kernel.setObj Kernel.setData
  Kernel.initObj Kernel.queueInsert Kernel.queueGet Kernel.stackPush Kernel.stackPop
  stackMaxEntries

/-- The initialisation of an object. -/
theorem fifoInit_conv (o : Object) :
    (T.convKernel k).callBy me (T.rename (.kFifoInit o)) =
      T.convKernel (k.callBy me (.kFifoInit o : Call Thread Object Addr EntryFn)) := by
  cases T
  all_goals
    simp
    funext u
    by_cases hu : u = o <;> simp [hu]

/-- A put into an empty object. -/
theorem fifoPut_conv {o : Object} (item : Addr) (ho : k.obj o = .queue []) :
    (T.convKernel k).callBy me (T.rename (.kFifoPut o item)) =
      T.convKernel (k.callBy me (.kFifoPut o item : Call Thread Object Addr EntryFn)) := by
  cases hw : k.waitq o with
  | nil =>
    cases T
    all_goals
      simp [ho, hw]
      funext u
      by_cases hu : u = o <;> simp [hu]
  | cons w ws => cases T <;> simp [ho, hw, Kernel.wake, Kernel.reschedule]

/-- A get of the only item, or one that waits for it. -/
theorem fifoGet_conv {o : Object} {timeout : Timeout} {item : Addr}
    (ho : k.obj o = .queue [item] ∨ k.obj o = .queue [] ∧ timeout = .forever) :
    (T.convKernel k).callBy me (T.rename (.kFifoGet o timeout)) =
      T.convKernel (k.callBy me (.kFifoGet o timeout : Call Thread Object Addr EntryFn)) := by
  obtain ho | ⟨ho, rfl⟩ := ho
  · cases T
    all_goals
      simp [ho]
      funext u
      by_cases hu : u = o <;> simp [hu]
  · cases T
    all_goals
      simp [ho, Kernel.pendOn]
      rfl

end Transfer

/-- What `fifo` finds when it makes the call `c`: no more than one item is
under way. -/
def Fits (k : Kernel Thread Object Addr) : Call Thread Object Addr EntryFn → Prop
  | .kFifoPut o _ => k.obj o = .queue []
  | .kFifoGet o timeout => k.obj o = .queue [.testItem] ∨ k.obj o = .queue [] ∧ timeout = .forever
  | _ => True

/-- Such a call of `fifo` does what the call of the other test does. -/
theorem call_rename {c : Call Thread Object Addr EntryFn} (hc : isKnown c = true)
    (hfits : Fits k c) : (T.convKernel k).call (T.rename c) = T.convKernel (k.call c) := by
  cases h : k.current with
  | none => simp [Kernel.call, convKernel, h]
  | some me =>
    have hcall : ∀ c : Call Thread Object Addr EntryFn, k.call c = k.callBy me c := by
      simp [Kernel.call, h]
    have hconv : ∀ c : Call Thread Object Addr EntryFn,
        (T.convKernel k).call c = (T.convKernel k).callBy me c := by
      simp [Kernel.call, convKernel, h]
    rw [hcall, hconv]
    cases c with
    | kFifoInit o => exact fifoInit_conv T o
    | kFifoPut o item => exact fifoPut_conv T item hfits
    | kFifoGet o timeout => exact fifoGet_conv T hfits
    | _ =>
      cases T <;> exact callBy_base _ hc

/-! ## 3. At most one item -/

/-- The items that an object holds. -/
def held : Obj Thread Addr → List Addr
  | .queue items => items
  | .stack items _ => items
  | _ => []

theorem held_convObj (x : Obj Thread Addr) : held (T.convObj x) = held x := by
  cases T <;> cases x <;> rfl

/-- No object holds more than one item. -/
def AtMostOne (k : Kernel Thread Object Addr) : Prop := ∀ o, (held (k.obj o)).length ≤ 1

theorem held_update {f : Object → Obj Thread Addr} {o : Object} {x : Obj Thread Addr}
    (hf : ∀ u, (held (f u)).length ≤ 1) (hx : (held x).length ≤ 1) (u : Object) :
    (held (Function.update f o x u)).length ≤ 1 := by
  by_cases hu : u = o
  · rw [hu, Function.update_self]
    exact hx
  · rw [Function.update_of_ne hu]
    exact hf u

theorem held_dropSender (t : Thread) (x : Obj Thread Addr) :
    held (Kernel.dropSender t x) = held x := by
  cases x <;> rfl

/-- A call that finds no more than one item under way leaves no more. -/
theorem AtMostOne.callBy {c : Call Thread Object Addr EntryFn} (h : AtMostOne k)
    (hc : isKnown c = true) (hfits : Fits k c) : AtMostOne (k.callBy me c) := by
  cases c with
  | kFifoPut o item =>
    simp only [Fits] at hfits
    cases hw : k.waitq o with
    | nil =>
      simp only [Kernel.callBy, Kernel.queueInsert, hfits, hw]
      exact held_update h (by simp [held])
    | cons w ws =>
      simp only [Kernel.callBy, Kernel.queueInsert, hfits, hw]
      exact h
  | kFifoGet o timeout =>
    obtain ho | ⟨ho, rfl⟩ := hfits
    · simp only [Kernel.callBy, Kernel.queueGet, ho]
      exact held_update h (by simp [held])
    · simp only [Kernel.callBy, Kernel.queueGet, ho]
      exact h
  | kThreadAbort t =>
    simp only [Kernel.callBy, Kernel.threadAbort, Kernel.reschedule]
    intro u
    cases hp : k.pend t with
    | onSend o => exact held_update h (by rw [held_dropSender]; exact h o) u
    | _ => exact h u
  | kFifoInit _ | kSemInit _ _ _ | kEventInit _ => exact held_update h (by simp [held])
  | kThreadCreate _ _ _ => exact h
  | kThreadSuspendCurrent | kSemGive _ | kSemTake _ _ | kSemReset _ | kEventPost _ _
  | kEventWaitSafe _ _ _ =>
    simp only [Kernel.callBy, Kernel.threadSuspend, Kernel.semGive, Kernel.semTake,
      Kernel.semReset, Kernel.eventPost, Kernel.eventWaitSafe]
    repeat' split
    all_goals first | exact h | exact held_update h (by simp [held])
  | _ => exact absurd hc (by simp [isKnown, isBase])

/-! ## 4. Lockstep -/

/-- A statement of the test that stands for a statement of `fifo`. -/
inductive SimStmt (T : AddressTest) : Statement B → Statement B → Prop
  | call {c c' : TestMem B → Call Thread Object Addr EntryFn}
    (hc : ∀ mem, isKnown (c mem) = true) (h : ∀ mem, c' mem = T.rename (c mem)) :
    SimStmt T (.call c) (.call c')
  | prim (q : Prim Series Marker Assign) : SimStmt T (.prim q) (.prim q)
  | loop {body body' : Code B} (h : List.Forall₂ (SimStmt T) body body') :
    SimStmt T (.loop body) (.loop body')
  | forUp {i : Nat} {cond : Nat → Bool} {body body' : Nat → Code B}
    (h : ∀ j, List.Forall₂ (SimStmt T) (body j) (body' j)) :
    SimStmt T (.forUp i cond body) (.forUp i cond body')
  | ite {cond : TestMem B → Bool} {yes yes' no no' : Code B}
    (hyes : List.Forall₂ (SimStmt T) yes yes') (hno : List.Forall₂ (SimStmt T) no no') :
    SimStmt T (.ite cond yes no) (.ite cond yes' no')

abbrev SimCode (T : AddressTest) : Code B → Code B → Prop := List.Forall₂ (SimStmt T)

/-- The state `s'` of the test stands for the state `s` of `fifo`. -/
structure Sim (T : AddressTest) (s s' : TestState B) : Prop where
  kern : s'.kern = T.convKernel s.kern
  code : ∀ t, SimCode T (s.code t) (s'.code t)
  mem : s'.mem = s.mem
  log : s'.log = s.log.map T.renameEntry

variable (B cfg) in
theorem sim_body (f : EntryFn) :
    SimCode T ((program cfg (fifo.ipc B)).body f) ((program cfg (T.ipc B)).body f) := by
  cases T <;> cases f
  all_goals
    simp only [program, tSelf, tSelfSweep, tSelfStep, tSelfLoop, tSend, tSendLoop, tRecv, tRecvLoop,
      tArm, tArmSweep, tArmStep, tArmLoop, mwindowsOpen, mseriesFeed, iTask, iTaskSelf,
      iTaskSelfWait, iTaskUp, iTaskDir, iTaskWait, iTaskAfter, countOutliers, seriesOfStep,
      verdictLoop, verdictBody, ipc, Itc.fifo, Itc.lifo, Itc.stack, addressIpc, act, kcall,
      List.map, List.cons_append, List.nil_append, List.append_nil, ↓reduceIte, Bool.false_eq_true]
    repeat' first | constructor | intro _

theorem fits_of_stmt {s : TestState B} {t : Thread}
    {c : TestMem B → Call Thread Object Addr EntryFn}
    (h : fifo.AddressStmt s t (.call c)) : Fits s.kern (c s.mem) := by
  obtain ⟨hput, hget⟩ := h
  cases hc : c s.mem with
  | kFifoPut o item => exact (hput o (by simp [hc, sendObject])).1
  | kFifoGet o timeout =>
    obtain ⟨-, -, hobj, -⟩ | ⟨d, -, hcall, -, hobj, -⟩ := hget o (by simp [hc, recvObject])
    · exact .inl hobj
    · rw [hc] at hcall
      simp only [ipc, Itc.fifo, addressIpc, Call.kFifoGet.injEq] at hcall
      exact .inr ⟨hobj, hcall.2⟩
  | _ => trivial

theorem logSwitch_rename (old new : Option Thread) (log : List HistEntry) :
    logSwitch old new (log.map T.renameEntry) = (logSwitch old new log).map T.renameEntry := by
  unfold logSwitch
  split
  · rfl
  · rfl

theorem sim_update {code code' : Thread → Code B} (h : ∀ t, SimCode T (code t) (code' t))
    (u : Thread) {l l' : Code B} (hl : SimCode T l l') (t : Thread) :
    SimCode T (Function.update code u l t) (Function.update code' u l' t) := by
  by_cases htu : t = u
  · rw [htu, Function.update_self, Function.update_self]
    exact hl
  · rw [Function.update_of_ne htu, Function.update_of_ne htu]
    exact h t

theorem sim_install {c : Call Thread Object Addr EntryFn} {code code' : Thread → Code B}
    (h : ∀ t, SimCode T (code t) (code' t)) (t : Thread) :
    SimCode T ((program cfg (fifo.ipc B)).install c code t)
      ((program cfg (T.ipc B)).install (T.rename c) code' t) := by
  cases c with
  | kThreadCreate u entry prio =>
    have hrename : T.rename (.kThreadCreate u entry prio) = .kThreadCreate u entry prio := by
      cases T <;> rfl
    rw [hrename]
    exact sim_update T h u (sim_body B cfg T entry) t
  | _ => cases T <;> exact h t

/-- A statement of the test keeps the states in step. -/
theorem sim_exec {s s' : TestState B} (h : Sim T s s') {t : Thread} {st st' : Statement B}
    {rest rest' : Code B} (hst : SimStmt T st st') (hrest : SimCode T rest rest')
    (hstmt : fifo.AddressStmt s t st) :
    Sim T ((program cfg (fifo.ipc B)).exec .documented t st rest s)
      ((program cfg (T.ipc B)).exec .documented t st' rest' s') := by
  obtain ⟨hkern, hcode, hmem, hlog⟩ := h
  cases hst with
  | call hc hcall =>
    have hk := call_rename T (hc s.mem) (fits_of_stmt hstmt)
    refine ⟨?_, ?_, hmem, ?_⟩
    · simp only [Prog.exec, hkern, hmem, hcall, documented_call, hk]
    · intro u
      simp only [Prog.exec, hmem, hcall]
      exact sim_install T (sim_update T hcode t hrest) u
    · simp only [Prog.exec, hkern, hmem, hcall, documented_call, documented_view, hk, hlog]
      exact logSwitch_rename T _ _ (.exec t (.call _) :: s.log)
  | prim q =>
    refine ⟨hkern, sim_update T hcode t hrest, ?_, ?_⟩
    · simp [Prog.exec, hkern, hmem, hlog, convKernel, program]
    · simp [Prog.exec, hlog, renameEntry]
  | loop hbody =>
    refine ⟨hkern, sim_update T hcode t ?_, hmem, hlog⟩
    exact List.rel_append hbody (.cons (.loop hbody) hrest)
  | @forUp i cond body body' hbody =>
    refine ⟨hkern, sim_update T hcode t ?_, hmem, hlog⟩
    by_cases hi : cond i = true
    · simp only [if_pos hi]
      exact List.rel_append (hbody i) (.cons (.forUp hbody) hrest)
    · simp only [if_neg hi]
      exact hrest
  | @ite cond yes yes' no no' hyes hno =>
    refine ⟨hkern, sim_update T hcode t ?_, hmem, hlog⟩
    rw [hmem]
    by_cases hi : cond s.mem = true
    · simp only [if_pos hi]
      exact List.rel_append hyes hrest
    · simp only [if_neg hi]
      exact List.rel_append hno hrest

theorem takeIrq_eq (ipc : Ipc B) (s : TestState B) :
    (program cfg ipc).takeIrq .documented s =
      { s with kern := s.kern.setIrq { s.kern.irq with pending := false, inIsr := false } } := by
  simp [Prog.takeIrq, program, logSwitch, Kernel.isrEnter, Kernel.isrExit, Kernel.setIrq]

/-- A step keeps the states in step, and no object gets a second item. -/
theorem sim_next {s s' : TestState B} (h : Sim T s s') (hone : AtMostOne s.kern)
    (hstmt : s.AtStmt (fifo.AddressStmt s)) :
    Sim T ((program cfg (fifo.ipc B)).next s) ((program cfg (T.ipc B)).next s') ∧
      AtMostOne ((program cfg (fifo.ipc B)).next s).kern := by
  have hirq' : (s'.kern.irq.pending && s'.kern.irq.enabled) =
      (s.kern.irq.pending && s.kern.irq.enabled) := by rw [h.kern, convKernel]
  have hcur' : s'.kern.current = s.kern.current := by rw [h.kern, convKernel]
  cases hirq : s.kern.irq.pending && s.kern.irq.enabled with
  | true =>
    rw [next_of_irq hirq, next_of_irq (hirq'.trans hirq), takeIrq_eq, takeIrq_eq]
    exact ⟨⟨by rw [h.kern]; rfl, h.code, h.mem, h.log⟩, hone⟩
  | false =>
    rw [hirq] at hirq'
    cases hcur : s.kern.current with
    | none =>
      rw [next_of_none hirq hcur, next_of_none hirq' (hcur'.trans hcur)]
      exact ⟨h, hone⟩
    | some t =>
      rw [hcur] at hcur'
      have hcode := h.code t
      cases hst : s.code t with
      | nil =>
        have hst' := List.forall₂_nil_left_iff.mp (hst ▸ hcode)
        rw [next_of_nil hirq hcur hst, next_of_nil hirq' hcur' hst']
        exact ⟨h, hone⟩
      | cons st rest =>
        obtain ⟨st', rest', hsim, hrest, hst'⟩ := List.forall₂_cons_left_iff.mp (hst ▸ hcode)
        simp only [State.AtStmt, hcur, hst] at hstmt
        rw [next_of_cons hirq hcur hst, next_of_cons hirq' hcur' hst']
        refine ⟨sim_exec T h hsim hrest hstmt, ?_⟩
        cases hsim with
        | @call c c' hc hcall =>
          have hcb : s.kern.call (c s.mem) = s.kern.callBy t (c s.mem) := by
            simp [Kernel.call, hcur]
          simp only [Prog.exec, documented_call, hcb]
          exact hone.callBy (hc s.mem) (fits_of_stmt hstmt)
        | _ => exact hone

theorem sim_start : Sim T (start cfg (fifo.ipc B)) (start cfg (T.ipc B)) where
  kern := by cases T <;> rfl
  code t := by
    by_cases ht : t = idleThread
    · have hbody : SimCode T (iTask cfg (fifo.ipc B)) (iTask cfg (T.ipc B)) :=
        sim_body B cfg T .iTask
      simpa [start, ht] using hbody
    · simp [start, ht]
  mem := rfl
  log := rfl

variable {K K' : Type} (Z : Zephyr K Thread Object Addr EntryFn)
  (Z' : Zephyr K' Thread Object Addr EntryFn)

theorem addressStmt_run (n : Nat) : (run cfg (T.ipc B) Z n).AtStmt
    (T.AddressStmt (run cfg (T.ipc B) Z n)) :=
  ((run_settles (protocol B cfg T) Z).2 n).mono fun _ _ h => h.2.2.2

/-- The runs go in lockstep. -/
theorem sim_run (n : Nat) : Sim T (run cfg (fifo.ipc B) Z n) (run cfg (T.ipc B) Z' n) ∧
    AtMostOne (run cfg (fifo.ipc B) Z n).kern := by
  induction n with
  | zero =>
    rw [run_zero, run_zero]
    exact ⟨sim_start T, fun o => by simp [start, Kernel.boot, held]⟩
  | succ n ih =>
    rw [run_succ, run_succ]
    exact sim_next T ih.1 ih.2 (addressStmt_run fifo Z n)

/-- The tests that pass an address have no more than one item under way, and
their runs are the same up to the renaming of the object. -/
theorem addresses_lockstep :
    Ends (run cfg (T.ipc B) Z') (Finished cfg (T.ipc B)) ∧ ∀ n,
      AtMostOne (run cfg (T.ipc B) Z' n).kern ∧
      (run cfg (T.ipc B) Z' n).AtStmt (T.AddressStmt (run cfg (T.ipc B) Z' n)) ∧
      (run cfg (T.ipc B) Z' n).AtStmt (SelfStmt cfg (T.ipc B) (run cfg (T.ipc B) Z' n)) ∧
      (run cfg (T.ipc B) Z' n).log = (run cfg (fifo.ipc B) Z n).log.map T.renameEntry ∧
      (run cfg (T.ipc B) Z' n).mem = (run cfg (fifo.ipc B) Z n).mem ∧
      (run cfg (T.ipc B) Z' n).kern = T.convKernel (run cfg (fifo.ipc B) Z n).kern := by
  have hsettles := run_settles (protocol B cfg T) Z'
  refine ⟨hsettles.1, fun n => ?_⟩
  obtain ⟨hsim, hone⟩ : Sim T (run cfg (fifo.ipc B) Z n) (run cfg (T.ipc B) Z' n) ∧ _ :=
    sim_run T Z Z' n
  refine ⟨fun o => ?_, addressStmt_run T Z' n, (hsettles.2 n).mono fun _ _ h => h.2.2.1,
    hsim.log, hsim.mem, hsim.kern⟩
  rw [hsim.kern, convKernel, held_convObj]
  exact hone o

end AddressTest

end ZephyrBench.Itc

/-
ZephyrBench.Rtos.Kernel — threads, the ready queue and the wait queues of a
preemptive uniprocessor kernel.

The kernel is the one of the Zephyr documentation: one CPU, fixed priorities
(a lower number is a higher priority), no time slicing. Ready threads stand in
one list in priority order, first come first served among equals, and the
running thread keeps its place in it, so the head of the list is the thread to
run. Every kernel object has a wait queue kept in the same order.

A state is generic in the thread names `T`, the object names `O` and the names
`A` of the data that programs hand to the kernel (items, buffers, message
descriptors). This module has the state and the scheduling primitives; the
objects are in `Rtos.Sync` and `Rtos.Transfer`.

A thread can be suspended and pended at once, as in Zephyr: it becomes ready
when it is neither. `wake` and `release` therefore put only those into the ready
queue that are not suspended (`awake`), and `threadResume` only one that is not
pended.

Left out is what no program of the repository does: timeouts other than
`K_NO_WAIT` and `K_FOREVER`, priorities that change, more than one CPU, and the
cooperative threads of negative priority.
-/
import Mathlib.Logic.Function.Basic
import ZephyrBench.PrioQueue

namespace ZephyrBench.Rtos

/-! ## 1. State -/

/-- How long a call may wait. -/
inductive Timeout
  | noWait
  | forever
  deriving DecidableEq

/-- Where a thread is pended: on the wait queue of an object, on the second
queue of an object that has one (the senders of a pipe or a mailbox), or
outside every queue. -/
inductive Pend (O : Type)
  | no
  | on (o : O)
  | onSend (o : O)
  | unqueued

/-- What a pended thread left for its waker: the buffer to fill, with its
length and the bytes already there, or its message descriptor. -/
inductive Swap (A : Type)
  | none
  | buffer (a : A) (len used : Nat)
  | message (a : A)

/-- The thread that a mailbox message still has to release. -/
inductive Syncing (T : Type)
  | none
  | thread (t : T)
  | async

/-- A mailbox message descriptor; `none` in a thread field is `K_ANY`. -/
structure MboxMsg (T A : Type) where
  info : Nat
  size : Nat
  txData : Option A
  rxSourceThread : Option T
  txTargetThread : Option T
  syncing : Syncing T

/-- A message on the send queue of a mailbox: the descriptor of a pended
sender, or the private copy of an asynchronous send. -/
inductive TxMsg (T A : Type)
  | desc (t : T) (a : A)
  | copy (prio : Nat) (m : MboxMsg T A)

/-- The state of a kernel object, its wait queue apart. -/
inductive Obj (T A : Type)
  | unset
  | sem (count limit : Nat)
  | event (bits : BitVec 32)
  | queue (items : List A)
  | stack (items : List A) (maxEntries : Nat)
  | msgq (msgSize maxMsgs : Nat) (msgs : List (List UInt8))
  | pipe (size offset : Nat) (bytes : List UInt8) (senders : List T)
  | mbox (senders : List (TxMsg T A))

/-- The interrupt line the programs use, and whether its handler is running. -/
structure Irq where
  enabled : Bool
  pending : Bool
  inIsr : Bool

/-- The data that kernel calls read and write for their callers: the values
handed to woken threads, the buffers and descriptors of the program, and the
free descriptors of asynchronous sends. -/
structure Data (T A : Type) where
  ret : T → Option A
  swap : T → Swap A
  buf : A → List UInt8
  msg : A → MboxMsg T A
  asyncFree : Nat

/-- A kernel state. -/
structure Kernel (T O A : Type) where
  current : Option T
  readyq : List T
  prio : T → Nat
  alive : T → Bool
  suspended : T → Bool
  pend : T → Pend O
  events : T → BitVec 32
  waitq : O → List T
  obj : O → Obj T A
  irq : Irq
  data : Data T A

/-- The threads of `ws` that are not suspended. -/
def awake {T : Type} (suspended : T → Bool) (ws : List T) : List T :=
  ws.filter fun t => !suspended t

namespace Kernel

variable {T O A : Type} [DecidableEq T] [DecidableEq O] [DecidableEq A] (k : Kernel T O A)

/-! ## 2. Scheduling primitives -/

/-- Give the CPU to the head of the ready queue, unless a handler runs: then
the switch waits for the end of the handler. -/
def reschedule : Kernel T O A :=
  { k with current := if k.irq.inIsr then k.current else k.readyq.head? }

/-- Put `t` into the ready queue, behind its equals. -/
def enqueue (t : T) : Kernel T O A :=
  { k with readyq := insertPrio k.prio t k.readyq }

/-- Take `t` out of the ready queue. -/
def dequeue (t : T) : Kernel T O A :=
  { k with readyq := k.readyq.erase t }

def setObj (o : O) (x : Obj T A) : Kernel T O A :=
  { k with obj := Function.update k.obj o x }

/-- Pend the running thread `t` on the wait queue of `o`. -/
def pendOn (t : T) (o : O) : Kernel T O A :=
  reschedule
    { k with
      readyq := k.readyq.erase t
      waitq := Function.update k.waitq o (insertPrio k.prio t (k.waitq o))
      pend := Function.update k.pend t (.on o) }

/-- Pend the running thread `t` at `p`, off the wait queues of `waitq`. -/
def pendAt (t : T) (p : Pend O) : Kernel T O A :=
  reschedule
    { k with
      readyq := k.readyq.erase t
      pend := Function.update k.pend t p }

/-- Unpend the threads `ws`, in that order, leaving `rest` on the wait queue
of `o`. A thread that is also suspended does not become ready. -/
def wake (o : O) (ws rest : List T) : Kernel T O A :=
  { k with
    waitq := Function.update k.waitq o rest
    pend := fun t => if t ∈ ws then .no else k.pend t
    readyq := enqueueAll k.prio (awake k.suspended ws) k.readyq }

/-- Unpend a thread that stands on no wait queue. -/
def release (t : T) : Kernel T O A :=
  { k with
    pend := Function.update k.pend t .no
    readyq := if k.suspended t then k.readyq else insertPrio k.prio t k.readyq }

/-! ## 3. Thread calls -/

/-- `k_thread_create()` with no start delay. -/
def threadCreate (t : T) (prio : Nat) : Kernel T O A :=
  let k' : Kernel T O A :=
    { k with
      prio := Function.update k.prio t prio
      alive := Function.update k.alive t true
      suspended := Function.update k.suspended t false
      pend := Function.update k.pend t .no }
  (k'.enqueue t).reschedule

/-- The senders of an object without `t`. -/
def dropSender (t : T) : Obj T A → Obj T A
  | .pipe size offset bytes senders => .pipe size offset bytes (senders.erase t)
  | .mbox senders => .mbox <| senders.filter fun
      | .desc u _ => u ≠ t
      | .copy _ _ => true
  | x => x

/-- `k_thread_abort()`: the thread leaves every queue and never runs again. -/
def threadAbort (t : T) : Kernel T O A :=
  reschedule
    { k with
      readyq := k.readyq.erase t
      alive := Function.update k.alive t false
      pend := Function.update k.pend t .no
      waitq := match k.pend t with
        | .on o => Function.update k.waitq o ((k.waitq o).erase t)
        | _ => k.waitq
      obj := match k.pend t with
        | .onSend o => Function.update k.obj o (dropSender t (k.obj o))
        | _ => k.obj }

/-- `k_thread_suspend()`; suspending a suspended thread does nothing. -/
def threadSuspend (t : T) : Kernel T O A :=
  if k.suspended t then k
  else reschedule
    { k with
      readyq := k.readyq.erase t
      suspended := Function.update k.suspended t true }

/-- `k_thread_resume()`; only a suspended thread can be resumed, and it stays
out of the ready queue while it is pended. -/
def threadResume (t : T) : Kernel T O A :=
  if k.suspended t then
    reschedule
      { k with
        suspended := Function.update k.suspended t false
        readyq := match k.pend t with
          | .no => insertPrio k.prio t k.readyq
          | _ => k.readyq }
  else k

/-- `k_yield()` by the running thread `t`: it goes behind its equals. -/
def yield (t : T) : Kernel T O A :=
  ((k.dequeue t).enqueue t).reschedule

end Kernel

end ZephyrBench.Rtos

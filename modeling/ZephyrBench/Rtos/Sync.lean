/-
ZephyrBench.Rtos.Sync — semaphores and event objects.

A give hands the semaphore to the head of the wait queue, or counts up to the
limit when nobody waits; in the second case the caller is not rescheduled. A
take that finds no count returns at once with `K_NO_WAIT` and pends with
`K_FOREVER`. A reset releases every waiter and clears the count.

A post ORs its bits into the event, wakes in queue order every waiter whose mask
meets the bits, and then clears what these waiters matched: every wait of the
programs is a `k_event_wait_safe()`, which consumes the bits it matches. The
bits are compared as they are after the post, so one post can wake several
waiters with the same mask, and what none of them wanted stays in the event.
`matching` and `notMatching` split the wait queue, and `consumedBits` is what
goes.
-/
import ZephyrBench.Rtos.Kernel

namespace ZephyrBench.Rtos.Kernel

variable {T O A : Type} [DecidableEq T] [DecidableEq O] [DecidableEq A] (k : Kernel T O A)

/-! ## 1. Semaphores -/

/-- `K_SEM_MAX_LIMIT`, the largest unsigned int. -/
def semMaxLimit : Nat := 0xFFFFFFFF

/-- `k_sem_init()`. -/
def semInit (o : O) (count limit : Nat) : Kernel T O A :=
  { k.setObj o (.sem count limit) with waitq := Function.update k.waitq o [] }

/-- `k_sem_give()`. -/
def semGive (o : O) : Kernel T O A :=
  match k.obj o with
  | .sem count limit =>
    match k.waitq o with
    | w :: ws => (k.wake o [w] ws).reschedule
    | [] => k.setObj o (.sem (if count = limit then count else count + 1) limit)
  | _ => k

/-- `k_sem_take()` by `me`. -/
def semTake (me : T) (o : O) (timeout : Timeout) : Kernel T O A :=
  match k.obj o with
  | .sem count limit =>
    if 0 < count then k.setObj o (.sem (count - 1) limit)
    else match timeout with
      | .noWait => k
      | .forever => k.pendOn me o
  | _ => k

/-- `k_sem_reset()`: every waiter is released and the count is zero. -/
def semReset (o : O) : Kernel T O A :=
  match k.obj o with
  | .sem _ limit => ((k.setObj o (.sem 0 limit)).wake o (k.waitq o) []).reschedule
  | _ => k

/-! ## 2. Events -/

/-- `k_event_init()`. -/
def eventInit (o : O) : Kernel T O A :=
  { k.setObj o (.event 0) with waitq := Function.update k.waitq o [] }

/-- The threads of `q` whose mask in `events` meets `bits`. -/
def matching (events : T → BitVec 32) (bits : BitVec 32) (q : List T) : List T :=
  q.filter fun t => events t &&& bits != 0

/-- The threads of `q` whose mask does not meet `bits`. -/
def notMatching (events : T → BitVec 32) (bits : BitVec 32) (q : List T) : List T :=
  q.filter fun t => events t &&& bits == 0

/-- The bits that the threads `ws` consume of `bits`. -/
def consumedBits (events : T → BitVec 32) (bits : BitVec 32) : List T → BitVec 32
  | [] => 0
  | t :: ws => (events t &&& bits) ||| consumedBits events bits ws

/-- `k_event_post()`. -/
def eventPost (o : O) (mask : BitVec 32) : Kernel T O A :=
  match k.obj o with
  | .event old =>
    let bits := old ||| mask
    let ws := matching k.events bits (k.waitq o)
    ((k.setObj o (.event (bits &&& ~~~consumedBits k.events bits ws))).wake o ws
      (notMatching k.events bits (k.waitq o))).reschedule
  | _ => k

/-- `k_event_clear()`. -/
def eventClear (o : O) (mask : BitVec 32) : Kernel T O A :=
  match k.obj o with
  | .event bits => k.setObj o (.event (bits &&& ~~~mask))
  | _ => k

/-- `k_event_wait_safe()` by `me`, without reset, for any bit of `mask`. -/
def eventWaitSafe (me : T) (o : O) (mask : BitVec 32) (timeout : Timeout) : Kernel T O A :=
  match k.obj o with
  | .event bits =>
    if mask &&& bits != 0 then k.setObj o (.event (bits &&& ~~~mask))
    else match timeout with
      | .noWait => k
      | .forever =>
        { k with events := Function.update k.events me mask }.pendOn me o
  | _ => k

end ZephyrBench.Rtos.Kernel

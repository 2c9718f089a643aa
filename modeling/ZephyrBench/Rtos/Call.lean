/-
ZephyrBench.Rtos.Call — the kernel's call interface.

`Call` lists the calls a thread or an interrupt handler can make, `Kernel.call`
says what each of them does to the kernel. The caller is the running thread;
what the call makes of it shows in the next state: it goes on running, or it is
pended, suspended or preempted.

A call has no result of its own. What `k_fifo_get()` and the other calls of this
kind return is a field of the data of the kernel, written when the call ends or
when a waker completes it, and read by the next statement of the caller. So a
call that blocks is one transition and not two, and the thread goes on behind it
when it is made ready.

A mailbox receive is made of two calls, `kMboxGet` and `kMboxDataCheck`: the
second is the part of `k_mbox_get()` that runs in the receiver after it has been
matched, and other threads may run in between.

`isrEnter` and `isrExit` enclose the calls of the handler: while it runs no call
switches threads, and the exit reschedules if the handler asks for it.
-/
import ZephyrBench.Rtos.Sync
import ZephyrBench.Rtos.Transfer

namespace ZephyrBench.Rtos

/-- A kernel call. `T`, `O`, `A` and `F` name threads, kernel objects, data
and thread entry functions. -/
inductive Call (T O A F : Type)
  -- threads
  | kThreadCreate (t : T) (entry : F) (prio : Nat)
  | kThreadAbort (t : T)
  | kThreadSuspend (t : T)
  | kThreadSuspendCurrent
  | kThreadResume (t : T)
  | kYield
  -- semaphores and events
  | kSemInit (o : O) (count limit : Nat)
  | kSemGive (o : O)
  | kSemTake (o : O) (timeout : Timeout)
  | kSemReset (o : O)
  | kEventInit (o : O)
  | kEventPost (o : O) (mask : BitVec 32)
  | kEventClear (o : O) (mask : BitVec 32)
  | kEventWaitSafe (o : O) (mask : BitVec 32) (timeout : Timeout)
  -- message passing
  | kFifoInit (o : O)
  | kFifoPut (o : O) (item : A)
  | kFifoGet (o : O) (timeout : Timeout)
  | kLifoInit (o : O)
  | kLifoPut (o : O) (item : A)
  | kLifoGet (o : O) (timeout : Timeout)
  | kStackInit (o : O) (maxEntries : Nat)
  | kStackPush (o : O) (item : A)
  | kStackPop (o : O) (timeout : Timeout)
  | kMsgqInit (o : O) (msgSize maxMsgs : Nat)
  | kMsgqPut (o : O) (src : A) (timeout : Timeout)
  | kMsgqGet (o : O) (dst : A) (timeout : Timeout)
  | kPipeInit (o : O) (size : Nat)
  | kPipeWrite (o : O) (src : A) (len : Nat) (timeout : Timeout)
  | kPipeRead (o : O) (dst : A) (len : Nat) (timeout : Timeout)
  | kPipeReset (o : O)
  | kMboxInit (o : O)
  | kMboxPut (o : O) (msg : A) (timeout : Timeout)
  | kMboxAsyncPut (o : O) (msg : A)
  | kMboxGet (o : O) (msg : A) (timeout : Timeout)
  | kMboxDataCheck (msg dst : A)
  -- the descriptors of messages, which programs and kernel share
  | storeMsg (msg : A) (field : MsgField T A)
  -- the interrupt line of the programs
  | irqEnable
  | irqDisable
  | nvicSetPendingIrq
  | nvicClearPendingIrq
  deriving DecidableEq

namespace Kernel

variable {T O A F : Type} [DecidableEq T] [DecidableEq O] [DecidableEq A] (k : Kernel T O A)

def setIrq (irq : Irq) : Kernel T O A := { k with irq }

/-- The effect of a call by the running thread `me`. -/
def callBy (me : T) : Call T O A F → Kernel T O A
  | .kThreadCreate t _ prio => k.threadCreate t prio
  | .kThreadAbort t => k.threadAbort t
  | .kThreadSuspend t => k.threadSuspend t
  | .kThreadSuspendCurrent => k.threadSuspend me
  | .kThreadResume t => k.threadResume t
  | .kYield => k.yield me
  | .kSemInit o count limit => k.semInit o count limit
  | .kSemGive o => k.semGive o
  | .kSemTake o timeout => k.semTake me o timeout
  | .kSemReset o => k.semReset o
  | .kEventInit o => k.eventInit o
  | .kEventPost o mask => k.eventPost o mask
  | .kEventClear o mask => k.eventClear o mask
  | .kEventWaitSafe o mask timeout => k.eventWaitSafe me o mask timeout
  | .kFifoInit o => k.initObj o (.queue [])
  | .kFifoPut o item => k.queueInsert true o item
  | .kFifoGet o timeout => k.queueGet me o timeout
  | .kLifoInit o => k.initObj o (.queue [])
  | .kLifoPut o item => k.queueInsert false o item
  | .kLifoGet o timeout => k.queueGet me o timeout
  | .kStackInit o maxEntries => k.initObj o (.stack [] maxEntries)
  | .kStackPush o item => k.stackPush o item
  | .kStackPop o timeout => k.stackPop me o timeout
  | .kMsgqInit o msgSize maxMsgs => k.initObj o (.msgq msgSize maxMsgs [])
  | .kMsgqPut o src timeout => k.msgqPut me o src timeout
  | .kMsgqGet o dst timeout => k.msgqGet me o dst timeout
  | .kPipeInit o size => k.initObj o (.pipe size 0 [] [])
  | .kPipeWrite o src len timeout => k.pipeWrite me o src len timeout
  | .kPipeRead o dst len timeout => k.pipeRead me o dst len timeout
  | .kPipeReset o => k.pipeReset o
  | .kMboxInit o => k.initObj o (.mbox [])
  | .kMboxPut o msg timeout => k.mboxPut me o msg timeout
  | .kMboxAsyncPut o msg => k.mboxAsyncPut me o msg
  | .kMboxGet o msg timeout => k.mboxGet me o msg timeout
  | .kMboxDataCheck msg dst => k.mboxDataCheck msg dst
  | .storeMsg msg field => k.storeMsg msg field
  | .irqEnable => k.setIrq { k.irq with enabled := true }
  | .irqDisable => k.setIrq { k.irq with enabled := false }
  | .nvicSetPendingIrq => k.setIrq { k.irq with pending := true }
  | .nvicClearPendingIrq => k.setIrq { k.irq with pending := false }

/-- The effect of a call; the idle CPU makes none. -/
def call (c : Call T O A F) : Kernel T O A :=
  match k.current with
  | none => k
  | some me => k.callBy me c

/-- Entry of the interrupt handler: the pending interrupt is taken, and calls
of the handler no longer switch threads. -/
def isrEnter : Kernel T O A := k.setIrq { k.irq with pending := false, inIsr := true }

/-- Exit of the interrupt handler, with or without a reschedule. -/
def isrExit (resched : Bool) : Kernel T O A :=
  let k' := k.setIrq { k.irq with inIsr := false }
  if resched then k'.reschedule else k'

/-- The state at boot: `t` is the only thread, every object is unset. -/
def boot (t : T) (prio : Nat) (data : Data T A) : Kernel T O A where
  current := some t
  readyq := [t]
  prio := Function.update (fun _ => 0) t prio
  alive := Function.update (fun _ => false) t true
  suspended _ := false
  pend _ := .no
  events _ := 0
  waitq _ := []
  obj _ := .unset
  irq := { enabled := false, pending := false, inIsr := false }
  data

end Kernel

end ZephyrBench.Rtos

/-
ZephyrBench.Rtos.Transfer — the objects that pass messages between threads.

`k_fifo` and `k_lifo` are one queue of addresses with an insertion at either
end, `k_stack` is a bounded array of addresses, `k_msgq` a ring of fixed-size
messages, `k_pipe` a byte ring, `k_mbox` a meeting point that stores nothing
but senders. All of them serve a waiting receiver before they store anything;
the first three hand it the value, `k_msgq` and `k_pipe` copy into its buffer,
and `k_mbox` leaves the copy to the receiver.

A thread that has to wait leaves in `Data.swap` what its waker needs: the buffer
to fill and the bytes it already has, or its message descriptor. A waker works
on these and on nothing of the thread's code, so a transfer is complete when the
waiting thread is made ready, and it only goes on behind its call.

The wait queue of an object holds its receivers. A pipe and a mailbox also have
senders that wait; these stand in the object itself, with what they still have
to give, and are pended off the wait queues (`pendAt`).
-/
import ZephyrBench.Rtos.Kernel

namespace ZephyrBench.Rtos

variable {T O A : Type} [DecidableEq T] [DecidableEq O] [DecidableEq A]

/-- Overwrite `dst` with `bytes` from byte `off` on. -/
def copyAt (dst : List UInt8) (off : Nat) (bytes : List UInt8) : List UInt8 :=
  dst.take off ++ bytes ++ dst.drop (off + bytes.length)

/-- A field of a message descriptor that programs set, with its new value. -/
inductive MsgField (T A : Type)
  | info (n : Nat)
  | size (n : Nat)
  | txData (a : A)
  | rxSourceThread (t : Option T)
  | txTargetThread (t : Option T)
  deriving DecidableEq

def MsgField.store (m : MboxMsg T A) : MsgField T A → MboxMsg T A
  | .info n => { m with info := n }
  | .size n => { m with size := n }
  | .txData a => { m with txData := some a }
  | .rxSourceThread t => { m with rxSourceThread := t }
  | .txTargetThread t => { m with txTargetThread := t }

namespace Data

variable (d : Data T A)

def setRet (t : T) (v : Option A) : Data T A :=
  { d with ret := Function.update d.ret t v }

def setSwap (t : T) (v : Swap A) : Data T A :=
  { d with swap := Function.update d.swap t v }

def setMsg (a : A) (m : MboxMsg T A) : Data T A :=
  { d with msg := Function.update d.msg a m }

/-- `memcpy()` of `bytes` into the buffer `a`, from byte `off` on. -/
def copyTo (a : A) (off : Nat) (bytes : List UInt8) : Data T A :=
  { d with buf := Function.update d.buf a (copyAt (d.buf a) off bytes) }

end Data

namespace Kernel

variable (k : Kernel T O A)

def setData (d : Data T A) : Kernel T O A := { k with data := d }

/-- Initialise an object; it has no waiters. -/
def initObj (o : O) (x : Obj T A) : Kernel T O A :=
  { k.setObj o x with waitq := Function.update k.waitq o [] }

/-! ## 1. Queues of addresses -/

/-- `k_fifo_put()` (`atTail`) and `k_lifo_put()`. -/
def queueInsert (atTail : Bool) (o : O) (item : A) : Kernel T O A :=
  match k.obj o with
  | .queue items =>
    match k.waitq o with
    | w :: ws => ((k.setData (k.data.setRet w (some item))).wake o [w] ws).reschedule
    | [] => k.setObj o (.queue (if atTail then items ++ [item] else item :: items))
  | _ => k

/-- `k_fifo_get()` and `k_lifo_get()` by `me`. -/
def queueGet (me : T) (o : O) (timeout : Timeout) : Kernel T O A :=
  match k.obj o with
  | .queue (item :: items) => (k.setObj o (.queue items)).setData (k.data.setRet me (some item))
  | .queue [] =>
    match timeout with
    | .noWait => k.setData (k.data.setRet me none)
    | .forever => k.pendOn me o
  | _ => k

/-- `k_stack_push()`; a full stack refuses the value. -/
def stackPush (o : O) (item : A) : Kernel T O A :=
  match k.obj o with
  | .stack items maxEntries =>
    if items.length = maxEntries then k
    else match k.waitq o with
      | w :: ws => ((k.setData (k.data.setRet w (some item))).wake o [w] ws).reschedule
      | [] => k.setObj o (.stack (item :: items) maxEntries)
  | _ => k

/-- `k_stack_pop()` by `me`. -/
def stackPop (me : T) (o : O) (timeout : Timeout) : Kernel T O A :=
  match k.obj o with
  | .stack (item :: items) maxEntries =>
    (k.setObj o (.stack items maxEntries)).setData (k.data.setRet me (some item))
  | .stack [] _ =>
    match timeout with
    | .noWait => k
    | .forever => k.pendOn me o
  | _ => k

/-! ## 2. Message queues -/

/-- `k_msgq_put()` by `me` of the message in the buffer `src`. -/
def msgqPut (me : T) (o : O) (src : A) (timeout : Timeout) : Kernel T O A :=
  match k.obj o with
  | .msgq msgSize maxMsgs msgs =>
    let m := (k.data.buf src).take msgSize
    if msgs.length < maxMsgs then
      match k.waitq o with
      | w :: ws =>
        -- the queue is not full, so the waiter is a receiver
        let d := match k.data.swap w with
          | .buffer dst _ _ => k.data.copyTo dst 0 m
          | _ => k.data
        ((k.setData d).wake o [w] ws).reschedule
      | [] => k.setObj o (.msgq msgSize maxMsgs (msgs ++ [m]))
    else match timeout with
      | .noWait => k
      | .forever => (k.setData (k.data.setSwap me (.buffer src msgSize 0))).pendOn me o
  | _ => k

/-- `k_msgq_get()` by `me` into the buffer `dst`. -/
def msgqGet (me : T) (o : O) (dst : A) (timeout : Timeout) : Kernel T O A :=
  match k.obj o with
  | .msgq msgSize maxMsgs (m :: msgs) =>
    let k' := k.setData (k.data.copyTo dst 0 m)
    match k.waitq o with
    | w :: ws =>
      -- the queue was full and `w` is a sender: its message takes the free place
      let stored := match k.data.swap w with
        | .buffer src _ _ => msgs ++ [(k.data.buf src).take msgSize]
        | _ => msgs
      ((k'.setObj o (.msgq msgSize maxMsgs stored)).wake o [w] ws).reschedule
    | [] => k'.setObj o (.msgq msgSize maxMsgs msgs)
  | .msgq msgSize _ [] =>
    match timeout with
    | .noWait => k
    | .forever => (k.setData (k.data.setSwap me (.buffer dst msgSize 0))).pendOn me o
  | _ => k

/-! ## 3. Pipes -/

/-- Copy `bytes` to the waiting readers `ws`, the first one first; a reader
stays pended until it has all it asked for. Returns the data, the readers to
wake, those that stay and the bytes nobody took. -/
def copyToPendingReaders (d : Data T A) :
    List T → List UInt8 → Data T A × List T × List T × List UInt8
  | [], bytes => (d, [], [], bytes)
  | w :: ws, bytes =>
    match bytes, d.swap w with
    | [], _ => (d, [], w :: ws, [])
    | _, .buffer dst len used =>
      let part := bytes.take (len - used)
      let d' := (d.copyTo dst used part).setSwap w (.buffer dst len (used + part.length))
      if used + part.length < len then (d', [], w :: ws, bytes.drop (len - used))
      else
        let (d'', woken, rest, left) := copyToPendingReaders d' ws (bytes.drop (len - used))
        (d'', w :: woken, rest, left)
    | _, _ => (d, [], w :: ws, bytes)

/-- `k_pipe_write()` by `me` of the first `len` bytes of `src`: first to the
waiting readers of an empty pipe, then into the ring. A message that does not
fit leaves the writer pended. -/
def pipeWrite (me : T) (o : O) (src : A) (len : Nat) (timeout : Timeout) : Kernel T O A :=
  match k.obj o with
  | .pipe size offset bytes senders =>
    let data := (k.data.buf src).take len
    let (d, woken, rest, left) :=
      if bytes = [] then copyToPendingReaders k.data (k.waitq o) data
      else (k.data, [], k.waitq o, data)
    let stored := left.take (size - bytes.length)
    let k' := ((k.setData d).wake o woken rest).setObj o
      (.pipe size offset (bytes ++ stored) senders)
    if stored.length = left.length then
      if woken = [] then k' else k'.reschedule
    else match timeout with
      | .noWait => if woken = [] then k' else k'.reschedule
      | .forever =>
        let k'' :=
          k'.setData (k'.data.setSwap me (.buffer src len (len - left.length + stored.length)))
        (k''.setObj o (.pipe size offset (bytes ++ stored) (senders ++ [me]))).pendAt me (.onSend o)
  | _ => k

/-- Move the bytes of pended writers into the free room of the ring. Returns
the ring, the writers that are done and those that stay. -/
def refill (d : Data T A) (size : Nat) :
    List T → List UInt8 → Data T A × List T × List T × List UInt8
  | [], bytes => (d, [], [], bytes)
  | w :: ws, bytes =>
    match d.swap w with
    | .buffer src len used =>
      let part := (((d.buf src).take len).drop used).take (size - bytes.length)
      let d' := d.setSwap w (.buffer src len (used + part.length))
      if used + part.length < len then (d', [], w :: ws, bytes ++ part)
      else
        let (d'', ready, rest, ring) := refill d' size ws (bytes ++ part)
        (d'', w :: ready, rest, ring)
    | _ => (d, [], w :: ws, bytes)

/-- `k_pipe_read()` by `me` of `len` bytes into `dst`. -/
def pipeRead (me : T) (o : O) (dst : A) (len : Nat) (timeout : Timeout) : Kernel T O A :=
  match k.obj o with
  | .pipe size offset bytes senders =>
    let part := bytes.take len
    let (d, woken, rest, ring) :=
      refill (k.data.copyTo dst 0 part) size senders (bytes.drop len)
    let offset' := if size = 0 then 0 else (offset + part.length) % size
    let k' := woken.foldl (fun k t => k.release t)
      ((k.setData d).setObj o (.pipe size offset' ring rest))
    if part.length = len then
      if woken = [] then k' else k'.reschedule
    else match timeout with
      | .noWait => if woken = [] then k' else k'.reschedule
      | .forever => (k'.setData (d.setSwap me (.buffer dst len part.length))).pendOn me o
  | _ => k

/-- `k_pipe_reset()`: the ring is emptied and every waiter is released. -/
def pipeReset (o : O) : Kernel T O A :=
  match k.obj o with
  | .pipe size _ _ senders =>
    (senders.foldl (fun k t => k.release t)
      ((k.setObj o (.pipe size 0 [] [])).wake o (k.waitq o) [])).reschedule
  | _ => k

/-! ## 4. Mailboxes -/

/-- A store of the program to a field of the descriptor `a`. -/
def storeMsg (a : A) (field : MsgField T A) : Kernel T O A :=
  k.setData (k.data.setMsg a (field.store (k.data.msg a)))

/-- Are the two descriptors for each other, and what the match makes of them:
the thread fields name the peers, the infos are swapped, the receiver's size
shrinks to the sender's, and the receiver learns where the data are and whom
to release. -/
def mboxMatch (tx rx : MboxMsg T A) : Option (MboxMsg T A × MboxMsg T A) :=
  if (tx.txTargetThread = none ∨ tx.txTargetThread = rx.txTargetThread) ∧
      (rx.rxSourceThread = none ∨ rx.rxSourceThread = tx.rxSourceThread) then
    some
      ({ tx with txTargetThread := rx.txTargetThread, info := rx.info },
       { rx with
          rxSourceThread := tx.rxSourceThread
          info := tx.info
          size := if tx.size < rx.size then tx.size else rx.size
          txData := tx.txData
          syncing := tx.syncing })
  else none

/-- The first waiting receiver whose descriptor matches `tx`: the receiver,
its descriptor's name and both descriptors after the match. -/
def findReceiver (d : Data T A) (tx : MboxMsg T A) :
    List T → Option (T × A × MboxMsg T A × MboxMsg T A)
  | [] => none
  | w :: ws =>
    match d.swap w with
    | .message a =>
      match mboxMatch tx (d.msg a) with
      | some (tx', rx') => some (w, a, tx', rx')
      | none => findReceiver d tx ws
    | _ => findReceiver d tx ws

/-- The priority of an entry of the send queue. -/
def txPrio : TxMsg T A → Nat
  | .desc t _ => k.prio t
  | .copy p _ => p

/-- `k_mbox_put()` by `me` with the descriptor `a`: a waiting receiver is made
ready, and the sender pends, outside every queue, until that receiver has taken
the message. -/
def mboxPut (me : T) (o : O) (a : A) (timeout : Timeout) : Kernel T O A :=
  match k.obj o with
  | .mbox senders =>
    let tx := { k.data.msg a with syncing := .thread me, rxSourceThread := some me }
    let d := (k.data.setMsg a tx).setSwap me (.message a)
    match findReceiver d tx (k.waitq o) with
    | some (w, b, tx', rx') =>
      ((k.setData ((d.setMsg a tx').setMsg b rx')).wake o [w] ((k.waitq o).erase w)).pendAt me
        .unqueued
    | none =>
      match timeout with
      | .noWait => k.setData d
      | .forever =>
        ((k.setData d).setObj o
          (.mbox (insertPrio k.txPrio (.desc me a) senders))).pendAt me (.onSend o)
  | _ => k

/-- `k_mbox_async_put()` by `me` with the descriptor `a` and no semaphore: the
message travels in a private copy, taken from the pool of free descriptors. -/
def mboxAsyncPut (me : T) (o : O) (a : A) : Kernel T O A :=
  match k.obj o with
  | .mbox senders =>
    if k.data.asyncFree = 0 then k.pendAt me .unqueued
    else
      let tx := { k.data.msg a with syncing := .async, rxSourceThread := some me }
      let d := { k.data with asyncFree := k.data.asyncFree - 1 }
      match findReceiver d tx (k.waitq o) with
      | some (w, b, _, rx') =>
        ((k.setData (d.setMsg b rx')).wake o [w] ((k.waitq o).erase w)).reschedule
      | none =>
        (k.setData d).setObj o (.mbox (insertPrio k.txPrio (.copy (k.prio me) tx) senders))
  | _ => k

/-- The first entry of the send queue that matches `rx`: the data after the
match, the receiver's descriptor, and the queue without the entry. -/
def findSender (d : Data T A) (rx : MboxMsg T A) :
    List (TxMsg T A) → Option (TxMsg T A × Data T A × MboxMsg T A × List (TxMsg T A))
  | [] => none
  | e :: es =>
    let tx := match e with
      | .desc _ a => d.msg a
      | .copy _ m => m
    match mboxMatch tx rx with
    | some (tx', rx') =>
      let d' := match e with
        | .desc _ a => d.setMsg a tx'
        | .copy _ _ => d
      some (e, d', rx', es)
    | none =>
      match findSender d rx es with
      | some (e', d', rx', es') => some (e', d', rx', e :: es')
      | none => none

/-- `k_mbox_get()` by `me` with the descriptor `a`, up to the point where a
sender has been matched. The rest of the call is `mboxDataCheck`. -/
def mboxGet (me : T) (o : O) (a : A) (timeout : Timeout) : Kernel T O A :=
  match k.obj o with
  | .mbox senders =>
    let rx := { k.data.msg a with txTargetThread := some me }
    let d := k.data.setMsg a rx
    match findSender d rx senders with
    | some (e, d', rx', rest) =>
      let k' := (k.setData (d'.setMsg a rx')).setObj o (.mbox rest)
      match e with
      | .desc t _ => { k' with pend := Function.update k.pend t .unqueued }
      | .copy _ _ => k'
    | none =>
      match timeout with
      | .noWait => k.setData d
      | .forever => (k.setData (d.setSwap me (.message a))).pendOn me o
  | _ => k

/-- The rest of `k_mbox_get()` once a sender has been matched: copy the data,
then release the sender, or free the descriptor of an asynchronous send. -/
def mboxDataCheck (a : A) (dst : A) : Kernel T O A :=
  let rx := k.data.msg a
  let d := match rx.txData with
    | some src =>
      if 0 < rx.size then k.data.copyTo dst 0 ((k.data.buf src).take rx.size) else k.data
    | none => k.data
  match rx.syncing with
  | .none => k.setData d
  | .async =>
    k.setData { d.setMsg a { rx with syncing := .none } with asyncFree := d.asyncFree + 1 }
  | .thread t =>
    let d' := d.setMsg a { rx with syncing := .none }
    let d'' := match d.swap t with
      | .message b => d'.setMsg b { d'.msg b with size := rx.size }
      | _ => d'
    ((k.setData d'').release t).reschedule

end Kernel

end ZephyrBench.Rtos

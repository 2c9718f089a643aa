/-
ZephyrBench.Itc.Tests — the eight tests of inter-task communication.

What each of `fifo.c`, `lifo.c`, `stack.c`, `msgq.c`, `pipe_async.c`,
`pipe_sync.c`, `mailbox_async.c` and `mailbox_sync.c` puts into the common
programs: the objects, how `I_Task` initialises them, the transfers, and what is
prepared before a transfer.

  * The tests that pass an address are one definition with the calls as
    parameters (`addressIpc`).
  * `msgq` has a queue for every step, and the control task selects it.
  * The pipe tests set the message size of the step. `pipe_sync` has one pipe
    without a buffer for both directions and initialises it again in between.
  * The mailbox tests arm both descriptors before every message, and the receiver
    fetches the data after the match.

`pipe_sync` and `mailbox_sync` have a second stop marker and no `T_Self`.
-/
import ZephyrBench.Itc.Common

namespace ZephyrBench.Itc

open Rtos

variable {B : Bmth} (cfg : Config)

/-! ## 1. Addresses: fifo, lifo, stack -/

/-- The tests that pass the address of `test_item`. -/
def addressIpc (init put getSelf get : Object → Call Thread Object Addr EntryFn) : Ipc B where
  hasSelf := true
  rendezvous := false
  selfChannel _ := .self 0
  channel d _ := .dir d 0
  init :=
    [ kcall (init (.chan (.self 0))),
      kcall (init (.chan (.dir .up 0))),
      kcall (init (.chan (.dir .down 0))) ]
  before _ := []
  selectSelf _ := []
  transferSelf _ :=
    [ kcall (put (.chan (.self 0))),
      kcall (getSelf (.chan (.self 0))),
      .prim (.assign .rxItem) ]
  select _ _ := []
  arm := []
  send d _ := put (.chan (.dir d 0))
  recv d _ := get (.chan (.dir d 0))
  received := [.prim (.assign .rxItem)]
  finish _ := []

def fifo : Ipc B :=
  addressIpc .kFifoInit (.kFifoPut · .testItem) (.kFifoGet · .noWait) (.kFifoGet · .forever)

def lifo : Ipc B :=
  addressIpc .kLifoInit (.kLifoPut · .testItem) (.kLifoGet · .forever) (.kLifoGet · .forever)

def stackMaxEntries : Nat := 1

def stack : Ipc B :=
  addressIpc (.kStackInit · stackMaxEntries) (.kStackPush · .testItem) (.kStackPop · .forever)
    (.kStackPop · .forever)

/-! ## 2. Message queues -/

def msgqMaxMsgs : Nat := 1

/-- The loop of `I_Task` that initialises the queues, from step `n` on. -/
def initMsgqs (n : Nat) : Statement B :=
  .forUp n (fun n => n < cfg.messageSizeSteps) fun n =>
    [ kcall (.kMsgqInit (.chan (.self n)) (messageSize n) msgqMaxMsgs),
      kcall (.kMsgqInit (.chan (.dir .up n)) (messageSize n) msgqMaxMsgs),
      kcall (.kMsgqInit (.chan (.dir .down n)) (messageSize n) msgqMaxMsgs) ]

/-- One queue for every step; `active_msgq` points to the one of the step. -/
def msgq : Ipc B where
  hasSelf := true
  rendezvous := false
  selfChannel n := .self n
  channel d n := .dir d n
  init := [initMsgqs cfg 0]
  before _ := []
  selectSelf _ := []
  transferSelf n :=
    [ kcall (.kMsgqPut (.chan (.self n)) .txBuffer .forever),
      kcall (.kMsgqGet (.chan (.self n)) .rxBuffer .forever) ]
  select d n := [.prim (.assign (.activeMsgq (.dir d n)))]
  arm := []
  send _ vars := .kMsgqPut (.chan vars.activeMsgq) .txBuffer .forever
  recv _ vars := .kMsgqGet (.chan vars.activeMsgq) .rxBuffer .forever
  received := []
  finish _ := []

/-! ## 3. Pipes -/

/-- `PIPE_BUFFER_SIZE`. -/
def pipeBufferSize : Nat := messageSizeMax cfg

def pipeAsync : Ipc B where
  hasSelf := true
  rendezvous := false
  selfChannel _ := .self 0
  channel d _ := .dir d 0
  init :=
    [ kcall (.kPipeInit (.chan (.self 0)) (pipeBufferSize cfg)),
      kcall (.kPipeInit (.chan (.dir .up 0)) (pipeBufferSize cfg)),
      kcall (.kPipeInit (.chan (.dir .down 0)) (pipeBufferSize cfg)) ]
  before _ := []
  selectSelf _ := []
  transferSelf n :=
    [ kcall (.kPipeWrite (.chan (.self 0)) .txBuffer (messageSize n) .forever),
      kcall (.kPipeRead (.chan (.self 0)) .rxBuffer (messageSize n) .forever) ]
  select _ n := [.prim (.assign (.messageSize (messageSize n)))]
  arm := []
  send d vars := .kPipeWrite (.chan (.dir d 0)) .txBuffer vars.messageSize .forever
  recv d vars := .kPipeRead (.chan (.dir d 0)) .rxBuffer vars.messageSize .forever
  received := []
  finish d := [kcall (.kPipeReset (.chan (.dir d 0)))]

/-- `test_pipe`, without a buffer, serves both directions; it is initialised
again in between. -/
def pipeSync : Ipc B where
  hasSelf := false
  rendezvous := true
  selfChannel _ := .null
  channel _ _ := .dir .up 0
  init := [kcall (.kPipeInit (.chan (.dir .up 0)) 0)]
  before
    | .up => []
    | .down => [kcall (.kPipeInit (.chan (.dir .up 0)) 0)]
  selectSelf _ := []
  transferSelf _ := []
  select _ n := [.prim (.assign (.messageSize (messageSize n)))]
  arm := []
  send _ vars := .kPipeWrite (.chan (.dir .up 0)) .txBuffer vars.messageSize .forever
  recv _ vars := .kPipeRead (.chan (.dir .up 0)) .rxBuffer vars.messageSize .forever
  received := []
  finish _ := []

/-! ## 4. Mailboxes -/

def armDescriptors : Code B :=
  [ kcall (.storeMsg .txMsg (.info 0)),
    .call fun mem => .storeMsg .txMsg (.size mem.vars.messageSize),
    kcall (.storeMsg .txMsg (.txData .txBuffer)),
    kcall (.storeMsg .txMsg (.txTargetThread none)),
    kcall (.storeMsg .rxMsg (.info 0)),
    .call fun mem => .storeMsg .rxMsg (.size mem.vars.messageSize),
    kcall (.storeMsg .rxMsg (.rxSourceThread none)) ]

/-- `message_size = MESSAGE_SIZE_MIN` and `arm_descriptors()` in `I_Task`. -/
def rearmDescriptors : Code B :=
  .prim (.assign (.messageSize messageSizeMin)) :: armDescriptors

def mailboxAsync : Ipc B where
  hasSelf := true
  rendezvous := false
  selfChannel _ := .self 0
  channel d _ := .dir d 0
  init :=
    [ kcall (.kMboxInit (.chan (.self 0))),
      kcall (.kMboxInit (.chan (.dir .up 0))),
      kcall (.kMboxInit (.chan (.dir .down 0))) ] ++ armDescriptors
  before _ := rearmDescriptors
  selectSelf n := [.prim (.assign (.messageSize (messageSize n)))]
  transferSelf _ :=
    [ kcall (.kMboxAsyncPut (.chan (.self 0)) .txMsg),
      kcall (.kMboxGet (.chan (.self 0)) .rxMsg .forever),
      kcall (.kMboxDataCheck .rxMsg .rxBuffer) ]
  select _ n := [.prim (.assign (.messageSize (messageSize n)))]
  arm := armDescriptors
  send d _ := .kMboxAsyncPut (.chan (.dir d 0)) .txMsg
  recv d _ := .kMboxGet (.chan (.dir d 0)) .rxMsg .forever
  received := [.call (.kMboxDataCheck .rxMsg .rxBuffer)]
  finish _ := []

def mailboxSync : Ipc B where
  hasSelf := false
  rendezvous := true
  selfChannel _ := .null
  channel d _ := .dir d 0
  init :=
    [ kcall (.kMboxInit (.chan (.dir .up 0))),
      kcall (.kMboxInit (.chan (.dir .down 0))) ] ++ armDescriptors
  before
    | .up => []
    | .down => rearmDescriptors
  selectSelf _ := []
  transferSelf _ := []
  select _ n := [.prim (.assign (.messageSize (messageSize n)))]
  arm := armDescriptors
  send d _ := .kMboxPut (.chan (.dir d 0)) .txMsg .forever
  recv d _ := .kMboxGet (.chan (.dir d 0)) .rxMsg .forever
  received := [.call (.kMboxDataCheck .rxMsg .rxBuffer)]
  finish _ := []

end ZephyrBench.Itc

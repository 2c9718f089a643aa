/-
ZephyrBench.Itc.Messages — what is claimed of the messages.

A message of step `n` is the first `MESSAGE_SIZE_MIN << n` bytes of `tx_buffer`.
The claims are about single statements, in the state that finds them next:

  * `SelfTransferStmt` — `T_Self` sends into an empty object, receives from one
    that holds the message and nothing else, and has the message in `rx_buffer`
    at its stop marker.
  * `SweepStmt` — the receiver asks for a message of the step that the sender
    sends and whose series is iterated, the sender finds that receiver waiting,
    and at the receiver's stop marker the message is in `rx_buffer`.

`reads` is a parameter of the second: what a test's sweep variable has to be in
step `n`. `Awaits` and `Delivers` are what the two calls find; the latter also
says what the call makes of it, so that a transfer which keeps a byte back would
not satisfy it.
-/
import ZephyrBench.Itc.RunTheorems
import ZephyrBench.Itc.Tests

namespace ZephyrBench.Itc

open Rtos Rtos.Exec Thread Object Series Marker

variable {B : Bmth} (cfg : Config) (ipc : Ipc B)

/-! ## 1. Steps and messages -/

/-- The scenario of `t` iterates the series of step `n`. -/
def Iterates (s : TestState B) (n : Nat) : Thread → Prop
  | tSelfThread => nextSeries (s.code tSelfThread) = some (.selfSend n)
  | tSendThread d | tRecvThread d => nextSeries (s.code tArmThread) = some (.sendTo d n)
  | _ => False

/-- The message of step `n`. -/
def message (n : Nat) (d : Data Thread Addr) : List UInt8 := (d.buf .txBuffer).take (messageSize n)

/-- The message of step `n` is in `rx_buffer`. -/
def Copied (n : Nat) (d : Data Thread Addr) : Prop :=
  (d.buf .rxBuffer).take (messageSize n) = message n d

/-- The object holds the message of step `n`, and nothing else. -/
def Stored (n : Nat) (d : Data Thread Addr) : Obj Thread Addr → Prop
  | .queue items => items = [.testItem]
  | .stack items _ => items = [.testItem]
  | .msgq _ _ msgs => msgs = [message n d]
  | .pipe _ _ bytes senders => bytes = message n d ∧ senders = []
  | .mbox senders =>
    ∃ p m, senders = [.copy p m] ∧ m.size = messageSize n ∧ m.txData = some .txBuffer
  | _ => False

/-- The object that a call sends through. -/
def sendObject : Call Thread Object Addr EntryFn → Option Object
  | .kFifoPut o _ | .kLifoPut o _ | .kStackPush o _ | .kMsgqPut o _ _ | .kPipeWrite o _ _ _
  | .kMboxPut o _ _ | .kMboxAsyncPut o _ => some o
  | _ => none

/-- The object that a call receives from. -/
def recvObject : Call Thread Object Addr EntryFn → Option Object
  | .kFifoGet o _ | .kLifoGet o _ | .kStackPop o _ | .kMsgqGet o _ _ | .kPipeRead o _ _ _
  | .kMboxGet o _ _ => some o
  | _ => none

/-- Bytes written over the start of a buffer are its first bytes. -/
theorem take_copyAt (dst bytes : List UInt8) : (copyAt dst 0 bytes).take bytes.length = bytes := by
  simp [copyAt]

theorem length_message {n : Nat} {d : Data Thread Addr}
    (h : messageSize n ≤ (d.buf .txBuffer).length) : (message n d).length = messageSize n := by
  rw [message, List.length_take]
  omega

/-- A message that has been copied into `rx_buffer` is in it. -/
theorem copied_copyTo {n : Nat} {d : Data Thread Addr}
    (h : messageSize n ≤ (d.buf .txBuffer).length) :
    Copied n (d.copyTo .rxBuffer 0 (message n d)) := by
  have htake := take_copyAt (d.buf .rxBuffer) (message n d)
  rw [length_message h] at htake
  simpa [Copied, message, Data.copyTo] using htake

/-- A receiver of `down` that has nothing to do leaves nothing in the history. -/
theorem peer_nothing : ∀ _ : Nat, ∀ e ∈ ([] : List HistEntry), ByPeer .down e :=
  fun _ _ he => absurd he List.not_mem_nil

theorem markers_nothing : ∀ _ : Nat, List.filterMap markerOf [] = [] := fun _ => rfl

/-! ## 2. Messages on the way -/

/-- What `T_Self` finds when it is about to send or to receive a message, and
at the stop marker. -/
def SelfTransferStmt (s : TestState B) (t : Thread) : Statement B → Prop
  | .call c => t = tSelfThread →
    (∀ o, sendObject (c s.mem) = some o → ∃ n < cfg.messageSizeSteps, Iterates s n tSelfThread ∧
      o = .chan (ipc.selfChannel n) ∧ Unused (ipc.selfChannel n) s ∧
      Stored n s.kern.data ((s.kern.call (c s.mem)).obj o)) ∧
    ∀ o, recvObject (c s.mem) = some o → ∃ n < cfg.messageSizeSteps, Iterates s n tSelfThread ∧
      o = .chan (ipc.selfChannel n) ∧ Stored n s.kern.data (s.kern.obj o) ∧
      Empty ((s.kern.call (c s.mem)).obj o)
  | .prim (.getStopCnt testStopTime) => t = tSelfThread →
    ∃ n < cfg.messageSizeSteps, Iterates s n tSelfThread ∧ Copied n s.kern.data
  | _ => True

/-- The receiver of `d` is about to wait for a message of step `n`. -/
structure Awaits (reads : Vars → Dir → Nat → Prop) (d : Dir) (n : Nat) (o : Object)
    (c : Call Thread Object Addr EntryFn) (s : TestState B) : Prop where
  step : n < cfg.messageSizeSteps
  iterates : Iterates s n (tRecvThread d)
  reads : reads s.mem.vars d n
  object : o = .chan (ipc.channel d n)
  unused : Unused (ipc.channel d n) s
  swap : (s.kern.call c).data.swap (tRecvThread d) = .buffer .rxBuffer (messageSize n) 0

/-- The sender of `d` is about to send the message of step `n`, which the
receiver waits for; the call completes, and nothing is left in the object. -/
structure Delivers (reads : Vars → Dir → Nat → Prop) (d : Dir) (n : Nat) (o : Object)
    (c : Call Thread Object Addr EntryFn) (s : TestState B) : Prop where
  step : n < cfg.messageSizeSteps
  iterates : Iterates s n (tSendThread d)
  reads : reads s.mem.vars d n
  object : o = .chan (ipc.channel d n)
  empty : Empty (s.kern.obj (.chan (ipc.channel d n)))
  waiting : s.kern.waitq (.chan (ipc.channel d n)) = [tRecvThread d]
  swap : s.kern.data.swap (tRecvThread d) = .buffer .rxBuffer (messageSize n) 0
  length : messageSize n ≤ (s.kern.data.buf .txBuffer).length
  sender : (s.kern.call c).pend (tSendThread d) = .no
  receiver : (s.kern.call c).pend (tRecvThread d) = .no
  left : Empty ((s.kern.call c).obj (.chan (ipc.channel d n)))
  waiters : (s.kern.call c).waitq (.chan (ipc.channel d n)) = []
  copied : Copied n (s.kern.call c).data

/-- What the peers of a direction find when they are about to receive or to
send a message, and at the stop marker. `reads vars d n` says that the sweep
variable is that of step `n`. -/
def SweepStmt (reads : Vars → Dir → Nat → Prop) (s : TestState B) (t : Thread) :
    Statement B → Prop
  | .call c =>
    (∀ d o, t = tRecvThread d → recvObject (c s.mem) = some o →
      ∃ n, Awaits cfg ipc reads d n o (c s.mem) s) ∧
    ∀ d o, t = tSendThread d → sendObject (c s.mem) = some o →
      ∃ n, Delivers cfg ipc reads d n o (c s.mem) s
  | .prim (.getStopCnt testStopTime) => ∀ d, t = tRecvThread d →
    ∃ n < cfg.messageSizeSteps, Iterates s n (tRecvThread d) ∧ Copied n s.kern.data
  | _ => True

variable {cfg ipc}

theorem selfTransfer_common (s : TestState B) (t : Thread) (st : Statement B)
    (h : isCommon s st = true) : SelfTransferStmt cfg ipc s t st := by
  cases st with
  | call c => cases hc : c s.mem <;> simp_all [SelfTransferStmt, isCommon, sendObject, recvObject]
  | prim q =>
    cases q with
    | getStopCnt x => cases x <;> simp_all [SelfTransferStmt, isCommon]
    | _ => trivial
  | _ => trivial

theorem sweep_common {reads : Vars → Dir → Nat → Prop} (s : TestState B) (t : Thread)
    (st : Statement B) (h : isCommon s st = true) : SweepStmt cfg ipc reads s t st := by
  cases st with
  | call c => cases hc : c s.mem <;> simp_all [SweepStmt, isCommon, sendObject, recvObject]
  | prim q =>
    cases q with
    | getStopCnt x => cases x <;> simp_all [SweepStmt, isCommon]
    | _ => trivial
  | _ => trivial

/-- A receiver that has got the message of the step is at its stop marker. -/
theorem recvStop {reads : Vars → Dir → Nat → Prop} {s : TestState B} {d : Dir} {n : Nat}
    (hn : n < cfg.messageSizeSteps) (hiterates : Iterates s n (tRecvThread d))
    (hcopied : Copied n s.kern.data) :
    SelfTransferStmt cfg ipc s (tRecvThread d) (.prim (.getStopCnt testStopTime)) ∧
      SweepStmt cfg ipc reads s (tRecvThread d) (.prim (.getStopCnt testStopTime)) := by
  refine ⟨nofun, fun d' hd' => ?_⟩
  cases hd'
  exact ⟨n, hn, hiterates, hcopied⟩

/-- So is `T_Self`. -/
theorem selfStop {reads : Vars → Dir → Nat → Prop} {s : TestState B} {n : Nat}
    (hn : n < cfg.messageSizeSteps) (hiterates : Iterates s n tSelfThread)
    (hcopied : Copied n s.kern.data) :
    SelfTransferStmt cfg ipc s tSelfThread (.prim (.getStopCnt testStopTime)) ∧
      SweepStmt cfg ipc reads s tSelfThread (.prim (.getStopCnt testStopTime)) :=
  ⟨fun _ => ⟨n, hn, hiterates, hcopied⟩, nofun⟩

end ZephyrBench.Itc

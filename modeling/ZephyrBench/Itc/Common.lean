/-
ZephyrBench.Itc.Common — what the tests of inter-task communication share.

A test passes a message through one kernel object: from a task to itself
(`T_Self`), to a task of higher priority (`up`) and to one of lower priority
(`down`). In the last two a sender and a receiver wait on a semaphore each, and
the control task `T_Arm*`, below both of them, lets first the receiver and then
the sender go, once for every sample. Every scenario sweeps over the message
sizes, `MEASUREMENT_COUNT` samples in each step.

The eight tests differ in the object and in what they do around it; `Ipc` lists
these pieces, and everything else is written once over it. The task functions
here are those of the source with the pieces left open, so a reader can compare
a test by reading its `Ipc` (`Itc.Tests`) into them.

A test has one series for every step of every scenario, the synchronous tests
two for the steps of a direction. A thread that exists once for each direction in
the source has its direction as a parameter here.
-/
import ZephyrBench.Verdict

namespace ZephyrBench.Itc

open Rtos Rtos.Exec

/-! ## 1. Names -/

/-- The scenarios with a sender and a receiver: to a higher and to a lower
priority. -/
inductive Dir
  | up
  | down
  deriving DecidableEq

theorem Dir.forall {p : Dir → Prop} : (∀ d, p d) ↔ p .up ∧ p .down :=
  ⟨fun h => ⟨h .up, h .down⟩, fun h d => by cases d <;> simp [h]⟩

inductive Thread
  | idleThread
  | tSelfThread
  | tSendThread (d : Dir)
  | tRecvThread (d : Dir)
  | tArmThread
  deriving DecidableEq

/-- What messages go through: the object of `T_Self` and that of a direction,
with the step where a test has one for every step. -/
inductive Channel
  | self (n : Nat)
  | dir (d : Dir) (n : Nat)
  | null
  deriving DecidableEq

inductive Object
  | testEvent
  | testArmSem
  | testRecvSem
  | chan (c : Channel)
  deriving DecidableEq

/-- The data of the tests that the kernel gets the address of. -/
inductive Addr
  | testItem
  | txBuffer
  | rxBuffer
  | txMsg
  | rxMsg
  deriving DecidableEq

/-- The arrays of series, with the step: `self_send`, `send_to_higher_prio` and
`send_to_lower_prio`, and the `rendezvous` ones of the synchronous tests. -/
inductive Series
  | selfSend (n : Nat)
  | sendTo (d : Dir) (n : Nat)
  | rendezvousTo (d : Dir) (n : Nat)
  deriving DecidableEq

/-- In the synchronous tests `test_stop_time` is called
`test_stop_time_direct`. -/
inductive Marker
  | testStartTime
  | testStopTime
  | testStopTimeRendezvous
  deriving DecidableEq

inductive EntryFn
  | tSelf
  | tSend (d : Dir)
  | tRecv (d : Dir)
  | tArm (d : Dir)
  | iTask
  deriving DecidableEq

/-- The variables of the tests besides markers and series; each test has some
of them. `active_message_size` of the pipe tests is `messageSize`. -/
structure Vars where
  rxItem : Option Addr
  activeMsgq : Channel
  messageSize : Nat
  outlierCount : BitVec 32

inductive Assign
  | rxItem
  | activeMsgq (c : Channel)
  | messageSize (n : Nat)
  | addOutliers (m : Series)
  deriving DecidableEq

def startSelfEventMask : BitVec 32 := 0x0001

def startEventMask : Dir → BitVec 32
  | .up => 0x0002
  | .down => 0x0004

def doneSelfEventMask : BitVec 32 := 0x0010

def doneEventMask : Dir → BitVec 32
  | .up => 0x0020
  | .down => 0x0040

/-! ## 2. Configuration -/

def taskIdlePrio : Nat := 15

def tSelfPrio : Nat := 3

def tSendPrio : Dir → Nat
  | .up => 3
  | .down => 2

def tRecvPrio : Dir → Nat
  | .up => 2
  | .down => 3

def tArmPrio : Nat := 4

def messageSizeMin : Nat := 4

/-- `MESSAGE_SIZE_MIN << step`. -/
def messageSize (step : Nat) : Nat := messageSizeMin <<< step

/-- The parameters of a build. -/
structure Config where
  measurementCount : Nat
  messageSizeSteps : Nat
  numMboxAsyncMsgs : Nat
  one_le_measurementCount : 1 ≤ measurementCount
  one_le_messageSizeSteps : 1 ≤ messageSizeSteps
  one_le_numMboxAsyncMsgs : 1 ≤ numMboxAsyncMsgs

def messageSizeMax (cfg : Config) : Nat := messageSize (cfg.messageSizeSteps - 1)

theorem messageSize_pos (n : Nat) : 0 < messageSize n := by
  have hpow := Nat.two_pow_pos n
  rw [messageSize, messageSizeMin, Nat.shiftLeft_eq]
  omega

/-- Every message fits into the buffers. -/
theorem messageSize_le {cfg : Config} {n : Nat} (h : n < cfg.messageSizeSteps) :
    messageSize n ≤ messageSizeMax cfg := by
  have hpow : 2 ^ n ≤ 2 ^ (cfg.messageSizeSteps - 1) := Nat.pow_le_pow_right (by omega) (by omega)
  simp only [messageSizeMax, messageSize, messageSizeMin, Nat.shiftLeft_eq]
  omega

/-! ## 3. Programs -/

section Types

variable (B : Bmth)

abbrev TestMem := Mem B Series Marker Vars

abbrev Statement := Stmt Thread Object Addr EntryFn (Prim Series Marker Assign) (TestMem B)

abbrev Code := List (Statement B)

abbrev TestState := DocState Thread Object Addr EntryFn (Prim Series Marker Assign) (TestMem B)

abbrev HistEntry := Entry Thread Object Addr EntryFn (Prim Series Marker Assign)

abbrev Action := Act Thread Object Addr EntryFn (Prim Series Marker Assign)

/-- What a test does with the object that its messages go through. -/
structure Ipc where
  hasSelf : Bool
  rendezvous : Bool
  /-- The object of `T_Self` and that of a direction, at a step. -/
  selfChannel : Nat → Channel
  channel : Dir → Nat → Channel
  /-- `I_Task` initialises the objects, and prepares a direction. -/
  init : Code B
  before : Dir → Code B
  /-- `T_Self` begins a step, and passes a message to itself. -/
  selectSelf : Nat → Code B
  transferSelf : Nat → Code B
  /-- `T_Arm*` begins a step. -/
  select : Dir → Nat → Code B
  /-- `T_Self` and `T_Arm*` prepare a message. -/
  arm : Code B
  send : Dir → Vars → Call Thread Object Addr EntryFn
  recv : Dir → Vars → Call Thread Object Addr EntryFn
  /-- The receiver once it has got the message. -/
  received : List Action
  /-- `T_Arm*` ends a pass. -/
  finish : Dir → Code B

end Types

variable {B : Bmth}

/-- A call whose arguments are constants. -/
abbrev kcall (c : Call Thread Object Addr EntryFn) : Statement B := .call fun _ => c

/-- A statement without arguments to evaluate. -/
abbrev act : Action → Statement B
  | .call c => kcall c
  | .prim q => .prim q

def Assign.set (ret : Option Addr) (mem : TestMem B) : Assign → TestMem B
  | .rxItem => { mem with vars := { mem.vars with rxItem := ret } }
  | .activeMsgq c => { mem with vars := { mem.vars with activeMsgq := c } }
  | .messageSize n => { mem with vars := { mem.vars with messageSize := n } }
  | .addOutliers m =>
    { mem with
      vars := { mem.vars with
        outlierCount := mem.vars.outlierCount +
          BitVec.ofNat 32 (B.valuesOutlierCount (mem.series m)) } }

variable (cfg : Config) (ipc : Ipc B)

/-! ### T_Self -/

def tSelfLoop (n : Nat) : Code B :=
  ipc.arm ++
  [ .prim (.mwindowOpen (.selfSend n)),
    .prim .resetCounter,
    .prim (.getStartCnt .testStartTime) ] ++
  ipc.transferSelf n ++
  [ .prim (.getStopCnt .testStopTime),
    .prim (.mseriesIterate (.selfSend n) .testStartTime .testStopTime false),
    .prim (.mwindowClose (.selfSend n)) ]

/-- The inner loop, from iteration `i` on. -/
def tSelfStep (n i : Nat) : Statement B :=
  .forUp i (fun i => i < cfg.measurementCount) fun _ => tSelfLoop ipc n

/-- The sweep, from step `n` on. -/
def tSelfSweep (n : Nat) : Statement B :=
  .forUp n (fun n => n < cfg.messageSizeSteps) fun n => ipc.selectSelf n ++ [tSelfStep cfg ipc n 0]

def tSelf : Code B :=
  [ kcall (.kEventWaitSafe .testEvent startSelfEventMask .forever),
    tSelfSweep cfg ipc 0,
    kcall (.kEventPost .testEvent doneSelfEventMask),
    kcall .kThreadSuspendCurrent ]

/-! ### T_SendUp, T_SendDown -/

def tSendLoop (d : Dir) : Code B :=
  [ kcall (.kSemTake .testArmSem .forever),
    .prim .resetCounter,
    .prim (.getStartCnt .testStartTime),
    .call fun mem => ipc.send d mem.vars ] ++
  if ipc.rendezvous then [.prim (.getStopCnt .testStopTimeRendezvous)] else []

def tSend (d : Dir) : Code B :=
  [ kcall (.kEventWaitSafe .testEvent (startEventMask d) .forever),
    .loop (tSendLoop ipc d) ]

/-! ### T_RecvUp, T_RecvDown -/

def tRecvLoop (d : Dir) : Code B :=
  [ kcall (.kSemTake .testRecvSem .forever),
    .call fun mem => ipc.recv d mem.vars ] ++
  ipc.received.map act ++
  [ .prim (.getStopCnt .testStopTime) ]

def tRecv (d : Dir) : Code B := [.loop (tRecvLoop ipc d)]

/-! ### T_ArmUp, T_ArmDown -/

/-- The windows of a pass are opened. -/
def mwindowsOpen (d : Dir) (n : Nat) : Code B :=
  .prim (.mwindowOpen (.sendTo d n)) ::
    if ipc.rendezvous then [.prim (.mwindowOpen (.rendezvousTo d n))] else []

/-- The series of a pass are fed and the windows closed. -/
def mseriesFeed (d : Dir) (n : Nat) : Code B :=
  if ipc.rendezvous then
    [ .prim (.mseriesIterate (.sendTo d n) .testStartTime .testStopTime false),
      .prim (.mseriesIterate (.rendezvousTo d n) .testStartTime .testStopTimeRendezvous false),
      .prim (.mwindowClose (.sendTo d n)),
      .prim (.mwindowClose (.rendezvousTo d n)) ]
  else
    [ .prim (.mseriesIterate (.sendTo d n) .testStartTime .testStopTime false),
      .prim (.mwindowClose (.sendTo d n)) ]

def tArmLoop (d : Dir) (n : Nat) : Code B :=
  ipc.arm ++
  [ kcall (.kSemGive .testRecvSem) ] ++
  mwindowsOpen ipc d n ++
  [ kcall (.kSemGive .testArmSem) ] ++
  mseriesFeed ipc d n ++
  ipc.finish d

/-- The inner loop, from iteration `i` on. -/
def tArmStep (d : Dir) (n i : Nat) : Statement B :=
  .forUp i (fun i => i < cfg.measurementCount) fun _ => tArmLoop ipc d n

/-- The sweep, from step `n` on. -/
def tArmSweep (d : Dir) (n : Nat) : Statement B :=
  .forUp n (fun n => n < cfg.messageSizeSteps) fun n => ipc.select d n ++ [tArmStep cfg ipc d n 0]

def tArm (d : Dir) : Code B :=
  [ kcall (.kEventWaitSafe .testEvent (startEventMask d) .forever),
    tArmSweep cfg ipc d 0,
    kcall (.kEventPost .testEvent (doneEventMask d)),
    kcall .kThreadSuspendCurrent ]

/-! ### I_Task -/

/-- The condition of the last loop of `I_Task`. -/
def outliers (mem : TestMem B) : Bool := mem.vars.outlierCount != 0

/-- The series of a step, in the order in which their outliers are added. -/
def seriesOfStep (n : Nat) : List Series :=
  (if ipc.hasSelf then [.selfSend n] else []) ++ [.sendTo .up n, .sendTo .down n] ++
    if ipc.rendezvous then [.rendezvousTo .up n, .rendezvousTo .down n] else []

/-- The loop that adds up the outliers, from step `n` on. -/
def countOutliers (n : Nat) : Statement B :=
  .forUp n (fun n => n < cfg.messageSizeSteps) fun n =>
    (seriesOfStep ipc n).map fun m => .prim (.assign (.addOutliers m))

/-- `I_Task` from the wait for the end of a direction. -/
def iTaskWait (d : Dir) : Code B :=
  [ kcall (.kEventWaitSafe .testEvent (doneEventMask d) .forever),
    kcall (.kThreadAbort (.tSendThread d)),
    kcall (.kThreadAbort (.tRecvThread d)),
    kcall (.kThreadAbort .tArmThread) ]

def iTaskDir (d : Dir) : Code B :=
  [ kcall (.kThreadCreate (.tSendThread d) (.tSend d) (tSendPrio d)),
    kcall (.kThreadCreate (.tRecvThread d) (.tRecv d) (tRecvPrio d)),
    kcall (.kThreadCreate .tArmThread (.tArm d) tArmPrio),
    kcall (.kEventPost .testEvent (startEventMask d)) ] ++ iTaskWait d

/-- `I_Task` after a direction. -/
def iTaskAfter : Dir → Code B
  | .up =>
    [ kcall (.kSemReset .testArmSem),
      kcall (.kSemReset .testRecvSem) ] ++
    ipc.before .down ++ iTaskDir .down ++ countOutliers cfg ipc 0 :: verdictLoop outliers
  | .down => countOutliers cfg ipc 0 :: verdictLoop outliers

/-- `I_Task` from the first direction on. -/
def iTaskUp : Code B := ipc.before .up ++ iTaskDir .up ++ iTaskAfter cfg ipc .up

/-- `I_Task` from the wait for the end of `T_Self`. -/
def iTaskSelfWait : Code B :=
  [ kcall (.kEventWaitSafe .testEvent doneSelfEventMask .forever),
    kcall (.kThreadAbort .tSelfThread) ]

def iTaskSelf : Code B :=
  [ kcall (.kThreadCreate .tSelfThread .tSelf tSelfPrio),
    kcall (.kEventPost .testEvent startSelfEventMask) ] ++ iTaskSelfWait

def iTask : Code B :=
  [ kcall (.kEventInit .testEvent),
    kcall (.kSemInit .testArmSem 0 1),
    kcall (.kSemInit .testRecvSem 0 1) ] ++
  ipc.init ++ (if ipc.hasSelf then iTaskSelf else []) ++ iTaskUp cfg ipc

/-! ## 4. Runs -/

def program : Prog Thread Object Addr EntryFn (Prim Series Marker Assign) (TestMem B) where
  body
    | .tSelf => tSelf cfg ipc
    | .tSend d => tSend ipc d
    | .tRecv d => tRecv ipc d
    | .tArm d => tArm cfg ipc d
    | .iTask => iTask cfg ipc
  prim q now ret mem := q.run (fun w ret mem => w.set ret mem) now ret mem
  isr := []
  isrResched := false

/-- The data of the kernel at boot: `main()` fills the buffers, the descriptors
are zero, `K_ANY` being null. -/
def bootData : Data Thread Addr where
  ret _ := none
  swap _ := .none
  buf
    | .txBuffer => (List.range (messageSizeMax cfg)).map fun i => UInt8.ofNat (i + 1)
    | .rxBuffer => List.replicate (messageSizeMax cfg) 0
    | _ => []
  msg _ :=
    { info := 0, size := 0, txData := none, rxSourceThread := none, txTargetThread := none,
      syncing := .none }
  asyncFree := cfg.numMboxAsyncMsgs

/-- `main()` initialises a series for markers in one function or in two. -/
def readWindow : Series → ReadWindow
  | .sendTo _ _ => .crossFunctionsFileScopeVars
  | _ => .insideFunctionFileScopeVars

def bootVars : Vars where
  rxItem := none
  activeMsgq := .null
  messageSize := messageSizeMin
  outlierCount := 0

/-- The run of a test from the start of `I_Task`. -/
def run {K : Type} (Z : Zephyr K Thread Object Addr EntryFn) (n : Nat) : TestState B :=
  ((program cfg ipc).run Z .idleThread taskIdlePrio .iTask (bootData cfg)
    (.initial readWindow bootVars) n).view Z

/-- The state in which `I_Task` starts. -/
def start : TestState B where
  kern := .boot .idleThread taskIdlePrio (bootData cfg)
  code := fun u => if u = .idleThread then iTask cfg ipc else []
  mem := .initial readWindow bootVars
  log := []

end ZephyrBench.Itc

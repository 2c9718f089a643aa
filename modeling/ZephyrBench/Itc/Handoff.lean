/-
ZephyrBench.Itc.Handoff — the hand-off that every test makes.

`Handoff` is what is claimed of every state of a direction: whom `T_Arm*` finds
blocked, what a start marker finds, and what a sample is made of.
`ScenarioStmt` is what is claimed of the border between two scenarios, `SelfStmt`
what is claimed of `T_Self`.

The states themselves are described by `Scene`: the three tasks of a direction,
what is left of each, who waits where, and what the objects hold. The casts
(`blocked`, `receiving`, `armed`, `sending`, `sent`) are the places of a
transaction. A `TracedScene` keeps the history too, which only a transaction
needs.

## What a test has to show

`Protocol` lists it. A test chooses what its objects and variables are at each
stage of a step (`Idle`, `Swept`, `Ready`, `Waiting`, `Delivered`, `Settled`), and
shows of its own statements that they lead from one stage to the next. The common
programs then make the hand-off (`Itc.RunTheorems`).

`sendDown` and `receivedDown_settles` are apart since the sender comes between
them: in `down` the message is delivered when the sender goes on, but what the
receiver does with it comes after that. In `up` the receiver does it at once. A
claim of the test's own (`own`) holds of the common statements by `own_common`,
but for the stop markers, at which a test may claim that the message is there.
-/
import ZephyrBench.Itc.Common

namespace ZephyrBench.Itc

open Rtos Rtos.Exec Thread Object Series Marker

variable {B : Bmth} (cfg : Config) (ipc : Ipc B)

/-! ## 1. What is claimed of every state -/

/-- The samples of step `m` when `n` steps are done, of `N` samples each, and
`i` samples of the next. -/
def tally (N n i m : Nat) : Nat := if m < n then N else if m = n then i else 0

/-- The time marker that an entry of the history takes, and by whom. -/
def markerOf : HistEntry → Option (Thread × Marker)
  | .exec t (.prim (.getStartCnt x)) => some (t, x)
  | .exec t (.prim (.getStopCnt x)) => some (t, x)
  | _ => none

/-- The series that a task opens or feeds next. -/
def nextSeries (code : Code B) : Option Series :=
  code.findSome? fun
    | .prim (.mwindowOpen x) => some x
    | .prim (.mseriesIterate x _ _ _) => some x
    | _ => none

/-- The sender and the receiver of a direction. -/
def IsPeer (d : Dir) (t : Thread) : Prop := t = tSendThread d ∨ t = tRecvThread d

/-- An entry that is a statement of a peer, or a switch between the peers. -/
def ByPeer (d : Dir) : HistEntry → Prop
  | .exec t _ => IsPeer d t
  | .switch (some t) (some u) => IsPeer d t ∧ IsPeer d u
  | _ => False

/-- The stop markers of a sample, latest first. -/
def stops : Dir → List (Thread × Marker)
  | .up =>
    if ipc.rendezvous then
      [(tSendThread .up, testStopTimeRendezvous), (tRecvThread .up, testStopTime)]
    else [(tRecvThread .up, testStopTime)]
  | .down =>
    if ipc.rendezvous then
      [(tRecvThread .down, testStopTime), (tSendThread .down, testStopTimeRendezvous)]
    else [(tRecvThread .down, testStopTime)]

/-- The history is in a pass of `T_Arm*` that has let the receiver go and then
the sender, and no marker has been taken in it yet. -/
def Began (log : List HistEntry) : Prop :=
  ∃ w v older, log = w ++ .exec tArmThread (.call (.kSemGive testArmSem)) ::
      (v ++ .exec tArmThread (.call (.kSemGive testRecvSem)) :: older) ∧
    w.filterMap markerOf = [] ∧ v.filterMap markerOf = []

/-- The markers of the pass of `T_Arm*` are those of one sample: the sender
takes the start marker, then the stop markers are taken while only the sender
and the receiver execute, and the variables hold the times of these markers. -/
def Sampled (d : Dir) (s : TestState B) : Prop :=
  ∃ after sample before,
    s.log = after ++ (sample ++
      .exec (tSendThread d) (.prim (.getStartCnt testStartTime)) :: before) ∧
    Began before ∧ s.mem.time testStartTime = before.length ∧
    sample.filterMap markerOf = stops ipc d ∧ (∀ e ∈ sample, ByPeer d e) ∧
    (∀ t x, (t, x) ∈ stops ipc d → ∃ later earlier,
      sample = later ++ .exec t (.prim (.getStopCnt x)) :: earlier ∧
      s.mem.time x = (earlier ++
        .exec (tSendThread d) (.prim (.getStartCnt testStartTime)) :: before).length) ∧
    after.filterMap markerOf = []

/-- Both peers wait for their semaphores, which are 0. -/
def Blocked (d : Dir) (s : TestState B) : Prop :=
  s.ObjectAt testArmSem (.sem 0 1) [tSendThread d] ∧
    s.ObjectAt testRecvSem (.sem 0 1) [tRecvThread d] ∧
    s.kern.pend (tSendThread d) = .on testArmSem ∧ s.kern.pend (tRecvThread d) = .on testRecvSem

/-- The sender waits for its semaphore, the receiver for a message. -/
def Armed (d : Dir) (s : TestState B) : Prop :=
  s.ObjectAt testArmSem (.sem 0 1) [tSendThread d] ∧ s.ObjectAt testRecvSem (.sem 0 1) [] ∧
    s.kern.pend (tSendThread d) = .on testArmSem ∧
    ∃ n < cfg.messageSizeSteps, s.kern.pend (tRecvThread d) = .on (.chan (ipc.channel d n))

/-- The object holds nothing. -/
def Empty : Obj Thread Addr → Prop
  | .queue items => items = []
  | .stack items _ => items = []
  | .msgq _ _ msgs => msgs = []
  | .pipe _ _ bytes senders => bytes = [] ∧ senders = []
  | .mbox senders => senders = []
  | _ => False

/-- The object holds nothing and has no waiter. -/
def Unused (c : Channel) (s : TestState B) : Prop :=
  Empty (s.kern.obj (.chan c)) ∧ s.kern.waitq (.chan c) = []

/-- The objects of a direction are unused. -/
def Clear (d : Dir) (s : TestState B) : Prop :=
  ∀ n < cfg.messageSizeSteps, Unused (ipc.channel d n) s

/-- The objects of `T_Self` are unused. -/
def ClearSelf (s : TestState B) : Prop :=
  ipc.hasSelf = true → ∀ n < cfg.messageSizeSteps, Unused (ipc.selfChannel n) s

/-- What `T_Arm*` finds when it feeds the series `x n` of step `n`. -/
structure Feeds (d : Dir) (x : Nat → Series) (n : Nat) (t : Thread) (s : TestState B) : Prop where
  thread : t = tArmThread
  step : n < cfg.messageSizeSteps
  isOpen : s.mem.isOpen (x n) = true
  count : ∃ i < cfg.measurementCount, ∀ m, s.mem.count (x m) = tally cfg.measurementCount n i m
  blocked : Blocked d s
  sampled : Sampled ipc d s

/-- What `t` finds when it is about to execute a statement. -/
def HandoffStmt (s : TestState B) (t : Thread) : Statement B → Prop
  | .forUp _ _ _ => t = tArmThread → ∃ d, Blocked d s ∧ Clear cfg ipc d s
  | .prim (.getStartCnt _) =>
    t = tSelfThread ∨ ∃ d, ∃ n < cfg.messageSizeSteps, t = tSendThread d ∧
      nextSeries (s.code tArmThread) = some (.sendTo d n) ∧
      s.kern.pend (tRecvThread d) = .on (.chan (ipc.channel d n))
  | .prim (.mseriesIterate (.sendTo d n) start stop _) =>
    start = testStartTime ∧ stop = testStopTime ∧ Feeds cfg ipc d (.sendTo d) n t s
  | .prim (.mseriesIterate (.rendezvousTo d n) start stop _) =>
    start = testStartTime ∧ stop = testStopTimeRendezvous ∧
      Feeds cfg ipc d (.rendezvousTo d) n t s
  | .prim (.mwindowOpen (.sendTo d _)) | .prim (.mwindowOpen (.rendezvousTo d _)) =>
    Armed cfg ipc d s
  | .prim (.mwindowClose (.sendTo d _)) | .prim (.mwindowClose (.rendezvousTo d _)) =>
    Blocked d s
  | .call c =>
    (∀ o, c s.mem = .kSemGive o → s.kern.obj o = .sem 0 1 ∧ s.kern.waitq o ≠ []) ∧
    ∀ d, c s.mem = .kEventPost testEvent (doneEventMask d) → ∀ m < cfg.messageSizeSteps,
      s.mem.count (.sendTo d m) = cfg.measurementCount ∧
      (ipc.rendezvous = true → s.mem.count (.rendezvousTo d m) = cfg.measurementCount)
  | _ => True

/-- What is claimed of a state. -/
def Handoff (s : TestState B) : Prop := s.AtStmt (HandoffStmt cfg ipc s)

/-! ## 2. The scenarios, T_Self -/

/-- No thread is alive but those of `l`. -/
def Only (l : List Thread) (alive : Thread → Bool) : Prop := ∀ u, alive u = true → u ∈ l

theorem Only.create {l : List Thread} {alive : Thread → Bool} (h : Only l alive) (t : Thread) :
    Only (t :: l) (Function.update alive t true) := by
  intro u hu
  by_cases hut : u = t
  · simp [hut]
  · rw [Function.update_of_ne hut] at hu
    exact List.mem_cons_of_mem t (h u hu)

theorem Only.abort {l : List Thread} {alive : Thread → Bool} (h : Only l alive) (t : Thread) :
    Only (l.filter (· ≠ t)) (Function.update alive t false) := by
  intro u hu
  by_cases hut : u = t
  · simp [hut] at hu
  · rw [Function.update_of_ne hut] at hu
    simpa [hut] using h u hu

/-- Nothing is left of an earlier scenario. -/
structure Quiet (s : TestState B) : Prop where
  alive : Only [idleThread] s.kern.alive
  armSem : s.ObjectAt testArmSem (.sem 0 1) []
  recvSem : s.ObjectAt testRecvSem (.sem 0 1) []
  event : s.ObjectAt testEvent (.event 0) []
  clear : ∀ d, Clear cfg ipc d s
  clearSelf : ClearSelf cfg ipc s

/-- The post of the `START` mask of a direction finds both waiting tasks, and
lets both go. -/
structure Releases (d : Dir) (s : TestState B) : Prop where
  event : s.ObjectAt testEvent (.event 0) [tSendThread d, tArmThread]
  sender : s.kern.pend (tSendThread d) = .on testEvent
  arm : s.kern.pend tArmThread = .on testEvent
  ready : (s.kern.eventPost testEvent (startEventMask d)).readyq =
    [tSendThread d, tArmThread, idleThread]
  rest : (s.kern.eventPost testEvent (startEventMask d)).obj testEvent = .event 0
  waitq : (s.kern.eventPost testEvent (startEventMask d)).waitq testEvent = []

/-- What `t` finds when it is about to create or to remove a task, or to use the
event. -/
def ScenarioStmt (s : TestState B) (t : Thread) : Statement B → Prop
  | .call c =>
    match c s.mem with
    | .kThreadCreate (tSendThread _) _ _ => Quiet cfg ipc s
    | .kThreadCreate (tRecvThread d) _ _ => Only [tSendThread d, idleThread] s.kern.alive
    | .kThreadCreate tArmThread _ _ =>
      ∃ d, Only [tRecvThread d, tSendThread d, idleThread] s.kern.alive
    | .kThreadCreate _ _ _ => Only [idleThread] s.kern.alive
    | .kThreadAbort _ => s.ObjectAt testEvent (.event 0) []
    | .kEventPost _ m =>
      (∀ d, m = startEventMask d → t = idleThread ∧ Releases d s) ∧
      ∀ d, m = doneEventMask d → t = tArmThread ∧ s.ObjectAt testEvent (.event 0) []
    | .kEventWaitSafe _ m _ => t = idleThread → s.ObjectAt testEvent (.event m) []
    | _ => True
  | _ => True

/-- Is it a call on the event? -/
def isEventCall : HistEntry → Bool
  | .exec _ (.call (.kEventPost _ _)) => true
  | .exec _ (.call (.kEventWaitSafe _ _ _)) => true
  | _ => false

/-- The calls on the event, latest first. -/
def eventCalls (log : List HistEntry) : List HistEntry := log.filter isEventCall

theorem eventCalls_nil : eventCalls [] = [] := rfl

theorem eventCalls_cons (e : HistEntry) (log : List HistEntry) :
    eventCalls (e :: log) = if isEventCall e then e :: eventCalls log else eventCalls log := by
  rw [eventCalls, List.filter_cons]
  rfl

attribute [simp] eventCalls_nil eventCalls_cons isEventCall

/-- The calls on the event up to the sweep of a direction, latest first. -/
def startEvents (d : Dir) : List HistEntry :=
  [ .exec idleThread (.call (.kEventPost testEvent (startEventMask d))),
    .exec tArmThread (.call (.kEventWaitSafe testEvent (startEventMask d) .forever)),
    .exec (tSendThread d) (.call (.kEventWaitSafe testEvent (startEventMask d) .forever)) ]

/-- The calls on the event at the end of a direction. -/
def doneEvents (d : Dir) : List HistEntry :=
  [ .exec idleThread (.call (.kEventWaitSafe testEvent (doneEventMask d) .forever)),
    .exec tArmThread (.call (.kEventPost testEvent (doneEventMask d))) ]

def dirEvents (d : Dir) : List HistEntry := doneEvents d ++ startEvents d

def startSelfEvents : List HistEntry :=
  [ .exec idleThread (.call (.kEventPost testEvent startSelfEventMask)),
    .exec tSelfThread (.call (.kEventWaitSafe testEvent startSelfEventMask .forever)) ]

def doneSelfEvents : List HistEntry :=
  [ .exec idleThread (.call (.kEventWaitSafe testEvent doneSelfEventMask .forever)),
    .exec tSelfThread (.call (.kEventPost testEvent doneSelfEventMask)) ]

def selfEvents : List HistEntry := doneSelfEvents ++ startSelfEvents

/-- The calls on the event of a whole run, latest first. -/
def runEvents : List HistEntry :=
  dirEvents .down ++ (dirEvents .up ++ if ipc.hasSelf then selfEvents else [])

/-- Is it a transfer of a message? -/
def isTransfer : Call Thread Object Addr EntryFn → Bool
  | .kFifoPut .. | .kFifoGet .. | .kLifoPut .. | .kLifoGet .. | .kStackPush .. | .kStackPop ..
  | .kMsgqPut .. | .kMsgqGet .. | .kPipeWrite .. | .kPipeRead .. | .kMboxPut ..
  | .kMboxAsyncPut .. | .kMboxGet .. | .kMboxDataCheck .. => true
  | _ => false

/-- What `T_Self` finds at the head of a loop, and what a transfer makes of it:
it goes on running. -/
def SelfStmt (s : TestState B) (t : Thread) : Statement B → Prop
  | .forUp _ _ _ => t = tSelfThread → ClearSelf cfg ipc s
  | .call c => t = tSelfThread → isTransfer (c s.mem) = true →
    (s.kern.call (c s.mem)).current = some tSelfThread ∧
      (s.kern.call (c s.mem)).pend tSelfThread = .no
  | _ => True

/-! ## 3. The tasks of a direction -/

/-- What the objects that messages go through hold, with the data and the
variables. -/
structure Store where
  chan : Channel → Obj Thread Addr
  data : Data Thread Addr
  vars : Vars

abbrev store (s : TestState B) : Store where
  chan c := s.kern.obj (.chan c)
  data := s.kern.data
  vars := s.mem.vars

/-- The wait queues of the objects that messages go through, after a change of
one of them. -/
@[simp high] theorem update_chan {α : Type} {f : Object → α} {c x : Channel} {v : α} :
    Function.update f (.chan c) v (.chan x) = if x = c then v else f (.chan x) := by
  by_cases h : x = c <;> simp [h]

/-- What the tasks of a direction are about: the ready ones, the running task
first, what is left of each, where the peers are pended, and who waits for the
semaphores and for a message. -/
structure Cast (B : Bmth) where
  ready : List Thread
  armCode : Code B
  sendCode : Code B
  recvCode : Code B
  sendPend : Pend Object
  recvPend : Pend Object
  armWaiters : List Thread
  recvWaiters : List Thread
  waiting : Channel → List Thread

/-- The state of a direction: `I` holds of the objects, the data and the
variables, `series` are the series and `events` the calls on the event. -/
structure Scene (d : Dir) (I : Store → Prop) (series : Series → B.Series)
    (events : List HistEntry) (c : Cast B) (s : TestState B) : Prop where
  current : s.kern.current = c.ready.head?
  readyq : s.kern.readyq = c.ready ++ [idleThread]
  alive : Only [tArmThread, tRecvThread d, tSendThread d, idleThread] s.kern.alive
  irq : s.NoIrq
  event : s.ObjectAt testEvent (.event 0) []
  idle : s.ThreadAt idleThread taskIdlePrio false .no (iTaskWait d ++ iTaskAfter cfg ipc d)
  arm : s.ThreadAt tArmThread tArmPrio false .no c.armCode
  sender : s.ThreadAt (tSendThread d) (tSendPrio d) false c.sendPend c.sendCode
  receiver : s.ThreadAt (tRecvThread d) (tRecvPrio d) false c.recvPend c.recvCode
  armSem : s.ObjectAt testArmSem (.sem 0 1) c.armWaiters
  recvSem : s.ObjectAt testRecvSem (.sem 0 1) c.recvWaiters
  waitq : ∀ x, s.kern.waitq (.chan x) = c.waiting x
  store : I (store s)
  series : s.mem.series = series
  events : eventCalls s.log = events

/-- A scene with the times of the markers and the history. -/
structure TracedScene (d : Dir) (I : Store → Prop) (series : Series → B.Series)
    (events : List HistEntry) (time : Marker → Nat) (log : List HistEntry) (c : Cast B)
    (s : TestState B) : Prop extends Scene cfg ipc d I series events c s where
  time : s.mem.time = time
  log : s.log = log

theorem TracedScene.eventLog {cfg : Config} {ipc : Ipc B} {d : Dir} {I : Store → Prop}
    {σ : Series → B.Series} {E : List HistEntry} {τ : Marker → Nat} {L : List HistEntry}
    {c : Cast B} {s : TestState B} (h : TracedScene cfg ipc d I σ E τ L c s) :
    eventCalls L = E :=
  h.log ▸ h.events

/-- The receiver once the message has come. -/
def afterRecv (d : Dir) : Code B :=
  .prim (.getStopCnt testStopTime) :: [.loop (tRecvLoop ipc d)]

/-- The sender after its call. -/
def afterSend (d : Dir) : Code B :=
  (if ipc.rendezvous then [.prim (.getStopCnt testStopTimeRendezvous)] else []) ++
    [.loop (tSendLoop ipc d)]

/-- The receiver after its wait for the semaphore. -/
def recvMessage (d : Dir) : Code B :=
  (.call fun mem => ipc.recv d mem.vars) :: (ipc.received.map act ++ afterRecv ipc d)

/-- The sender after its start marker. -/
def sendMessage (d : Dir) : Code B :=
  (.call fun mem => ipc.send d mem.vars) :: afterSend ipc d

/-- `T_Arm*` executes `code`, both peers wait for their semaphores. -/
def blocked (d : Dir) (code : Code B) : Cast B where
  ready := [tArmThread]
  armCode := code
  sendCode := .prim .resetCounter :: .prim (.getStartCnt testStartTime) :: sendMessage ipc d
  recvCode := recvMessage ipc d
  sendPend := .on testArmSem
  recvPend := .on testRecvSem
  armWaiters := [tSendThread d]
  recvWaiters := [tRecvThread d]
  waiting _ := []

/-- The receiver, let go by `T_Arm*`, executes. -/
def receiving (d : Dir) (code armCode : Code B) : Cast B :=
  { blocked ipc d armCode with
    ready := [tRecvThread d, tArmThread]
    recvCode := code
    recvPend := .no
    recvWaiters := [] }

/-- `T_Arm*` executes `code`, the receiver waits for a message. -/
def armed (d : Dir) (n : Nat) (code : Code B) : Cast B :=
  { blocked ipc d code with
    recvCode := ipc.received.map act ++ afterRecv ipc d
    recvPend := .on (.chan (ipc.channel d n))
    recvWaiters := []
    waiting := Function.update (fun _ => []) (ipc.channel d n) [tRecvThread d] }

/-- The sender, let go by `T_Arm*`, executes. -/
def sending (d : Dir) (n : Nat) (code armCode : Code B) : Cast B :=
  { armed ipc d n armCode with
    ready := [tSendThread d, tArmThread]
    sendCode := code
    sendPend := .no
    armWaiters := [] }

/-- Both peers are ready, in the order `ready`, after the message has been
sent. -/
def sent (d : Dir) (ready : List Thread) (recvCode armCode : Code B) : Cast B :=
  { receiving ipc d recvCode armCode with
    ready := ready ++ [tArmThread]
    sendCode := afterSend ipc d
    sendPend := .no
    armWaiters := [] }

/-- The peers in the order in which they run after the send: a receiver of the
higher priority preempts the sender. -/
def peersReady : Dir → List Thread
  | .up => [tRecvThread .up, tSendThread .up]
  | .down => [tSendThread .down, tRecvThread .down]

/-- What is left of the pass of `T_Arm*` once the receiver has been let go. -/
def armAfterRecv (d : Dir) (n : Nat) (code : Code B) : Code B :=
  mwindowsOpen ipc d n ++ kcall (.kSemGive testArmSem) :: (mseriesFeed ipc d n ++ code)

/-! ## 4. The other tasks -/

/-- `I_Task` executes `code`, no other task is ready or waits. -/
structure IdleAt (I : Store → Prop) (series : Series → B.Series) (events : List HistEntry)
    (code : Code B) (s : TestState B) : Prop where
  runs : s.Runs idleThread [idleThread]
  alive : Only [idleThread] s.kern.alive
  irq : s.NoIrq
  event : s.ObjectAt testEvent (.event 0) []
  idle : s.ThreadAt idleThread taskIdlePrio false .no code
  armSem : s.ObjectAt testArmSem (.sem 0 1) []
  recvSem : s.ObjectAt testRecvSem (.sem 0 1) []
  waitq : ∀ x, s.kern.waitq (.chan x) = []
  store : I (store s)
  series : s.mem.series = series
  events : eventCalls s.log = events

/-- `T_Self` executes `code`. -/
structure SelfAt (I : Store → Prop) (series : Series → B.Series) (events : List HistEntry)
    (code : Code B) (s : TestState B) : Prop where
  runs : s.Runs tSelfThread [tSelfThread, idleThread]
  alive : Only [tSelfThread, idleThread] s.kern.alive
  irq : s.NoIrq
  event : s.ObjectAt testEvent (.event 0) []
  idle : s.ThreadAt idleThread taskIdlePrio false .no (iTaskSelfWait ++ iTaskUp cfg ipc)
  task : s.ThreadAt tSelfThread tSelfPrio false .no code
  armSem : s.ObjectAt testArmSem (.sem 0 1) []
  recvSem : s.ObjectAt testRecvSem (.sem 0 1) []
  waitq : ∀ x, s.kern.waitq (.chan x) = []
  store : I (store s)
  series : s.mem.series = series
  events : eventCalls s.log = events

/-- What is left of a pass of `T_Self` once the message is back. -/
def tSelfFeed (n : Nat) (code : Code B) : Code B :=
  .prim (.getStopCnt testStopTime) ::
    .prim (.mseriesIterate (.selfSend n) testStartTime testStopTime false) ::
    .prim (.mwindowClose (.selfSend n)) :: code

/-! ## 5. What a test has to show -/

/-- Is the statement none of those that a test brings along? -/
abbrev isCommon (s : TestState B) : Statement B → Bool
  | .call c =>
    match c s.mem with
    | .kThreadCreate .. | .kThreadAbort _ | .kThreadSuspendCurrent | .kSemInit .. | .kSemGive _
    | .kSemTake .. | .kSemReset _ | .kEventInit _ | .kEventPost .. | .kEventWaitSafe .. => true
    | _ => false
  | .prim (.getStopCnt testStopTime) => false
  | .prim (.assign (.addOutliers _)) => true
  | .prim (.assign _) => false
  | _ => true

/-- What holds of every state, and what a test claims of its own statements. -/
def Good (own : TestState B → Thread → Statement B → Prop) (s : TestState B) : Prop :=
  s.AtStmt fun t st => HandoffStmt cfg ipc s t st ∧ ScenarioStmt cfg ipc s t st ∧
    SelfStmt cfg ipc s t st ∧ own s t st

/-- The store at boot. -/
def bootStore : Store where
  chan _ := .unset
  data := bootData cfg
  vars := bootVars

/-- A symbolic execution over the documented kernel. -/
abbrev Does (own : TestState B → Thread → Statement B → Prop) (s : TestState B)
    (Q : TestState B → Prop) : Prop :=
  Leads (program cfg ipc).next (Good cfg ipc own) s Q

/-- The calls of a test pass a message as they should. `Idle` is the state of
the objects, the data and the variables between the steps of the sweep;
the others are their states in a pass of step `n`. -/
structure Protocol (own : TestState B → Thread → Statement B → Prop) where
  Idle : Store → Prop
  SelfSwept : Nat → Store → Prop
  SelfReady : Nat → Store → Prop
  SelfSettled : Nat → Store → Prop
  Swept : Dir → Nat → Store → Prop
  Ready : Dir → Nat → Store → Prop
  Waiting : Dir → Nat → Store → Prop
  Delivered : Nat → Store → Prop
  Settled : Dir → Nat → Store → Prop
  /-- What the receiver of `down` still does when the sender waits again. -/
  receivedDown : List Action
  /-- The history of the transfers, latest entry first. -/
  recvLog : Dir → Nat → List HistEntry
  sendLog : Dir → Nat → List HistEntry
  receivedLog : Nat → List HistEntry
  own_common : ∀ s t st, isCommon s st = true → own s t st
  own_stop : ∀ s d, ∀ n < cfg.messageSizeSteps, Settled d n (store s) →
    nextSeries (s.code tArmThread) = some (.sendTo d n) →
    own s (tRecvThread d) (.prim (.getStopCnt testStopTime))
  own_stopSelf : ∀ s, ∀ n < cfg.messageSizeSteps, SelfSettled n (store s) →
    nextSeries (s.code tSelfThread) = some (.selfSend n) →
    own s tSelfThread (.prim (.getStopCnt testStopTime))
  idle_of_selfSwept : ∀ n x, SelfSwept n x → Idle x
  selfSwept_of_settled : ∀ n x, SelfSettled n x → SelfSwept n x
  idle_of_swept : ∀ d n x, Swept d n x → Idle x
  empty : ∀ d x, Idle x → ∀ n < cfg.messageSizeSteps, Empty (x.chan (ipc.channel d n))
  emptySelf : ipc.hasSelf = true → ∀ x, Idle x → ∀ n < cfg.messageSizeSteps,
    Empty (x.chan (ipc.selfChannel n))
  peer_sendLog : ∀ d n, ∀ e ∈ sendLog d n, ByPeer d e
  peer_receivedLog : ∀ n, ∀ e ∈ receivedLog n, ByPeer .down e
  markers_recvLog : ∀ d n, (recvLog d n).filterMap markerOf = []
  markers_sendLog : ∀ d n, (sendLog d n).filterMap markerOf = []
  markers_receivedLog : ∀ n, (receivedLog n).filterMap markerOf = []
  init : ∀ σ E code s, IdleAt (· = bootStore cfg) σ E (ipc.init ++ code) s →
    Does cfg ipc own s (IdleAt Idle σ E code)
  before : ∀ d σ E code s, IdleAt Idle σ E (ipc.before d ++ code) s →
    Does cfg ipc own s (IdleAt Idle σ E code)
  selectSelf : ipc.hasSelf = true → ∀ n < cfg.messageSizeSteps, ∀ σ E code s,
    SelfAt cfg ipc Idle σ E (ipc.selectSelf n ++ code) s →
    Does cfg ipc own s (SelfAt cfg ipc (SelfSwept n) σ E code)
  armSelf : ipc.hasSelf = true → ∀ n < cfg.messageSizeSteps, ∀ σ E code s,
    SelfAt cfg ipc (SelfSwept n) σ E (ipc.arm ++ code) s →
    Does cfg ipc own s (SelfAt cfg ipc (SelfReady n) σ E code)
  transferSelf : ipc.hasSelf = true → ∀ n < cfg.messageSizeSteps, ∀ σ E code s,
    SelfAt cfg ipc (SelfReady n) σ E (ipc.transferSelf n ++ tSelfFeed n code) s →
    Does cfg ipc own s (SelfAt cfg ipc (SelfSettled n) σ E (tSelfFeed n code))
  select : ∀ d, ∀ n < cfg.messageSizeSteps, ∀ σ E code s,
    Scene cfg ipc d Idle σ E (blocked ipc d (ipc.select d n ++ code)) s →
    Does cfg ipc own s (Scene cfg ipc d (Swept d n) σ E (blocked ipc d code))
  arm : ∀ d, ∀ n < cfg.messageSizeSteps, ∀ σ E code s,
    Scene cfg ipc d (Swept d n) σ E (blocked ipc d (ipc.arm ++ code)) s →
    Does cfg ipc own s (Scene cfg ipc d (Ready d n) σ E (blocked ipc d code))
  recv : ∀ d, ∀ n < cfg.messageSizeSteps, ∀ σ E τ L code s,
    TracedScene cfg ipc d (Ready d n) σ E τ L
      (receiving ipc d (recvMessage ipc d) (armAfterRecv ipc d n code)) s →
    Does cfg ipc own s (TracedScene cfg ipc d (Waiting d n) σ E τ (recvLog d n ++ L)
      (armed ipc d n (armAfterRecv ipc d n code)))
  sendUp : ∀ n < cfg.messageSizeSteps, ∀ σ E τ L code s,
    TracedScene cfg ipc .up (Waiting .up n) σ E τ L
      (sending ipc .up n (sendMessage ipc .up) (mseriesFeed ipc .up n ++ code)) s →
    Does cfg ipc own s (TracedScene cfg ipc .up (Settled .up n) σ E τ (sendLog .up n ++ L)
      (sent ipc .up [tRecvThread .up, tSendThread .up] (afterRecv ipc .up)
        (mseriesFeed ipc .up n ++ code)))
  sendDown : ∀ n < cfg.messageSizeSteps, ∀ σ E τ L code s,
    TracedScene cfg ipc .down (Waiting .down n) σ E τ L
      (sending ipc .down n (sendMessage ipc .down) (mseriesFeed ipc .down n ++ code)) s →
    Does cfg ipc own s (TracedScene cfg ipc .down (Delivered n) σ E τ (sendLog .down n ++ L)
      (sent ipc .down [tSendThread .down, tRecvThread .down]
        (receivedDown.map act ++ afterRecv ipc .down) (mseriesFeed ipc .down n ++ code)))
  receivedDown_settles : ∀ n < cfg.messageSizeSteps, ∀ σ E τ L code s,
    TracedScene cfg ipc .down (Delivered n) σ E τ L
      (receiving ipc .down (receivedDown.map act ++ afterRecv ipc .down) code) s →
    Does cfg ipc own s (TracedScene cfg ipc .down (Settled .down n) σ E τ (receivedLog n ++ L)
      (receiving ipc .down (afterRecv ipc .down) code))
  finish : ∀ d, ∀ n < cfg.messageSizeSteps, ∀ σ E code s,
    Scene cfg ipc d (Settled d n) σ E (blocked ipc d (ipc.finish d ++ code)) s →
    Does cfg ipc own s (Scene cfg ipc d (Swept d n) σ E (blocked ipc d code))

end ZephyrBench.Itc

/-
ZephyrBench.Itc.Mailbox — `mailbox_async` and `mailbox_sync` make the hand-off,
with fresh descriptors.

A mailbox stores nothing: the receiver waits with its descriptor, the match
completes it, and the receiver copies the message. `k_mbox_put()` pends the
sender until then, `k_mbox_async_put()` does not. So in `up` the receiver copies
at once in both tests. In `down` the sender of `mailbox_async` goes on before the
copy, and that of `mailbox_sync` after it: what the receiver has still to do then
(`receivedDown`) is where the two protocols differ.

The match writes into both descriptors, so between two messages they hold what
the last one left. `arm_descriptors()` stores the fields that the next call reads
(`arm_leads`); `Idle` therefore asks nothing of the descriptors, and `Ready`
asks for armed ones. The own claim of these tests is `MailboxStmt`, about the
calls that read a descriptor.
-/
import ZephyrBench.Itc.Descriptors

namespace ZephyrBench.Itc

open Rtos Rtos.Exec Thread Object Series Marker

variable {B : Bmth} {cfg : Config} {σ : Series → B.Series} {E : List HistEntry}

attribute [local simp] Good HandoffStmt ScenarioStmt SelfStmt isTransfer taskIdlePrio tSelfPrio
  tArmPrio blocked receiving armed sending sent recvMessage sendMessage Prog.takeIrq program
  MailboxStmt SelfTransferStmt sendObject recvObject

/-- The tests that pass descriptors. -/
inductive MailboxTest
  | async
  | sync

namespace MailboxTest

variable (B) in
def ipc : MailboxTest → Ipc B
  | .async => mailboxAsync
  | .sync => mailboxSync

/-- No message is in a mailbox, and `tx_buffer` has every message. -/
structure Empty (cfg : Config) (T : MailboxTest) (x : Store) : Prop where
  self : T = .async → x.chan (.self 0) = .mbox []
  dir : ∀ d, x.chan (.dir d 0) = .mbox []
  buf : (x.data.buf .txBuffer).length = messageSizeMax cfg

/-- No message is under way. -/
structure Idle (cfg : Config) (T : MailboxTest) (x : Store) : Prop extends Empty cfg T x where
  free : x.data.asyncFree ≠ 0

/-- The control task is in step `n`. -/
def Swept (cfg : Config) (T : MailboxTest) (n : Nat) (x : Store) : Prop :=
  T.Idle cfg x ∧ x.vars.messageSize = messageSize n

/-- Both descriptors are armed. -/
def Ready (cfg : Config) (T : MailboxTest) (n : Nat) (x : Store) : Prop :=
  T.Swept cfg n x ∧ TxArmed n (x.data.msg .txMsg) ∧ RxArmed n (x.data.msg .rxMsg)

/-- The receiver waits for a message. -/
def Waiting (cfg : Config) (T : MailboxTest) (d : Dir) (n : Nat) (x : Store) : Prop :=
  T.Ready cfg n x ∧ x.data.swap (tRecvThread d) = .message .rxMsg

/-- The message has been received. -/
def Settled (cfg : Config) (T : MailboxTest) (n : Nat) (x : Store) : Prop :=
  T.Swept cfg n x ∧ Received n x.data

/-- The receiver of `down` has been given the message, and in `mailbox_sync`
has taken it. -/
def Delivered (cfg : Config) : MailboxTest → Nat → Store → Prop
  | .async, n, x =>
    Empty cfg .async x ∧ x.vars.messageSize = messageSize n ∧
      (x.data.msg .rxMsg).size = messageSize n ∧ (x.data.msg .rxMsg).txData = some .txBuffer ∧
      (x.data.msg .rxMsg).syncing = .async
  | .sync, n, x => Settled cfg .sync n x

theorem idle_armDescriptors {T : MailboxTest} {x : Store} (h : T.Idle cfg x) :
    T.Idle cfg x.armDescriptors :=
  ⟨⟨h.self, h.dir, h.buf⟩, h.free⟩

theorem ready_armDescriptors {T : MailboxTest} {n : Nat} {x : Store} (h : T.Swept cfg n x) :
    T.Ready cfg n x.armDescriptors :=
  ⟨⟨idle_armDescriptors h.1, h.2⟩, txArmed_armDescriptors h.2, rxArmed_armDescriptors h.2⟩

attribute [local simp] ipc mailboxAsync mailboxSync Kernel.initObj Kernel.mboxPut
  Kernel.mboxAsyncPut Kernel.mboxGet Kernel.mboxDataCheck Kernel.findReceiver Kernel.findSender
  Kernel.mboxMatch Kernel.pendAt Kernel.release Kernel.setData Data.setMsg Data.setSwap
  Data.copyTo Assign.set

variable {code : Code B} {n : Nat}

theorem init_leads (T : MailboxTest) (s : TestState B)
    (h : IdleAt (· = bootStore cfg) σ E ((T.ipc B).init ++ code) s) :
    Does cfg (T.ipc B) (MailboxStmt cfg (T.ipc B)) s (IdleAt (T.Idle cfg) σ E code) := by
  have hfree := Nat.ne_of_gt cfg.one_le_numMboxAsyncMsgs
  have hdata : s.kern.data = bootData cfg := congrArg Store.data h.store
  have hinit : Does cfg (T.ipc B) (MailboxStmt cfg (T.ipc B)) s
      (IdleAt (T.Idle cfg) σ E (armDescriptors ++ code)) := by
    obtain ⟨⟨_, _⟩, _, _, _, _, _, _, _, _⟩ := h
    cases T
    case async =>
      iterate 3
        refine .step (by simp [*, DescriptorStmt]) ?_
        simp [*]
      refine .done ?_
      constructor
      case store =>
        refine ⟨⟨?_, ?_, ?_⟩, ?_⟩
        all_goals simp [*, bootData, Dir.forall]
      all_goals simp [*]
    case sync =>
      iterate 2
        refine .step (by simp [*, DescriptorStmt]) ?_
        simp [*]
      refine .done ?_
      constructor
      case store =>
        refine ⟨⟨?_, ?_, ?_⟩, ?_⟩
        all_goals simp [*, bootData, Dir.forall]
      all_goals simp [*]
  refine hinit.bind ?_
  intro s h
  exact armDescriptors_leads storesAt_idle
    (fun _ _ _ _ hI h => { h with store := hI _ h.store }) s h fun _ => idle_armDescriptors

/-- `message_size` is set and the descriptors armed in `I_Task`. -/
theorem rearm_leads (T : MailboxTest) (s : TestState B)
    (h : IdleAt (T.Idle cfg) σ E (rearmDescriptors ++ code) s) :
    Does cfg (T.ipc B) (MailboxStmt cfg (T.ipc B)) s (IdleAt (T.Idle cfg) σ E code) := by
  have hset : Does cfg (T.ipc B) (MailboxStmt cfg (T.ipc B)) s
      (IdleAt (T.Idle cfg) σ E (armDescriptors ++ code)) := by
    obtain ⟨⟨hself, hdir, hbuf⟩, hfree⟩ := h.store
    obtain ⟨⟨_, _⟩, _, _, _, _, _, _, _, _⟩ := h
    refine .step (by simp [*, rearmDescriptors, DescriptorStmt]) ?_
    simp [*, rearmDescriptors]
    refine .done ?_
    constructor
    case store => exact ⟨⟨hself, hdir, hbuf⟩, hfree⟩
    all_goals simp [*]
  refine hset.bind ?_
  intro s h
  exact armDescriptors_leads storesAt_idle
    (fun _ _ _ _ hI h => { h with store := hI _ h.store }) s h fun _ => idle_armDescriptors

theorem before_leads (T : MailboxTest) (d : Dir) (s : TestState B)
    (h : IdleAt (T.Idle cfg) σ E ((T.ipc B).before d ++ code) s) :
    Does cfg (T.ipc B) (MailboxStmt cfg (T.ipc B)) s (IdleAt (T.Idle cfg) σ E code) := by
  cases T
  case async => exact rearm_leads .async s h
  case sync =>
    cases d
    case up => exact .done h
    case down => exact rearm_leads .sync s h

theorem selectSelf_leads (s : TestState B)
    (h : SelfAt cfg mailboxAsync (Idle cfg .async) σ E (mailboxAsync.selectSelf n ++ code) s) :
    Does cfg mailboxAsync (MailboxStmt cfg mailboxAsync) s
      (SelfAt cfg mailboxAsync (Swept cfg .async n) σ E code) := by
  obtain ⟨⟨hself, hdir, hbuf⟩, hfree⟩ := h.store
  obtain ⟨⟨_, _⟩, _, _, _, _, _, _, _, _, _, _⟩ := h
  refine .step (by simp [*, DescriptorStmt]) ?_
  simp [*]
  refine .done ?_
  constructor
  case store => exact ⟨⟨⟨hself, hdir, hbuf⟩, hfree⟩, rfl⟩
  all_goals simp [*]

theorem armSelf_leads (T : MailboxTest) (s : TestState B)
    (h : SelfAt cfg (T.ipc B) (T.Swept cfg n) σ E (armDescriptors ++ code) s) :
    Does cfg (T.ipc B) (MailboxStmt cfg (T.ipc B)) s
      (SelfAt cfg (T.ipc B) (T.Ready cfg n) σ E code) :=
  armDescriptors_leads storesAt_self
    (fun _ _ _ _ hI h => { h with store := hI _ h.store }) s h fun _ => ready_armDescriptors

theorem select_leads (T : MailboxTest) (d : Dir) (s : TestState B)
    (h : Scene cfg (T.ipc B) d (T.Idle cfg) σ E
      (blocked (T.ipc B) d ((T.ipc B).select d n ++ code)) s) :
    Does cfg (T.ipc B) (MailboxStmt cfg (T.ipc B)) s
      (Scene cfg (T.ipc B) d (T.Swept cfg n) σ E (blocked (T.ipc B) d code)) := by
  obtain ⟨⟨hself, hdir, hbuf⟩, hfree⟩ := h.store
  obtain ⟨_, _, _, _, _, _, _, _, _, _, _, _, _, _⟩ := h
  cases T
  all_goals
    refine .step (by simp [*, DescriptorStmt]) ?_
    simp [*]
    refine .done ?_
    constructor
    case store => exact ⟨⟨⟨hself, hdir, hbuf⟩, hfree⟩, rfl⟩
    all_goals simp [*]

theorem arm_leads (T : MailboxTest) (d : Dir) (s : TestState B)
    (h : Scene cfg (T.ipc B) d (T.Swept cfg n) σ E (blocked (T.ipc B) d ((T.ipc B).arm ++ code))
      s) :
    Does cfg (T.ipc B) (MailboxStmt cfg (T.ipc B)) s
      (Scene cfg (T.ipc B) d (T.Ready cfg n) σ E (blocked (T.ipc B) d code)) := by
  have hrecv : ∀ vars a b, (T.ipc B).recv d vars ≠ .kMboxDataCheck a b := by
    cases T <;> simp
  have harm : (T.ipc B).arm = armDescriptors := by
    cases T <;> rfl
  rw [harm] at h
  exact armDescriptors_leads (storesAt_blocked hrecv)
    (fun _ _ _ _ hI h => { h with store := hI _ h.store }) s h fun _ => ready_armDescriptors

theorem transferSelf_leads (hn : n < cfg.messageSizeSteps) (s : TestState B)
    (h : SelfAt cfg mailboxAsync (Ready cfg .async n) σ E
      (mailboxAsync.transferSelf n ++ tSelfFeed n code) s) :
    Does cfg mailboxAsync (MailboxStmt cfg mailboxAsync) s
      (SelfAt cfg mailboxAsync (Settled cfg .async n) σ E (tSelfFeed n code)) := by
  obtain ⟨⟨⟨⟨hself, hdir, hbuf⟩, hfree⟩, hsize⟩, htx, hrx⟩ := h.store
  have hself := hself rfl
  have hle := messageSize_le hn
  have hcopied := copied_copyTo (hbuf ▸ hle)
  obtain ⟨htxInfo, htxSize, htxData, htxTarget⟩ := htx
  obtain ⟨hrxInfo, hrxSize, hrxSource⟩ := hrx
  simp only at hself hdir hbuf hfree htxInfo htxSize htxData htxTarget
  simp only at hrxInfo hrxSize hrxSource
  simp only [message, Data.copyTo] at hcopied
  have hpos := messageSize_pos n
  have hnext : ∃ m, m < cfg.messageSizeSteps ∧ n = m := ⟨n, hn, rfl⟩
  obtain ⟨⟨_, _⟩, _, _, _, _, _, _, _, _, _, _⟩ := h
  refine .step ?_ ?_
  · simp [*, DescriptorStmt, TxArmed, Iterates, nextSeries, tSelfFeed, Unused, Stored, insertPrio,
      Itc.Empty]
  simp [*, insertPrio]
  refine .step ?_ ?_
  · simp [*, DescriptorStmt, RxArmed, Iterates, nextSeries, tSelfFeed, Unused, Stored, Itc.Empty]
  simp [*]
  refine .step (by simp [*, DescriptorStmt]) ?_
  simp [*]
  refine .done ?_
  constructor
  case store =>
    refine ⟨⟨⟨⟨fun _ => by simp, ?_, by simpa using hbuf⟩, by simp⟩, hsize⟩, by simp, hcopied⟩
    intro d
    simpa using hdir d
  all_goals simp [*]

/-- The history of the wait for a message, latest entry first. -/
def recvLog (d : Dir) : List HistEntry :=
  [ .switch (some (tRecvThread d)) (some tArmThread),
    .exec (tRecvThread d) (.call (.kMboxGet (.chan (.dir d 0)) .rxMsg .forever)) ]

/-- The call of the sender. -/
def put (T : MailboxTest) (d : Dir) : HistEntry :=
  .exec (tSendThread d) <| .call <| match T with
    | .async => .kMboxAsyncPut (.chan (.dir d 0)) .txMsg
    | .sync => .kMboxPut (.chan (.dir d 0)) .txMsg .forever

/-- The history of the rest of the receiver's call. -/
def receivedLog (d : Dir) : List HistEntry :=
  [.exec (tRecvThread d) (.call (.kMboxDataCheck .rxMsg .rxBuffer))]

/-- The history of the transfer to a waiting receiver. -/
def sendLog : MailboxTest → Dir → List HistEntry
  | T, .up =>
    receivedLog .up ++ [.switch (some (tSendThread .up)) (some (tRecvThread .up)), T.put .up]
  | .async, .down => [put .async .down]
  | .sync, .down =>
    .switch (some (tRecvThread .down)) (some (tSendThread .down)) :: receivedLog .down ++
      [.switch (some (tSendThread .down)) (some (tRecvThread .down)), put .sync .down]

/-- What the receiver of `down` still does when the sender waits again. -/
def receivedDown : MailboxTest → List Action
  | .async => [.call (.kMboxDataCheck .rxMsg .rxBuffer)]
  | .sync => []

/-- The history of that. -/
def receivedDownLog : MailboxTest → List HistEntry
  | .async => receivedLog .down
  | .sync => []

attribute [local simp] recvLog put receivedLog sendLog receivedDown receivedDownLog tSendPrio
  tRecvPrio

variable {τ : Marker → Nat} {L : List HistEntry}

theorem recv_leads (hn : n < cfg.messageSizeSteps) (T : MailboxTest) (d : Dir) (s : TestState B)
    (h : TracedScene cfg (T.ipc B) d (T.Ready cfg n) σ E τ L
      (receiving (T.ipc B) d (recvMessage (T.ipc B) d) (armAfterRecv (T.ipc B) d n code)) s) :
    Does cfg (T.ipc B) (MailboxStmt cfg (T.ipc B)) s
      (TracedScene cfg (T.ipc B) d (T.Waiting cfg d n) σ E τ (recvLog d ++ L)
        (armed (T.ipc B) d n (armAfterRecv (T.ipc B) d n code))) := by
  have hevents := h.eventLog
  obtain ⟨⟨⟨⟨hself, hdir, hbuf⟩, hfree⟩, hsize⟩, htx, hrx⟩ := h.store
  have harmed : ∃ m, m < cfg.messageSizeSteps ∧ n = m ∧ RxArmed m (s.kern.data.msg .rxMsg) :=
    ⟨n, hn, rfl, hrx⟩
  simp only at hself hdir htx hrx
  obtain ⟨⟨_, _, _, _, _, _, _, _, _, _, _, _, _⟩, _, _⟩ := h
  cases T
  all_goals
    refine .step ?_ ?_
    · simp [*, DescriptorStmt, Iterates, nextSeries, armAfterRecv, mwindowsOpen]
    simp [*]
    refine .done ?_
    constructor
    · constructor
      case store =>
        refine ⟨⟨⟨⟨⟨hself, hdir, hbuf⟩, hfree⟩, hsize⟩, ?_, ?_⟩, ?_⟩
        · simpa using htx
        · simpa [RxArmed] using hrx
        · simp
      all_goals simp [*]
    all_goals simp [*]

/-- What the sender and the receiver that waits have in the kernel's data. -/
structure Meets (n : Nat) (d : Dir) (x : Data Thread Addr) : Prop where
  tx : TxArmed n (x.msg .txMsg)
  rx : RxArmed n (x.msg .rxMsg)
  swap : x.swap (tRecvThread d) = .message .rxMsg
  copied : Copied n (x.copyTo .rxBuffer 0 (message n x))

theorem meets_of_waiting (hn : n < cfg.messageSizeSteps) {T : MailboxTest} {d : Dir}
    {s : TestState B} (h : T.Waiting cfg d n (store s)) : Meets n d s.kern.data := by
  obtain ⟨⟨⟨hidle, -⟩, htx, hrx⟩, hswap⟩ := h
  exact ⟨htx, hrx, hswap, copied_copyTo (hidle.buf ▸ messageSize_le hn)⟩

theorem sendUp_leads (hn : n < cfg.messageSizeSteps) (T : MailboxTest) (s : TestState B)
    (h : TracedScene cfg (T.ipc B) .up (T.Waiting cfg .up n) σ E τ L
      (sending (T.ipc B) .up n (sendMessage (T.ipc B) .up)
        (mseriesFeed (T.ipc B) .up n ++ code)) s) :
    Does cfg (T.ipc B) (MailboxStmt cfg (T.ipc B)) s
      (TracedScene cfg (T.ipc B) .up (T.Settled cfg n) σ E τ (T.sendLog .up ++ L)
        (sent (T.ipc B) .up [tRecvThread .up, tSendThread .up] (afterRecv (T.ipc B) .up)
          (mseriesFeed (T.ipc B) .up n ++ code))) := by
  have hevents := h.eventLog
  obtain ⟨⟨⟨⟨⟨hself, hdir, hbuf⟩, hfree⟩, hsize⟩, htx, -⟩, -⟩ := h.store
  have harmed : ∃ m, m < cfg.messageSizeSteps ∧ n = m ∧ TxArmed m (s.kern.data.msg .txMsg) :=
    ⟨n, hn, rfl, htx⟩
  obtain ⟨⟨htxInfo, htxSize, htxData, htxTarget⟩, ⟨hrxInfo, hrxSize, hrxSource⟩, hswap, hcopied⟩ :=
    meets_of_waiting hn h.store
  simp only at hself hdir hbuf hfree
  simp only [message, Data.copyTo] at hcopied
  have hle := messageSize_le hn
  have hpos := messageSize_pos n
  obtain ⟨⟨_, _, _, _, _, _, _, _, _, _, _, _, _⟩, _, _⟩ := h
  cases T
  all_goals
    refine .step ?_ ?_
    · simp [*, DescriptorStmt, Iterates, nextSeries, mseriesFeed]
    simp [*]
    refine .step (by simp [*, DescriptorStmt]) ?_
    simp [*]
    refine .done ?_
    constructor
    · constructor
      case store =>
        refine ⟨⟨⟨⟨hself, hdir, by simpa using hbuf⟩, ?_⟩, hsize⟩, by simp, hcopied⟩
        simp [hfree]
      all_goals simp [*]
    all_goals simp [*]

theorem sendDown_leads (hn : n < cfg.messageSizeSteps) (T : MailboxTest) (s : TestState B)
    (h : TracedScene cfg (T.ipc B) .down (T.Waiting cfg .down n) σ E τ L
      (sending (T.ipc B) .down n (sendMessage (T.ipc B) .down)
        (mseriesFeed (T.ipc B) .down n ++ code)) s) :
    Does cfg (T.ipc B) (MailboxStmt cfg (T.ipc B)) s
      (TracedScene cfg (T.ipc B) .down (T.Delivered cfg n) σ E τ (T.sendLog .down ++ L)
        (sent (T.ipc B) .down [tSendThread .down, tRecvThread .down]
          (T.receivedDown.map act ++ afterRecv (T.ipc B) .down)
          (mseriesFeed (T.ipc B) .down n ++ code))) := by
  have hevents := h.eventLog
  obtain ⟨⟨⟨⟨⟨hself, hdir, hbuf⟩, hfree⟩, hsize⟩, htx, -⟩, -⟩ := h.store
  have harmed : ∃ m, m < cfg.messageSizeSteps ∧ n = m ∧ TxArmed m (s.kern.data.msg .txMsg) :=
    ⟨n, hn, rfl, htx⟩
  obtain ⟨⟨htxInfo, htxSize, htxData, htxTarget⟩, ⟨hrxInfo, hrxSize, hrxSource⟩, hswap, hcopied⟩ :=
    meets_of_waiting hn h.store
  simp only at hself hdir hbuf hfree
  simp only [message, Data.copyTo] at hcopied
  have hle := messageSize_le hn
  have hpos := messageSize_pos n
  obtain ⟨⟨_, _, _, _, _, _, _, _, _, _, _, _, _⟩, _, _⟩ := h
  cases T
  case async =>
    refine .step ?_ ?_
    · simp [*, DescriptorStmt, Iterates, nextSeries, mseriesFeed]
    simp [*]
    refine .done ?_
    constructor
    · constructor
      case store => exact ⟨⟨hself, hdir, hbuf⟩, hsize, by simp, by simp, by simp⟩
      all_goals simp [*]
    all_goals simp [*]
  case sync =>
    refine .step ?_ ?_
    · simp [*, DescriptorStmt, Iterates, nextSeries, mseriesFeed]
    simp [*]
    refine .step (by simp [*, DescriptorStmt]) ?_
    simp [*]
    refine .done ?_
    constructor
    · constructor
      case store =>
        exact ⟨⟨⟨⟨hself, hdir, by simpa using hbuf⟩, hfree⟩, hsize⟩, by simp, hcopied⟩
      all_goals simp [*]
    all_goals simp [*]

theorem received_leads (hn : n < cfg.messageSizeSteps) (T : MailboxTest) (s : TestState B)
    (h : TracedScene cfg (T.ipc B) .down (T.Delivered cfg n) σ E τ L
      (receiving (T.ipc B) .down (T.receivedDown.map act ++ afterRecv (T.ipc B) .down) code) s) :
    Does cfg (T.ipc B) (MailboxStmt cfg (T.ipc B)) s
      (TracedScene cfg (T.ipc B) .down (T.Settled cfg n) σ E τ (T.receivedDownLog ++ L)
        (receiving (T.ipc B) .down (afterRecv (T.ipc B) .down) code)) := by
  cases T
  case async =>
    have hevents := h.eventLog
    obtain ⟨⟨hself, hdir, hbuf⟩, hsize, hrxSize, hrxData, hsyncing⟩ := h.store
    have hle := messageSize_le hn
    have hcopied := copied_copyTo (hbuf ▸ hle)
    have hpos := messageSize_pos n
    simp only at hself hdir hbuf hrxSize hrxData hsyncing
    simp only [message, Data.copyTo] at hcopied
    obtain ⟨⟨_, _, _, _, _, _, _, _, _, _, _, _, _⟩, _, _⟩ := h
    refine .step (by simp [*, DescriptorStmt]) ?_
    simp [*]
    refine .done ?_
    constructor
    · constructor
      case store =>
        exact ⟨⟨⟨⟨fun _ => hself trivial, hdir, by simpa using hbuf⟩, by simp⟩, hsize⟩, by simp,
          hcopied⟩
      all_goals simp [*]
    all_goals simp [*]
  case sync => exact .done h

variable (B cfg) in
def protocol (T : MailboxTest) : Protocol cfg (T.ipc B) (MailboxStmt cfg (T.ipc B)) where
  Idle := T.Idle cfg
  SelfSwept := T.Swept cfg
  SelfReady := T.Ready cfg
  SelfSettled := T.Settled cfg
  Swept _ := T.Swept cfg
  Ready _ := T.Ready cfg
  Waiting := T.Waiting cfg
  Delivered := T.Delivered cfg
  Settled _ := T.Settled cfg
  receivedDown := T.receivedDown
  recvLog d _ := recvLog d
  sendLog d _ := T.sendLog d
  receivedLog _ := T.receivedDownLog
  own_common := mailbox_common cfg (T.ipc B)
  own_stop _ _ n hn h hnext := ⟨nofun, n, hn, hnext, h.2⟩
  own_stopSelf _ n hn h hnext := ⟨fun _ => ⟨n, hn, hnext, h.2.2⟩, n, hn, hnext, h.2⟩
  idle_of_selfSwept _ _ h := h.1
  selfSwept_of_settled _ _ h := h.1
  idle_of_swept _ _ _ h := h.1
  empty d x h n _ := by
    have hdir := h.dir d
    cases T <;> simp [hdir, Itc.Empty]
  emptySelf hself x h n _ := by
    cases T
    case async => simp [h.self rfl, Itc.Empty]
    case sync => simp at hself
  peer_sendLog d _ := by cases T <;> cases d <;> simp [ByPeer, IsPeer]
  peer_receivedLog _ := by cases T <;> simp [ByPeer, IsPeer]
  markers_recvLog _ _ := rfl
  markers_sendLog d _ := by cases T <;> cases d <;> rfl
  markers_receivedLog _ := by cases T <;> rfl
  init _ _ _ s h := init_leads T s h
  before d _ _ _ s h := before_leads T d s h
  selectSelf hr _ _ _ _ _ s h := by
    cases T
    case async => exact selectSelf_leads s h
    case sync => simp at hr
  armSelf hr _ _ _ _ _ s h := by
    cases T
    case async => exact armSelf_leads .async s h
    case sync => simp at hr
  transferSelf hr _ hn _ _ _ s h := by
    cases T
    case async => exact transferSelf_leads hn s h
    case sync => simp at hr
  select d _ _ _ _ _ s h := select_leads T d s h
  arm d _ _ _ _ _ s h := arm_leads T d s h
  recv d _ hn _ _ _ _ _ s h := recv_leads hn T d s h
  sendUp _ hn _ _ _ _ _ s h := sendUp_leads hn T s h
  sendDown _ hn _ _ _ _ _ s h := sendDown_leads hn T s h
  receivedDown_settles _ hn _ _ _ _ _ s h := received_leads hn T s h
  finish _ _ _ _ _ _ _ h := by cases T <;> exact .done { h with store := h.store.1 }

end MailboxTest

end ZephyrBench.Itc

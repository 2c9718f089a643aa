/-
ZephyrBench.Itc.Pipe — `pipe_async` and `pipe_sync` make the hand-off.

In both tests the receiver waits for all bytes of the message, and the sender
copies them into its buffer: the ring of a direction stays empty, whether or not
the pipe has one. The tests differ in which pipe serves a direction and in what
`I_Task` initialises before it, so they are two cases of one `protocol`.

Only `T_Self` writes into a ring. The ring is as large as the largest message, so
a write never has to wait, from whatever offset (`writeSelf_leads`), and the read
behind it finds all bytes there and moves the offset on (`readSelf_leads`). Both
are stated for any offset and any further claim: `Itc.PipeRing` uses them again
with the offset of the sweep.
-/
import ZephyrBench.Itc.Messages
import ZephyrBench.Rtos.TransferTheorems

namespace ZephyrBench.Itc

open Rtos Rtos.Exec Thread Object Series Marker

variable {B : Bmth} (cfg : Config)

/-- The tests that pass bytes. -/
inductive PipeTest
  | async
  | sync

namespace PipeTest

variable (B) in
def ipc : PipeTest → Ipc B
  | .async => pipeAsync cfg
  | .sync => pipeSync

/-- The pipe of a direction. -/
def chan : PipeTest → Dir → Channel
  | .async, d => .dir d 0
  | .sync, _ => .dir .up 0

/-- The pipe of a direction, empty. -/
def empty : PipeTest → Obj Thread Addr
  | .async => .pipe (pipeBufferSize cfg) 0 [] []
  | .sync => .pipe 0 0 [] []

/-- Every pipe is empty, and `tx_buffer` has room for every message. -/
structure Idle (T : PipeTest) (x : Store) : Prop where
  self : T = .async → ∃ off, x.chan (.self 0) = .pipe (pipeBufferSize cfg) off [] []
  dir : ∀ d, x.chan (T.chan d) = T.empty cfg
  buf : (x.data.buf .txBuffer).length = messageSizeMax cfg

/-- `T_Arm*` is in step `n`. -/
def Swept (T : PipeTest) (n : Nat) (x : Store) : Prop :=
  T.Idle cfg x ∧ x.vars.messageSize = messageSize n

/-- The receiver waits for a message. -/
def Waiting (T : PipeTest) (d : Dir) (n : Nat) (x : Store) : Prop :=
  T.Swept cfg n x ∧ x.data.swap (tRecvThread d) = .buffer .rxBuffer (messageSize n) 0

/-- The message has been received. -/
def Settled (T : PipeTest) (n : Nat) (x : Store) : Prop := T.Swept cfg n x ∧ Copied n x.data

/-- `T_Self` has received the message. -/
def SelfSettled (T : PipeTest) (n : Nat) (x : Store) : Prop := T.Idle cfg x ∧ Copied n x.data

/-- The sweep variable is the message size of step `n`. -/
def reads (vars : Vars) (_ : Dir) (n : Nat) : Prop := vars.messageSize = messageSize n

/-- What is claimed of the statements of the tests. -/
def own (T : PipeTest) (s : TestState B) (t : Thread) (st : Statement B) : Prop :=
  SelfTransferStmt cfg (T.ipc B cfg) s t st ∧ SweepStmt cfg (T.ipc B cfg) reads s t st

theorem own_common (T : PipeTest) (s : TestState B) (t : Thread) (st : Statement B)
    (h : isCommon s st = true) : T.own cfg s t st :=
  ⟨selfTransfer_common s t st h, sweep_common s t st h⟩

attribute [local simp] Good HandoffStmt ScenarioStmt SelfStmt isTransfer taskIdlePrio tSelfPrio
  tArmPrio blocked receiving armed sending sent recvMessage sendMessage Prog.takeIrq program ipc
  chan empty pipeAsync pipeSync Kernel.initObj Kernel.pipeReset Kernel.setData Data.setSwap
  Data.copyTo pipeBufferSize Assign.set own SelfTransferStmt SweepStmt sendObject recvObject

variable {σ : Series → B.Series} {E : List HistEntry} {code : Code B}

theorem init_leads (T : PipeTest) (s : TestState B)
    (h : IdleAt (· = bootStore cfg) σ E ((T.ipc B cfg).init ++ code) s) :
    Does cfg (T.ipc B cfg) (T.own cfg) s (IdleAt (T.Idle cfg) σ E code) := by
  have hbuf : (s.kern.data.buf .txBuffer).length = messageSizeMax cfg := by
    have hdata : s.kern.data = bootData cfg := congrArg Store.data h.store
    simp [hdata, bootData]
  obtain ⟨⟨_, _⟩, _, _, _, _, _, _, _, _⟩ := h
  cases T
  case async =>
    iterate 3
      refine .step (by simp [*]) ?_
      simp [*]
    refine .done ?_
    constructor
    case store => constructor <;> simp [*, Dir.forall]
    all_goals simp [*]
  case sync =>
    refine .step (by simp [*]) ?_
    simp [*]
    refine .done ?_
    constructor
    case store => constructor <;> simp [*]
    all_goals simp [*]

variable {cfg} {n : Nat}

theorem before_leads (T : PipeTest) (d : Dir) (s : TestState B)
    (h : IdleAt (T.Idle cfg) σ E ((T.ipc B cfg).before d ++ code) s) :
    Does cfg (T.ipc B cfg) (T.own cfg) s (IdleAt (T.Idle cfg) σ E code) := by
  cases T
  case async => exact .done h
  case sync =>
    cases d
    case up => exact .done h
    case down =>
      have hbuf := h.store.buf
      obtain ⟨⟨_, _⟩, _, _, _, _, _, _, _, _⟩ := h
      refine .step (by simp [*]) ?_
      simp [*]
      refine .done ?_
      constructor
      case store => constructor <;> simp [*]
      all_goals simp [*]

/-- The ring of `T_Self` holds `bytes`, the first of them at `offset`; the others
are empty. -/
structure SelfRing (cfg : Config) (offset : Nat) (bytes : Data Thread Addr → List UInt8)
    (x : Store) : Prop where
  self : x.chan (.self 0) = .pipe (pipeBufferSize cfg) offset (bytes x.data) []
  dir : ∀ d, x.chan (.dir d 0) = .pipe (pipeBufferSize cfg) 0 [] []
  buf : (x.data.buf .txBuffer).length = messageSizeMax cfg

theorem SelfRing.idle {off : Nat} {x : Store} (h : SelfRing cfg off (fun _ => []) x) :
    Idle cfg .async x :=
  ⟨fun _ => ⟨off, h.self⟩, h.dir, h.buf⟩

theorem Idle.selfRing {x : Store} (h : Idle cfg .async x) :
    ∃ off, SelfRing cfg off (fun _ => []) x := by
  obtain ⟨off, hself⟩ := h.self rfl
  exact ⟨off, hself, h.dir, h.buf⟩

/-- The transfers of `T_Self`. -/
def writeSelf (n : Nat) : Call Thread Object Addr EntryFn :=
  .kPipeWrite (.chan (.self 0)) .txBuffer (messageSize n) .forever

def readSelf (n : Nat) : Call Thread Object Addr EntryFn :=
  .kPipeRead (.chan (.self 0)) .rxBuffer (messageSize n) .forever

/-- A message of `T_Self` goes into the ring. -/
theorem writeSelf_leads {own : TestState B → Thread → Statement B → Prop} {off : Nat}
    (hn : n < cfg.messageSizeSteps) (s : TestState B)
    (h : SelfAt cfg (pipeAsync cfg) (SelfRing cfg off fun _ => []) σ E
      (kcall (writeSelf n) :: code) s)
    (hown : own s tSelfThread (kcall (writeSelf n))) :
    Does cfg (pipeAsync cfg) own s
      (SelfAt cfg (pipeAsync cfg) (SelfRing cfg off (message n)) σ E code) := by
  obtain ⟨hself, hdir, hbuf⟩ := h.store
  have hle := messageSize_le hn
  have hlen : messageSize n ≤ (s.kern.data.buf .txBuffer).length := hbuf ▸ hle
  have hwrite := Kernel.pipeWrite_room tSelfThread .forever hself (h.waitq _) hlen hle
  simp only [pipeBufferSize] at hself
  simp only [writeSelf] at hown
  obtain ⟨⟨_, _⟩, _, _, _, _, _, _, _, _, _, _⟩ := h
  refine .step (by simp [*, writeSelf]) ?_
  simp [*, writeSelf]
  refine .done ?_
  constructor
  case store =>
    refine ⟨by simp [message], ?_, by simpa using hbuf⟩
    intro d
    simpa using hdir d
  all_goals simp [*]

/-- And out of it, which moves the offset on. -/
theorem readSelf_leads {own : TestState B → Thread → Statement B → Prop} {off : Nat}
    (hn : n < cfg.messageSizeSteps) (s : TestState B)
    (h : SelfAt cfg (pipeAsync cfg) (SelfRing cfg off (message n)) σ E
      (kcall (readSelf n) :: code) s)
    (hown : own s tSelfThread (kcall (readSelf n))) :
    Does cfg (pipeAsync cfg) own s (SelfAt cfg (pipeAsync cfg)
      (fun x => SelfRing cfg ((off + messageSize n) % pipeBufferSize cfg) (fun _ => []) x ∧
        Copied n x.data) σ E code) := by
  obtain ⟨hself, hdir, hbuf⟩ := h.store
  have hlen : messageSize n ≤ (s.kern.data.buf .txBuffer).length := hbuf ▸ messageSize_le hn
  have hcopied := copied_copyTo hlen
  have hlength : (message n s.kern.data).length = messageSize n := length_message hlen
  have hread := Kernel.pipeRead_stored tSelfThread .rxBuffer .forever hself hlength
    (messageSize_pos _)
  simp only [readSelf] at hown
  obtain ⟨⟨_, _⟩, _, _, _, _, _, _, _, _, _, _⟩ := h
  refine .step (by simp [*, readSelf]) ?_
  simp [*, readSelf]
  refine .done ?_
  constructor
  case store =>
    refine ⟨⟨by simp, ?_, by simpa using hbuf⟩, ?_⟩
    · intro d
      simpa using hdir d
    · simpa [message] using hcopied
  all_goals simp [*]

theorem own_writeSelf {off : Nat} (hn : n < cfg.messageSizeSteps) {s : TestState B}
    (h : SelfAt cfg (pipeAsync cfg) (SelfRing cfg off fun _ => []) σ E
      (kcall (writeSelf n) :: kcall (readSelf n) :: tSelfFeed n code) s) :
    own cfg .async s tSelfThread (kcall (writeSelf n)) := by
  obtain ⟨hself, -, hbuf⟩ := h.store
  have hle := messageSize_le hn
  have hwrite := Kernel.pipeWrite_room tSelfThread .forever hself (h.waitq _) (hbuf ▸ hle) hle
  have hnext : ∃ m, m < cfg.messageSizeSteps ∧ n = m := ⟨n, hn, rfl⟩
  simp only [pipeBufferSize] at hself
  obtain ⟨⟨_, _⟩, _, _, _, _, _, _, _, _, _, _⟩ := h
  simp [*, writeSelf, Iterates, nextSeries, tSelfFeed, Unused, Stored, message, Empty]

theorem own_readSelf {off : Nat} (hn : n < cfg.messageSizeSteps) {s : TestState B}
    (h : SelfAt cfg (pipeAsync cfg) (SelfRing cfg off (message n)) σ E
      (kcall (readSelf n) :: tSelfFeed n code) s) :
    own cfg .async s tSelfThread (kcall (readSelf n)) := by
  obtain ⟨hself, -, hbuf⟩ := h.store
  have hlength : (message n s.kern.data).length = messageSize n :=
    length_message (hbuf ▸ messageSize_le hn)
  have hread := Kernel.pipeRead_stored tSelfThread .rxBuffer .forever hself hlength
    (messageSize_pos _)
  have hnext : ∃ m, m < cfg.messageSizeSteps ∧ n = m := ⟨n, hn, rfl⟩
  simp only [pipeBufferSize] at hself
  obtain ⟨⟨_, _⟩, _, _, _, _, _, _, _, _, _, _⟩ := h
  simp [*, readSelf, Iterates, nextSeries, tSelfFeed, Stored, Empty]

theorem transferSelf_leads (hn : n < cfg.messageSizeSteps) (s : TestState B)
    (h : SelfAt cfg (pipeAsync cfg) (Idle cfg .async) σ E
      ((pipeAsync cfg).transferSelf n ++ tSelfFeed n code) s) :
    Does cfg (pipeAsync cfg) (own cfg .async) s
      (SelfAt cfg (pipeAsync cfg) (SelfSettled cfg .async n) σ E (tSelfFeed n code)) := by
  obtain ⟨off, hring⟩ := h.store.selfRing
  have hwrite : SelfAt cfg (pipeAsync cfg) (SelfRing cfg off fun _ => []) σ E
      (kcall (writeSelf n) :: kcall (readSelf n) :: tSelfFeed n code) s :=
    { h with store := hring }
  refine (writeSelf_leads hn s hwrite (own_writeSelf hn hwrite)).bind ?_
  intro t ht
  refine (readSelf_leads hn t ht (own_readSelf hn ht)).mono ?_
  intro u hu
  exact { hu with store := ⟨hu.store.1.idle, hu.store.2⟩ }

theorem select_leads (T : PipeTest) (d : Dir) (s : TestState B)
    (h : Scene cfg (T.ipc B cfg) d (T.Idle cfg) σ E
      (blocked (T.ipc B cfg) d ((T.ipc B cfg).select d n ++ code)) s) :
    Does cfg (T.ipc B cfg) (T.own cfg) s
      (Scene cfg (T.ipc B cfg) d (T.Swept cfg n) σ E (blocked (T.ipc B cfg) d code)) := by
  obtain ⟨hself, hdir, hbuf⟩ := h.store
  obtain ⟨_, _, _, _, _, _, _, _, _, _, _, _, _⟩ := h
  cases T
  all_goals
    refine .step (by simp [*]) ?_
    simp [*]
    refine .done ?_
    constructor
    case store => exact ⟨⟨hself, hdir, hbuf⟩, rfl⟩
    all_goals simp [*]

/-- The history of the wait for a message, latest entry first. -/
def recvLog (T : PipeTest) (d : Dir) (n : Nat) : List HistEntry :=
  [ .switch (some (tRecvThread d)) (some tArmThread),
    .exec (tRecvThread d)
      (.call (.kPipeRead (.chan (T.chan d)) .rxBuffer (messageSize n) .forever)) ]

/-- The history of the transfer to a waiting receiver. -/
def sendLog (T : PipeTest) (d : Dir) (n : Nat) : List HistEntry :=
  let write : HistEntry := .exec (tSendThread d)
    (.call (.kPipeWrite (.chan (T.chan d)) .txBuffer (messageSize n) .forever))
  match d with
  | .up => [.switch (some (tSendThread .up)) (some (tRecvThread .up)), write]
  | .down => [write]

attribute [local simp] recvLog sendLog tSendPrio tRecvPrio peersReady

variable {τ : Marker → Nat} {L : List HistEntry}

theorem recv_leads (hn : n < cfg.messageSizeSteps) (T : PipeTest) (d : Dir) (s : TestState B)
    (h : TracedScene cfg (T.ipc B cfg) d (T.Swept cfg n) σ E τ L
      (receiving (T.ipc B cfg) d (recvMessage (T.ipc B cfg) d)
        (armAfterRecv (T.ipc B cfg) d n code)) s) :
    Does cfg (T.ipc B cfg) (T.own cfg) s (TracedScene cfg (T.ipc B cfg) d (T.Waiting cfg d n) σ E
      τ (T.recvLog d n ++ L) (armed (T.ipc B cfg) d n (armAfterRecv (T.ipc B cfg) d n code))) := by
  have hevents := h.eventLog
  obtain ⟨⟨hself, hdir, hbuf⟩, hsize⟩ := h.store
  obtain ⟨⟨_, _, _, _, _, _, _, _, _, _, _, _, _⟩, _, _⟩ := h
  cases T
  all_goals
    have hread := Kernel.pipeRead_empty (k := s.kern) (tRecvThread d) .rxBuffer (hdir d)
      (messageSize_pos n)
    have hobj := hdir d
    simp only [chan, empty] at hread hsize hobj
    refine .step ?_ ?_
    · simp [*]
      refine ⟨n, ?_⟩
      constructor <;>
        simp [*, Iterates, nextSeries, armAfterRecv, mwindowsOpen, reads, Unused, Empty]
    simp [*]
    refine .done ?_
    constructor
    · constructor
      case store => exact ⟨⟨⟨hself, hdir, hbuf⟩, hsize⟩, by simp⟩
      all_goals simp [*]
    all_goals simp [*]

/-- What the write of the sender finds and makes of it. -/
theorem delivers (hn : n < cfg.messageSizeSteps) (T : PipeTest) {d : Dir} {I : Store → Prop}
    {sendCode : Code B} (s : TestState B)
    (h : Scene cfg (T.ipc B cfg) d I σ E
      (sending (T.ipc B cfg) d n sendCode (mseriesFeed (T.ipc B cfg) d n ++ code)) s)
    (hI : T.Waiting cfg d n (store s)) :
    Delivers cfg (T.ipc B cfg) reads d n (.chan (T.chan d))
      (.kPipeWrite (.chan (T.chan d)) .txBuffer (messageSize n) .forever) s := by
  obtain ⟨⟨⟨hself, hdir, hbuf⟩, hsize⟩, hswap⟩ := hI
  have hle := messageSize_le hn
  have hwaitq := h.waitq (T.chan d)
  have hcopied := copied_copyTo (hbuf ▸ hle)
  simp only [message, Data.copyTo] at hcopied
  obtain ⟨_, _, _, _, _, _, _, _, _, _, _, _, _⟩ := h
  cases T
  all_goals
    have hwrite := Kernel.pipeWrite_waiting (tSendThread d) .forever (hdir d)
      (by simpa using hwaitq) hswap (messageSize_pos n) (hbuf ▸ hle)
    have hobj := hdir d
    simp only [chan, empty] at hwrite hsize hswap hobj
    constructor <;> simp [*, Iterates, reads, Empty, nextSeries, mseriesFeed]
    exact hcopied

theorem send_leads (hn : n < cfg.messageSizeSteps) (T : PipeTest) (d : Dir) (s : TestState B)
    (h : TracedScene cfg (T.ipc B cfg) d (T.Waiting cfg d n) σ E τ L
      (sending (T.ipc B cfg) d n (sendMessage (T.ipc B cfg) d)
        (mseriesFeed (T.ipc B cfg) d n ++ code)) s) :
    Does cfg (T.ipc B cfg) (T.own cfg) s (TracedScene cfg (T.ipc B cfg) d (T.Settled cfg n) σ E
      τ (T.sendLog d n ++ L)
      (sent (T.ipc B cfg) d (peersReady d) (afterRecv (T.ipc B cfg) d)
        (mseriesFeed (T.ipc B cfg) d n ++ code))) := by
  have hevents := h.eventLog
  have hdelivers := delivers hn T s h.toScene h.store
  obtain ⟨⟨⟨hself, hdir, hbuf⟩, hsize⟩, hswap⟩ := h.store
  have hcopied := hdelivers.copied
  have hwaitq := h.waitq (T.chan d)
  have hlen := hdelivers.length
  obtain ⟨⟨_, _, _, _, _, _, _, _, _, _, _, _, _⟩, _, _⟩ := h
  cases T
  all_goals
    have hwrite := Kernel.pipeWrite_waiting (tSendThread d) .forever (hdir d)
      (by simpa using hwaitq) hswap (messageSize_pos n) hlen
    simp only [chan] at hwrite hsize hdelivers
    cases d
    all_goals
      refine .step ?_ ?_
      · simp [*]
        exact ⟨n, hdelivers⟩
      simp [*]
      refine .done ?_
      constructor
      · constructor
        case store =>
          refine ⟨⟨⟨hself, hdir, by simpa using hbuf⟩, hsize⟩, ?_⟩
          simpa [*] using hcopied
        all_goals simp [*]
      all_goals simp [*]

theorem finish_leads (T : PipeTest) (d : Dir) (s : TestState B)
    (h : Scene cfg (T.ipc B cfg) d (T.Settled cfg n) σ E
      (blocked (T.ipc B cfg) d ((T.ipc B cfg).finish d ++ code)) s) :
    Does cfg (T.ipc B cfg) (T.own cfg) s
      (Scene cfg (T.ipc B cfg) d (T.Swept cfg n) σ E (blocked (T.ipc B cfg) d code)) := by
  cases T
  case async =>
    obtain ⟨⟨⟨hself, hdir, hbuf⟩, hsize⟩, -⟩ := h.store
    have hobj := hdir d
    simp only [chan, empty, pipeBufferSize] at hobj
    have hsame := Kernel.update_of_eq hobj
    obtain ⟨_, _, _, _, _, _, _, _, _, _, _, _, _⟩ := h
    refine .step (by simp [*]) ?_
    simp [*]
    refine .done ?_
    constructor
    case store => exact ⟨⟨hself, hdir, hbuf⟩, hsize⟩
    all_goals simp [*]
  case sync => exact .done { h with store := h.store.1 }

theorem empty_of_idle (T : PipeTest) {x : Store} (h : T.Idle cfg x) (d : Dir) (n : Nat) :
    Empty (x.chan ((T.ipc B cfg).channel d n)) := by
  have hdir := h.dir d
  cases T <;> simp_all [Empty]

theorem emptySelf_of_idle (T : PipeTest) (hself : (T.ipc B cfg).hasSelf = true) {x : Store}
    (h : T.Idle cfg x) (n : Nat) : Empty (x.chan ((T.ipc B cfg).selfChannel n)) := by
  cases T
  case async =>
    obtain ⟨off, hobj⟩ := h.self rfl
    simp [hobj, Empty]
  case sync => simp at hself

variable (B cfg) in
def protocol (T : PipeTest) : Protocol cfg (T.ipc B cfg) (T.own cfg) where
  Idle := T.Idle cfg
  SelfSwept _ := T.Idle cfg
  SelfReady _ := T.Idle cfg
  SelfSettled := T.SelfSettled cfg
  Swept _ := T.Swept cfg
  Ready _ := T.Swept cfg
  Waiting := T.Waiting cfg
  Delivered := T.Settled cfg
  Settled _ := T.Settled cfg
  receivedDown := []
  recvLog := T.recvLog
  sendLog := T.sendLog
  receivedLog _ := []
  own_common := own_common cfg T
  own_stop _ _ _ hn h hnext := recvStop hn hnext h.2
  own_stopSelf _ _ hn h hnext := selfStop hn hnext h.2
  idle_of_selfSwept _ _ h := h
  selfSwept_of_settled _ _ h := h.1
  idle_of_swept _ _ _ h := h.1
  empty d _ h n _ := empty_of_idle T h d n
  emptySelf hself _ h n _ := emptySelf_of_idle T hself h n
  peer_sendLog d _ := by cases d <;> simp [ByPeer, IsPeer]
  peer_receivedLog := peer_nothing
  markers_recvLog _ _ := rfl
  markers_sendLog d _ := by cases d <;> rfl
  markers_receivedLog := markers_nothing
  init _ _ _ s h := init_leads cfg T s h
  before d _ _ _ s h := before_leads T d s h
  selectSelf _ _ _ _ _ _ _ h := by cases T <;> exact .done h
  armSelf _ _ _ _ _ _ _ h := by cases T <;> exact .done h
  transferSelf hr _ hn _ _ _ s h := by
    cases T
    case async => exact transferSelf_leads hn s h
    case sync => simp at hr
  select d _ _ _ _ _ s h := select_leads T d s h
  arm _ _ _ _ _ _ _ h := by cases T <;> exact .done h
  recv d _ hn _ _ _ _ _ s h := recv_leads hn T d s h
  sendUp _ hn _ _ _ _ _ s h := send_leads hn T .up s h
  sendDown _ hn _ _ _ _ _ s h := send_leads hn T .down s h
  receivedDown_settles _ _ _ _ _ _ _ _ h := by cases T <;> exact .done h
  finish d _ _ _ _ _ s h := finish_leads T d s h

end PipeTest

end ZephyrBench.Itc

/-
ZephyrBench.Itc.Msgq — `msgq` makes the hand-off.

Every step has queues of its own, for messages of its size, and `active_msgq`
points to the queue of the step while `T_Arm*` is in it. So the stages of a step
say which queue is selected, and all queues stay empty between the transactions:
a put finds a receiver that waits and copies straight into its buffer.

`I_Task` initialises the queues in a loop over the steps, which is an induction of
its own (`initMsgqs_pass`, `Inited`). Only `T_Self` stores a message, and takes
it out again in the next statement (`transferSelf_leads`).

`protocol` collects the stages and what leads from one to the next.
-/
import ZephyrBench.Itc.Messages

namespace ZephyrBench.Itc.Msgq

open Rtos Rtos.Exec Thread Object Series Marker

variable {B : Bmth} (cfg : Config)

/-- The queue of step `n`, empty. -/
def empty (n : Nat) : Obj Thread Addr := .msgq (messageSize n) msgqMaxMsgs []

/-- The queues of the first `k` steps are empty. -/
def Inited (k : Nat) (x : Store) : Prop :=
  ∀ n < k, x.chan (.self n) = empty n ∧ ∀ d, x.chan (.dir d n) = empty n

/-- Every queue is empty, and `tx_buffer` has every message. -/
structure Idle (x : Store) : Prop where
  inited : Inited cfg.messageSizeSteps x
  buf : (x.data.buf .txBuffer).length = messageSizeMax cfg

/-- `T_Arm*` is in step `n`. -/
def Swept (d : Dir) (n : Nat) (x : Store) : Prop :=
  Idle cfg x ∧ x.vars.activeMsgq = .dir d n

/-- The receiver waits for a message. -/
def Waiting (d : Dir) (n : Nat) (x : Store) : Prop :=
  Swept cfg d n x ∧ x.data.swap (tRecvThread d) = .buffer .rxBuffer (messageSize n) 0

/-- The message has been received. -/
def Settled (d : Dir) (n : Nat) (x : Store) : Prop := Swept cfg d n x ∧ Copied n x.data

/-- `T_Self` has received the message. -/
def SelfSettled (n : Nat) (x : Store) : Prop := Idle cfg x ∧ Copied n x.data

/-- The sweep variable points to the queue of step `n`. -/
def reads (vars : Vars) (d : Dir) (n : Nat) : Prop := vars.activeMsgq = .dir d n

/-- What is claimed of the statements of the test. -/
def own (s : TestState B) (t : Thread) (st : Statement B) : Prop :=
  SelfTransferStmt cfg (msgq cfg) s t st ∧ SweepStmt cfg (msgq cfg) reads s t st

theorem own_common (s : TestState B) (t : Thread) (st : Statement B) (h : isCommon s st = true) :
    own cfg s t st :=
  ⟨selfTransfer_common s t st h, sweep_common s t st h⟩

attribute [local simp] Good HandoffStmt ScenarioStmt SelfStmt isTransfer taskIdlePrio tSelfPrio
  tArmPrio blocked receiving armed sending sent recvMessage sendMessage Prog.takeIrq program empty
  msgq Kernel.initObj Kernel.msgqPut Kernel.msgqGet Kernel.setData Data.setSwap Data.copyTo
  msgqMaxMsgs Assign.set own SelfTransferStmt SweepStmt sendObject recvObject

variable {σ : Series → B.Series} {E : List HistEntry} {code : Code B}

/-- The queues of a step are initialised. -/
theorem initMsgqs_pass {i : Nat} (hi : i < cfg.messageSizeSteps) {L : Nat} (s : TestState B)
    (h : IdleAt (fun x => Inited i x ∧ (x.data.buf .txBuffer).length = L) σ E
      (initMsgqs cfg i :: code) s) :
    Does cfg (msgq cfg) (own cfg) s
      (IdleAt (fun x => Inited (i + 1) x ∧ (x.data.buf .txBuffer).length = L) σ E
        (initMsgqs cfg (i + 1) :: code)) := by
  obtain ⟨hstore, hbuf⟩ := h.store
  obtain ⟨⟨_, _⟩, _, _, _, _, _, _, _, _⟩ := h
  iterate 4
    refine .step (by simp [*, initMsgqs]) ?_
    simp [*, initMsgqs]
  refine .done ?_
  constructor
  case store =>
    refine ⟨?_, hbuf⟩
    intro n hn
    obtain hlt | rfl := Nat.lt_succ_iff_lt_or_eq.mp hn
    · obtain ⟨hself, hdir⟩ := hstore n hlt
      have hne := Nat.ne_of_lt hlt
      simp_all [Dir.forall]
    · simp [Dir.forall]
  all_goals simp [*]

theorem init_leads (s : TestState B)
    (h : IdleAt (· = bootStore cfg) σ E ((msgq cfg).init ++ code) s) :
    Does cfg (msgq cfg) (own cfg) s (IdleAt (Idle cfg) σ E code) := by
  have hbuf : (s.kern.data.buf .txBuffer).length = messageSizeMax cfg := by
    have hdata : s.kern.data = bootData cfg := congrArg Store.data h.store
    simp [hdata, bootData]
  have h₀ : IdleAt (fun x => Inited 0 x ∧ (x.data.buf .txBuffer).length = messageSizeMax cfg) σ E
      (initMsgqs cfg 0 :: code) s :=
    { h with store := ⟨fun n hn => absurd hn (Nat.not_lt_zero n), hbuf⟩ }
  refine Leads.bind (Leads.loop (n := cfg.messageSizeSteps) (S := fun i =>
    IdleAt (fun x => Inited i x ∧ (x.data.buf .txBuffer).length = messageSizeMax cfg) σ E
      (initMsgqs cfg i :: code)) (fun i hi => initMsgqs_pass cfg hi) h₀) ?_
  intro t ht
  obtain ⟨hinited, hbuf⟩ := ht.store
  obtain ⟨⟨_, _⟩, _, _, _, _, _, _, _, _⟩ := ht
  refine .step (by simp [*, initMsgqs]) ?_
  simp [*, initMsgqs]
  refine .done ?_
  constructor
  case store => exact ⟨hinited, hbuf⟩
  all_goals simp [*]

variable {cfg} {n : Nat}

/-- Only the queue of step `n` has changed, and it is empty again. -/
theorem inited_of_update {x y : Store}
    (h : Inited cfg.messageSizeSteps x) (hself : y.chan (.self n) = empty n)
    (hrest : ∀ c, c ≠ .self n → y.chan c = x.chan c) : Inited cfg.messageSizeSteps y := by
  intro m hm
  refine ⟨?_, fun d => by rw [hrest _ (by simp), (h m hm).2]⟩
  by_cases hmn : m = n
  · rw [hmn, hself]
  · rw [hrest _ (by simpa using hmn), (h m hm).1]

theorem transferSelf_leads (hn : n < cfg.messageSizeSteps) (s : TestState B)
    (h : SelfAt cfg (msgq cfg) (Idle cfg) σ E ((msgq cfg).transferSelf n ++ tSelfFeed n code) s) :
    Does cfg (msgq cfg) (own cfg) s
      (SelfAt cfg (msgq cfg) (SelfSettled cfg n) σ E (tSelfFeed n code)) := by
  obtain ⟨hinited, hbuf⟩ := h.store
  have hself := (hinited n hn).1
  have hcopied := copied_copyTo (hbuf ▸ messageSize_le hn)
  have hnext : ∃ m, m < cfg.messageSizeSteps ∧ n = m := ⟨n, hn, rfl⟩
  simp only [empty] at hself
  obtain ⟨⟨_, _⟩, _, _, _, _, _, _, _, _, _⟩ := h
  iterate 2
    refine .step ?_ ?_
    · simp [*, Iterates, nextSeries, tSelfFeed, Unused, Stored, message, Empty]
    simp [*]
  refine .done ?_
  constructor
  case store =>
    refine ⟨⟨inited_of_update (n := n) hinited (by simp) fun c hc => ?_, ?_⟩, hcopied⟩
    · simp [hc]
    · simpa using hbuf
  all_goals simp [*]

theorem select_leads (d : Dir) (s : TestState B)
    (h : Scene cfg (msgq cfg) d (Idle cfg) σ E
      (blocked (msgq cfg) d ((msgq cfg).select d n ++ code)) s) :
    Does cfg (msgq cfg) (own cfg) s
      (Scene cfg (msgq cfg) d (Swept cfg d n) σ E (blocked (msgq cfg) d code)) := by
  have hstore := h.store
  obtain ⟨_, _, _, _, _, _, _, _, _, _, _, _, _⟩ := h
  refine .step (by simp [*]) ?_
  simp [*]
  refine .done ?_
  constructor
  case store => exact ⟨⟨hstore.inited, hstore.buf⟩, rfl⟩
  all_goals simp [*]

/-- The history of the wait for a message, latest entry first. -/
def recvLog (d : Dir) (n : Nat) : List HistEntry :=
  [ .switch (some (tRecvThread d)) (some tArmThread),
    .exec (tRecvThread d) (.call (.kMsgqGet (.chan (.dir d n)) .rxBuffer .forever)) ]

/-- The history of the transfer to a waiting receiver. -/
def sendLog (d : Dir) (n : Nat) : List HistEntry :=
  let put : HistEntry :=
    .exec (tSendThread d) (.call (.kMsgqPut (.chan (.dir d n)) .txBuffer .forever))
  match d with
  | .up => [.switch (some (tSendThread .up)) (some (tRecvThread .up)), put]
  | .down => [put]

attribute [local simp] recvLog sendLog tSendPrio tRecvPrio peersReady

variable {τ : Marker → Nat} {L : List HistEntry}

theorem recv_leads (hn : n < cfg.messageSizeSteps) (d : Dir) (s : TestState B)
    (h : TracedScene cfg (msgq cfg) d (Swept cfg d n) σ E τ L
      (receiving (msgq cfg) d (recvMessage (msgq cfg) d) (armAfterRecv (msgq cfg) d n code)) s) :
    Does cfg (msgq cfg) (own cfg) s (TracedScene cfg (msgq cfg) d (Waiting cfg d n) σ E τ
      (recvLog d n ++ L) (armed (msgq cfg) d n (armAfterRecv (msgq cfg) d n code))) := by
  have hevents := h.eventLog
  obtain ⟨⟨hinited, hbuf⟩, hactive⟩ := h.store
  have hobj := (hinited n hn).2 d
  simp only [empty] at hobj hactive
  obtain ⟨⟨_, _, _, _, _, _, _, _, _, _, _, _, _⟩, _, _⟩ := h
  refine .step ?_ ?_
  · simp [*]
    refine ⟨n, ?_⟩
    constructor <;> simp [*, Iterates, nextSeries, armAfterRecv, mwindowsOpen, reads, Unused, Empty]
  simp [*]
  refine .done ?_
  constructor
  · constructor
    case store => exact ⟨⟨⟨hinited, hbuf⟩, hactive⟩, by simp⟩
    all_goals simp [*]
  all_goals simp [*]

/-- What the put of the sender finds and makes of it. -/
theorem delivers (hn : n < cfg.messageSizeSteps) {d : Dir} {I : Store → Prop}
    {sendCode : Code B} (s : TestState B)
    (h : Scene cfg (msgq cfg) d I σ E
      (sending (msgq cfg) d n sendCode (mseriesFeed (msgq cfg) d n ++ code)) s)
    (hI : Waiting cfg d n (store s)) :
    Delivers cfg (msgq cfg) reads d n (.chan (.dir d n))
      (.kMsgqPut (.chan (.dir d n)) .txBuffer .forever) s := by
  obtain ⟨⟨⟨hinited, hbuf⟩, hactive⟩, hswap⟩ := hI
  have hle := messageSize_le hn
  have hcopied := copied_copyTo (hbuf ▸ hle)
  have hobj := (hinited n hn).2 d
  simp only [empty] at hobj hactive hswap
  simp only [message, Data.copyTo] at hcopied
  obtain ⟨_, _, _, _, _, _, _, _, _, _, _, _, _⟩ := h
  constructor <;> simp [*, Iterates, reads, Empty, nextSeries, mseriesFeed]

theorem send_leads (hn : n < cfg.messageSizeSteps) (d : Dir) (s : TestState B)
    (h : TracedScene cfg (msgq cfg) d (Waiting cfg d n) σ E τ L
      (sending (msgq cfg) d n (sendMessage (msgq cfg) d)
        (mseriesFeed (msgq cfg) d n ++ code)) s) :
    Does cfg (msgq cfg) (own cfg) s (TracedScene cfg (msgq cfg) d (Settled cfg d n) σ E τ
      (sendLog d n ++ L)
      (sent (msgq cfg) d (peersReady d) (afterRecv (msgq cfg) d)
        (mseriesFeed (msgq cfg) d n ++ code))) := by
  have hevents := h.eventLog
  have hdelivers := delivers hn s h.toScene h.store
  obtain ⟨⟨⟨hinited, hbuf⟩, hactive⟩, hswap⟩ := h.store
  have hcopied := hdelivers.copied
  have hobj := (hinited n hn).2 d
  simp only [empty] at hobj hactive hswap
  obtain ⟨⟨_, _, _, _, _, _, _, _, _, _, _, _, _⟩, _, _⟩ := h
  cases d
  all_goals
    refine .step ?_ ?_
    · simp [*]
      exact ⟨n, hdelivers⟩
    simp [*]
    refine .done ?_
    constructor
    · constructor
      case store =>
        refine ⟨⟨⟨hinited, ?_⟩, hactive⟩, ?_⟩
        · simpa using hbuf
        · simpa [*] using hcopied
      all_goals simp [*]
    all_goals simp [*]

variable (B cfg) in
def protocol : Protocol (B := B) cfg (msgq cfg) (own cfg) where
  Idle := Idle cfg
  SelfSwept _ := Idle cfg
  SelfReady _ := Idle cfg
  SelfSettled := SelfSettled cfg
  Swept := Swept cfg
  Ready := Swept cfg
  Waiting := Waiting cfg
  Delivered := Settled cfg .down
  Settled := Settled cfg
  receivedDown := []
  recvLog := recvLog
  sendLog := sendLog
  receivedLog _ := []
  own_common := own_common cfg
  own_stop _ _ _ hn h hnext := recvStop hn hnext h.2
  own_stopSelf _ _ hn h hnext := selfStop hn hnext h.2
  idle_of_selfSwept _ _ h := h
  selfSwept_of_settled _ _ h := h.1
  idle_of_swept _ _ _ h := h.1
  empty d x h n hn := by simp [(h.inited n hn).2 d, Empty]
  emptySelf _ x h n hn := by simp [(h.inited n hn).1, Empty]
  peer_sendLog d _ := by cases d <;> simp [ByPeer, IsPeer]
  peer_receivedLog := peer_nothing
  markers_recvLog _ _ := rfl
  markers_sendLog d _ := by cases d <;> rfl
  markers_receivedLog := markers_nothing
  init _ _ _ s h := init_leads cfg s h
  before _ _ _ _ _ h := .done h
  selectSelf _ _ _ _ _ _ _ h := .done h
  armSelf _ _ _ _ _ _ _ h := .done h
  transferSelf _ _ hn _ _ _ s h := transferSelf_leads hn s h
  select d _ _ _ _ _ s h := select_leads d s h
  arm _ _ _ _ _ _ _ h := .done h
  recv d _ hn _ _ _ _ _ s h := recv_leads hn d s h
  sendUp _ hn _ _ _ _ _ s h := send_leads hn .up s h
  sendDown _ hn _ _ _ _ _ s h := send_leads hn .down s h
  receivedDown_settles _ _ _ _ _ _ _ _ h := .done h
  finish _ _ _ _ _ _ _ h := .done { h with store := h.store.1 }

end ZephyrBench.Itc.Msgq

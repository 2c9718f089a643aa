/-
ZephyrBench.Itc.Addresses — `fifo`, `lifo` and `stack` make the hand-off.

The three tests pass the address of one item. A put with a waiting receiver hands
it the address, a put without one stores it, and only `T_Self` makes a put
without one. The object is empty between the transactions, so one invariant
serves the three objects, and `T.empty` and `T.full` are the only forms that an
object ever has.

`AddressStmt` is the own claim of these tests: what a put or a get finds, what it
makes of it, and that the item is the one that was sent. `Itc.AddressTheorems`
reads from it that at most one item is ever under way.
-/
import ZephyrBench.Itc.Messages

namespace ZephyrBench.Itc

open Rtos Rtos.Exec Thread Object Series Marker

variable {B : Bmth} (cfg : Config)

/-- The tests that pass an address. -/
inductive AddressTest
  | fifo
  | lifo
  | stack

namespace AddressTest

variable (B) in
def ipc : AddressTest → Ipc B
  | .fifo => Itc.fifo
  | .lifo => Itc.lifo
  | .stack => Itc.stack

/-- The object, empty. -/
def empty : AddressTest → Obj Thread Addr
  | .fifo => .queue []
  | .lifo => .queue []
  | .stack => .stack [] stackMaxEntries

/-- The object with the item. -/
def full : AddressTest → Obj Thread Addr
  | .fifo => .queue [.testItem]
  | .lifo => .queue [.testItem]
  | .stack => .stack [.testItem] stackMaxEntries

/-- What `t` finds when it is about to put or to get an item, what the call
makes of it, and the item at the assignment to `rx_item` and the stop marker. -/
def AddressStmt (T : AddressTest) (s : TestState B) (t : Thread) : Statement B → Prop
  | .call c =>
    (∀ o, sendObject (c s.mem) = some o → s.kern.obj o = T.empty ∧
      (t = tSelfThread ∧ o = .chan (.self 0) ∧ s.kern.waitq o = [] ∧
          (s.kern.call (c s.mem)).obj o = T.full ∨
        ∃ d, t = tSendThread d ∧ o = .chan (.dir d 0) ∧ s.kern.waitq o = [tRecvThread d] ∧
          (s.kern.call (c s.mem)).data.ret (tRecvThread d) = some .testItem ∧
          (s.kern.call (c s.mem)).pend (tRecvThread d) = .no ∧
          (s.kern.call (c s.mem)).obj o = T.empty)) ∧
    ∀ o, recvObject (c s.mem) = some o →
      t = tSelfThread ∧ o = .chan (.self 0) ∧ s.kern.obj o = T.full ∧
          (s.kern.call (c s.mem)).data.ret tSelfThread = some .testItem ∧
          (s.kern.call (c s.mem)).obj o = T.empty ∨
        ∃ d, t = tRecvThread d ∧ c s.mem = (T.ipc B).recv d s.mem.vars ∧
          o = .chan (.dir d 0) ∧ s.kern.obj o = T.empty ∧ s.kern.waitq o = []
  | .prim (.assign .rxItem) => s.kern.data.ret t = some .testItem
  | .prim (.getStopCnt testStopTime) => s.mem.vars.rxItem = some .testItem
  | _ => True

theorem address_common (T : AddressTest) (s : TestState B) (t : Thread) (st : Statement B)
    (h : isCommon s st = true) : T.AddressStmt s t st := by
  cases st with
  | call c => cases hc : c s.mem <;> simp_all [AddressStmt, isCommon, sendObject, recvObject]
  | prim q =>
    cases q with
    | getStopCnt x => cases x <;> simp_all [AddressStmt, isCommon]
    | assign w => cases w <;> simp_all [AddressStmt, isCommon]
    | _ => trivial
  | _ => trivial

/-- Every object is empty. -/
def Idle (T : AddressTest) (x : Store) : Prop :=
  x.chan (.self 0) = T.empty ∧ ∀ d, x.chan (.dir d 0) = T.empty

/-- The item has been received. -/
def Settled (T : AddressTest) (x : Store) : Prop := T.Idle x ∧ x.vars.rxItem = some .testItem

/-- The receiver of `down` has been given the item. -/
def Delivered (T : AddressTest) (x : Store) : Prop :=
  T.Idle x ∧ x.data.ret (tRecvThread .down) = some .testItem

attribute [local simp] Good HandoffStmt ScenarioStmt SelfStmt isTransfer AddressStmt sendObject
  recvObject taskIdlePrio tSelfPrio tArmPrio blocked receiving armed sending sent recvMessage
  sendMessage Prog.takeIrq program ipc empty full Itc.fifo Itc.lifo Itc.stack addressIpc
  Kernel.initObj Kernel.queueInsert Kernel.queueGet Kernel.stackPush Kernel.stackPop
  Kernel.setData Data.setRet stackMaxEntries Assign.set

theorem init_leads (T : AddressTest) (σ : Series → B.Series) (E : List HistEntry) (code : Code B)
    (s : TestState B) (h : IdleAt (· = bootStore cfg) σ E ((T.ipc B).init ++ code) s) :
    Does cfg (T.ipc B) T.AddressStmt s (IdleAt T.Idle σ E code) := by
  obtain ⟨⟨_, _⟩, _, _, _, _, _, _, _, _⟩ := h
  cases T
  all_goals
    iterate 3
      refine .step (by simp [*]) ?_
      simp [*]
    refine .done ?_
    constructor <;> simp [*, Idle, Dir.forall]

variable {cfg} {n : Nat} {σ : Series → B.Series} {E : List HistEntry} {code : Code B}

theorem transferSelf_leads (T : AddressTest) (s : TestState B)
    (h : SelfAt cfg (T.ipc B) T.Idle σ E ((T.ipc B).transferSelf n ++ code) s) :
    Does cfg (T.ipc B) T.AddressStmt s (SelfAt cfg (T.ipc B) T.Settled σ E code) := by
  obtain ⟨hself, hdir⟩ := h.store
  obtain ⟨⟨_, _⟩, _, _, _, ⟨_, _, _, _⟩, ⟨_, _, _, _⟩, _, _, _, _, _⟩ := h
  cases T
  all_goals
    simp only [empty] at hself hdir
    iterate 3
      refine .step (by simp [*]) ?_
      simp [*]
    refine .done ?_
    constructor <;> simp [*, Settled, Idle]

variable (B) in
/-- The history of the wait for a message, latest entry first. -/
def recvLog (T : AddressTest) (d : Dir) : List HistEntry :=
  [ .switch (some (tRecvThread d)) (some tArmThread),
    .exec (tRecvThread d) (.call ((T.ipc B).recv d bootVars)) ]

/-- The history of the receiver's assignment. -/
def receivedLog (d : Dir) : List HistEntry :=
  [.exec (tRecvThread d) (.prim (.assign .rxItem))]

variable (B) in
/-- The history of the transfer to a waiting receiver. -/
def sendLog (T : AddressTest) : Dir → List HistEntry
  | .up => receivedLog .up ++
    [ .switch (some (tSendThread .up)) (some (tRecvThread .up)),
      .exec (tSendThread .up) (.call ((T.ipc B).send .up bootVars)) ]
  | .down => [.exec (tSendThread .down) (.call ((T.ipc B).send .down bootVars))]

attribute [local simp] recvLog receivedLog sendLog tSendPrio tRecvPrio

variable {τ : Marker → Nat} {L : List HistEntry}

theorem recv_leads (T : AddressTest) (d : Dir) (s : TestState B)
    (h : TracedScene cfg (T.ipc B) d T.Idle σ E τ L
      (receiving (T.ipc B) d (recvMessage (T.ipc B) d) code) s) :
    Does cfg (T.ipc B) T.AddressStmt s (TracedScene cfg (T.ipc B) d T.Idle σ E τ
      (recvLog B T d ++ L) (armed (T.ipc B) d n code)) := by
  have hevents := h.eventLog
  obtain ⟨hself, hdir⟩ := h.store
  obtain ⟨⟨_, _, _, _, _, _, _, _, _, _, _, _, _⟩, _, _⟩ := h
  cases T
  all_goals
    simp only [empty] at hself hdir
    refine .step (by simp [*]) ?_
    simp [*]
    refine .done ?_
    constructor
    · constructor <;> simp [*, Idle]
    all_goals simp [*]

theorem sendUp_leads (T : AddressTest) (s : TestState B)
    (h : TracedScene cfg (T.ipc B) .up T.Idle σ E τ L
      (sending (T.ipc B) .up n (sendMessage (T.ipc B) .up) code) s) :
    Does cfg (T.ipc B) T.AddressStmt s (TracedScene cfg (T.ipc B) .up T.Settled σ E τ
      (sendLog B T .up ++ L)
      (sent (T.ipc B) .up [tRecvThread .up, tSendThread .up] (afterRecv (T.ipc B) .up) code)) := by
  have hevents := h.eventLog
  obtain ⟨hself, hdir⟩ := h.store
  obtain ⟨⟨_, _, _, _, _, _, _, _, _, _, _, _, _⟩, _, _⟩ := h
  cases T
  all_goals
    simp only [empty] at hself hdir
    iterate 2
      refine .step (by simp [*]) ?_
      simp [*]
    refine .done ?_
    constructor
    · constructor <;> simp [*, Settled, Idle]
    all_goals simp [*]

theorem sendDown_leads (T : AddressTest) (s : TestState B)
    (h : TracedScene cfg (T.ipc B) .down T.Idle σ E τ L
      (sending (T.ipc B) .down n (sendMessage (T.ipc B) .down) code) s) :
    Does cfg (T.ipc B) T.AddressStmt s (TracedScene cfg (T.ipc B) .down T.Delivered σ E τ
      (sendLog B T .down ++ L)
      (sent (T.ipc B) .down [tSendThread .down, tRecvThread .down]
        ((T.ipc B).received.map act ++ afterRecv (T.ipc B) .down) code)) := by
  have hevents := h.eventLog
  obtain ⟨hself, hdir⟩ := h.store
  obtain ⟨⟨_, _, _, _, _, _, _, _, _, _, _, _, _⟩, _, _⟩ := h
  cases T
  all_goals
    simp only [empty] at hself hdir
    refine .step (by simp [*]) ?_
    simp [*]
    refine .done ?_
    constructor
    · constructor <;> simp [*, Delivered, Idle]
    all_goals simp [*]

theorem received_leads (T : AddressTest) (s : TestState B)
    (h : TracedScene cfg (T.ipc B) .down T.Delivered σ E τ L
      (receiving (T.ipc B) .down ((T.ipc B).received.map act ++ afterRecv (T.ipc B) .down) code)
      s) :
    Does cfg (T.ipc B) T.AddressStmt s (TracedScene cfg (T.ipc B) .down T.Settled σ E τ
      (receivedLog .down ++ L) (receiving (T.ipc B) .down (afterRecv (T.ipc B) .down) code)) := by
  have hevents := h.eventLog
  obtain ⟨⟨hself, hdir⟩, hret⟩ := h.store
  obtain ⟨⟨_, _, _, _, _, _, _, _, _, _, _, _, _⟩, _, _⟩ := h
  cases T
  all_goals
    simp only [empty] at hself hdir hret
    refine .step (by simp [*]) ?_
    simp [*]
    refine .done ?_
    constructor
    · constructor <;> simp [*, Settled, Idle]
    all_goals simp [*]

variable (B cfg) in
def protocol (T : AddressTest) : Protocol cfg (T.ipc B) T.AddressStmt where
  Idle := T.Idle
  SelfSwept _ := T.Idle
  SelfReady _ := T.Idle
  SelfSettled _ := T.Settled
  Swept _ _ := T.Idle
  Ready _ _ := T.Idle
  Waiting _ _ := T.Idle
  Delivered _ := T.Delivered
  Settled _ _ := T.Settled
  receivedDown := (T.ipc B).received
  recvLog d _ := recvLog B T d
  sendLog d _ := sendLog B T d
  receivedLog _ := receivedLog .down
  own_common := address_common T
  own_stop _ _ _ _ h _ := h.2
  own_stopSelf _ _ _ h _ := h.2
  idle_of_selfSwept _ _ h := h
  selfSwept_of_settled _ _ h := h.1
  idle_of_swept _ _ _ h := h
  empty d x h n _ := by cases T <;> simp [h.2, Empty]
  emptySelf _ x h n _ := by cases T <;> simp [h.1, Empty]
  peer_sendLog d _ := by cases T <;> cases d <;> simp [ByPeer, IsPeer]
  peer_receivedLog _ := by simp [ByPeer, IsPeer]
  markers_recvLog d _ := by cases T <;> rfl
  markers_sendLog d _ := by cases T <;> cases d <;> rfl
  markers_receivedLog _ := rfl
  init := init_leads cfg T
  before _ _ _ _ _ h := by cases T <;> exact .done h
  selectSelf _ _ _ _ _ _ _ h := by cases T <;> exact .done h
  armSelf _ _ _ _ _ _ _ h := by cases T <;> exact .done h
  transferSelf _ _ _ _ _ _ s h := transferSelf_leads T s h
  select _ _ _ _ _ _ _ h := by cases T <;> exact .done h
  arm _ _ _ _ _ _ _ h := by cases T <;> exact .done h
  recv d _ _ _ _ _ _ _ s h := recv_leads T d s h
  sendUp _ _ _ _ _ _ _ s h := sendUp_leads T s h
  sendDown _ _ _ _ _ _ _ s h := sendDown_leads T s h
  receivedDown_settles _ _ _ _ _ _ _ s h := received_leads T s h
  finish _ _ _ _ _ _ _ h := by cases T <;> exact .done { h with store := h.store.1 }

end AddressTest

end ZephyrBench.Itc

/-
ZephyrBench.Itc.Descriptors — the message descriptors of the mailbox tests.

The kernel writes into both descriptors at every match, so `arm_descriptors()`
stores the fields that a call reads before every transaction. `DescriptorStmt` is
what is claimed of the calls and of the stores: at every put and every get the
descriptor has the fields of the step (`TxArmed`, `RxArmed`), nobody is inside a
call of a mailbox when a descriptor is stored to (`InMbox`), and when the
receiver's call returns the message of the step is in `rx_buffer`.

Three tasks call `arm_descriptors()`: `I_Task`, `T_Self` and `T_Arm*`. What the
places have in common is `StoresAt`: a store to a descriptor finds nobody inside
a call of a mailbox, and changes the store of the scene and nothing else. Each
kind of scene has that (`storesAt_idle`, `storesAt_self`, `storesAt_blocked`), and
the sequence of stores is executed once (`armDescriptors_leads`).
-/
import ZephyrBench.Itc.Messages

namespace ZephyrBench.Itc

open Rtos Rtos.Exec Thread Object Series Marker

variable {B : Bmth} (cfg : Config) (ipc : Ipc B)

/-! ## 1. Descriptors -/

/-- `tx_msg` is armed for step `n`. -/
def TxArmed (n : Nat) (m : MboxMsg Thread Addr) : Prop :=
  m.info = 0 ∧ m.size = messageSize n ∧ m.txData = some .txBuffer ∧ m.txTargetThread = none

/-- `rx_msg` is armed for step `n`. -/
def RxArmed (n : Nat) (m : MboxMsg Thread Addr) : Prop :=
  m.info = 0 ∧ m.size = messageSize n ∧ m.rxSourceThread = none

/-- The message of step `n` is in `rx_buffer`, and `rx_msg` has its size. -/
def Received (n : Nat) (d : Data Thread Addr) : Prop :=
  (d.msg .rxMsg).size = messageSize n ∧ Copied n d

/-- `u` is inside a call of a mailbox: it is pended in one, or has the rest of
`k_mbox_get()` to do. -/
def InMbox (s : TestState B) (u : Thread) : Prop :=
  s.kern.alive u = true ∧
    ((∃ c, s.kern.pend u = .on (.chan c)) ∨ (∃ c, s.kern.pend u = .onSend (.chan c)) ∨
      s.kern.pend u = .unqueued ∨
      ∃ c rest a b, s.code u = .call c :: rest ∧ c s.mem = .kMboxDataCheck a b)

/-- What `t` finds when it is about to execute a statement that uses the
descriptors. -/
def DescriptorStmt (s : TestState B) (t : Thread) : Statement B → Prop
  | .call c =>
    match c s.mem with
    | .kMboxPut _ a _ | .kMboxAsyncPut _ a =>
      a = .txMsg ∧ ∃ n < cfg.messageSizeSteps, Iterates s n t ∧
        TxArmed n (s.kern.data.msg .txMsg)
    | .kMboxGet _ a _ =>
      a = .rxMsg ∧ ∃ n < cfg.messageSizeSteps, Iterates s n t ∧
        RxArmed n (s.kern.data.msg .rxMsg)
    | .storeMsg _ _ => ∀ u, ¬ InMbox s u
    | _ => True
  | .prim (.getStopCnt testStopTime) =>
    ∃ n < cfg.messageSizeSteps, Iterates s n t ∧ Received n s.kern.data
  | _ => True

/-- What is claimed of the statements of the mailbox tests. -/
def MailboxStmt (s : TestState B) (t : Thread) (st : Statement B) : Prop :=
  SelfTransferStmt cfg ipc s t st ∧ DescriptorStmt cfg s t st

theorem descriptor_common (s : TestState B) (t : Thread) (st : Statement B)
    (h : isCommon s st = true) : DescriptorStmt cfg s t st := by
  cases st with
  | call c => cases hc : c s.mem <;> simp_all [DescriptorStmt, isCommon]
  | prim q =>
    cases q with
    | getStopCnt x => cases x <;> simp_all [DescriptorStmt, isCommon]
    | _ => trivial
  | _ => trivial

theorem mailbox_common (s : TestState B) (t : Thread) (st : Statement B)
    (h : isCommon s st = true) : MailboxStmt cfg ipc s t st :=
  ⟨selfTransfer_common s t st h, descriptor_common cfg s t st h⟩

/-! ## 2. arm_descriptors() -/

def Store.storeMsg (a : Addr) (field : MsgField Thread Addr) (x : Store) : Store :=
  { x with data := x.data.setMsg a (field.store (x.data.msg a)) }

/-- The store after `arm_descriptors()`. -/
def Store.armDescriptors (x : Store) : Store :=
  x |>.storeMsg .txMsg (.info 0) |>.storeMsg .txMsg (.size x.vars.messageSize)
    |>.storeMsg .txMsg (.txData .txBuffer) |>.storeMsg .txMsg (.txTargetThread none)
    |>.storeMsg .rxMsg (.info 0) |>.storeMsg .rxMsg (.size x.vars.messageSize)
    |>.storeMsg .rxMsg (.rxSourceThread none)

theorem txArmed_armDescriptors {x : Store} {n : Nat} (h : x.vars.messageSize = messageSize n) :
    TxArmed n (x.armDescriptors.data.msg .txMsg) := by
  simp [TxArmed, Store.armDescriptors, Store.storeMsg, Data.setMsg, MsgField.store, h]

theorem rxArmed_armDescriptors {x : Store} {n : Nat} (h : x.vars.messageSize = messageSize n) :
    RxArmed n (x.armDescriptors.data.msg .rxMsg) := by
  simp [RxArmed, Store.armDescriptors, Store.storeMsg, Data.setMsg, MsgField.store, h]

/-- A task that runs at some code, with the store `I`; the first statement may
store to a descriptor. -/
def StoresAt (At : (Store → Prop) → Code B → TestState B → Prop) :
    Prop :=
  ∀ I code (c : TestMem B → Call Thread Object Addr EntryFn) a
    (field : Vars → MsgField Thread Addr) s, (∀ mem, c mem = .storeMsg a (field mem.vars)) →
    At I (.call c :: code) s →
    Does cfg ipc (MailboxStmt cfg ipc) s
      (At (fun x => ∃ y, I y ∧ x = y.storeMsg a (field y.vars)) code)

variable {cfg ipc} {σ : Series → B.Series} {E : List HistEntry}

attribute [local simp] Good HandoffStmt ScenarioStmt SelfStmt isTransfer taskIdlePrio tSelfPrio
  tArmPrio blocked receiving armed sending sent recvMessage sendMessage Prog.takeIrq program
  MailboxStmt SelfTransferStmt sendObject recvObject

theorem storesAt_idle : StoresAt cfg ipc fun I => IdleAt I σ E := by
  intro I code c a field s hc h
  have hstore := h.store
  have halive := h.alive
  obtain ⟨⟨_, _⟩, _, _, _, ⟨_, _, _, _⟩, _, _, _, _, _⟩ := h
  have hout : ∀ u, ¬ InMbox s u := by
    rintro u ⟨hu, hin⟩
    obtain rfl : u = idleThread := by simpa using halive u hu
    simp_all
  refine .step (by simp_all [DescriptorStmt]) ?_
  refine .done ?_
  constructor
  case store =>
    exact ⟨store s, hstore, by simp [*, Kernel.storeMsg, Kernel.setData, Store.storeMsg]⟩
  all_goals simp [*, Kernel.storeMsg, Kernel.setData]

theorem storesAt_self : StoresAt cfg ipc fun I => SelfAt cfg ipc I σ E := by
  intro I code c a field s hc h
  have hstore := h.store
  have halive := h.alive
  obtain ⟨⟨_, _⟩, _, _, _, ⟨_, _, _, _⟩, ⟨_, _, _, _⟩, _, _, _, _, _⟩ := h
  have hout : ∀ u, ¬ InMbox s u := by
    rintro u ⟨hu, hin⟩
    obtain rfl | rfl : u = tSelfThread ∨ u = idleThread := by simpa using halive u hu
    · simp_all
    · simp_all [iTaskSelfWait]
  refine .step (by simp_all [DescriptorStmt]) ?_
  refine .done ?_
  constructor
  case store =>
    exact ⟨store s, hstore, by simp [*, Kernel.storeMsg, Kernel.setData, Store.storeMsg]⟩
  all_goals simp [*, Kernel.storeMsg, Kernel.setData]

/-- While the peers wait for their semaphores, nobody is inside a call of a
mailbox. -/
theorem not_inMbox {d : Dir} {I : Store → Prop} {c : TestMem B → Call Thread Object Addr EntryFn}
    {code : Code B} {s : TestState B}
    (h : Scene cfg ipc d I σ E (blocked ipc d (.call c :: code)) s)
    (hc : ∀ a b, c s.mem ≠ .kMboxDataCheck a b)
    (hrecv : ∀ a b, ipc.recv d s.mem.vars ≠ .kMboxDataCheck a b) (u : Thread) : ¬ InMbox s u := by
  rintro ⟨hu, hin⟩
  have halive := h.alive u hu
  obtain ⟨_, _, _, _, _, ⟨_, _, _, _⟩, ⟨_, _, _, _⟩, ⟨_, _, _, _⟩, ⟨_, _, _, _⟩, _, _, _, _, _⟩ := h
  obtain rfl | rfl | rfl | rfl : u = tArmThread ∨ u = tRecvThread d ∨ u = tSendThread d ∨
      u = idleThread := by simpa using halive
  · simp_all
  · simp_all
  · simp_all
  · simp_all [iTaskWait]

theorem storesAt_blocked {d : Dir}
    (hrecv : ∀ vars a b, ipc.recv d vars ≠ .kMboxDataCheck a b) :
    StoresAt cfg ipc fun I code => Scene cfg ipc d I σ E (blocked ipc d code) := by
  intro I code c a field s hc h
  have hstore := h.store
  have hout := not_inMbox h (by simp [hc]) (hrecv _)
  obtain ⟨_, _, _, _, _, _, _, _, _, _, _, _, _, _⟩ := h
  refine .step (by simp_all [DescriptorStmt]) ?_
  refine .done ?_
  constructor
  case store =>
    exact ⟨store s, hstore, by simp [*, Kernel.storeMsg, Kernel.setData, Store.storeMsg]⟩
  all_goals simp [*, Kernel.storeMsg, Kernel.setData]

/-- `arm_descriptors()` arms both descriptors. -/
theorem armDescriptors_leads {At : (Store → Prop) → Code B → TestState B → Prop}
    (hAt : StoresAt cfg ipc At)
    (hmono : ∀ I I' code s, (∀ x, I x → I' x) → At I code s → At I' code s)
    {I I' : Store → Prop} {code : Code B} (s : TestState B) (h : At I (armDescriptors ++ code) s)
    (harm : ∀ x, I x → I' x.armDescriptors) :
    Does cfg ipc (MailboxStmt cfg ipc) s (At I' code) := by
  refine (hAt _ _ _ _ (fun _ => .info 0) s (fun _ => rfl) h).bind ?_
  intro s h
  refine (hAt _ _ _ _ (fun vars => .size vars.messageSize) s (fun _ => rfl) h).bind ?_
  intro s h
  refine (hAt _ _ _ _ (fun _ => .txData .txBuffer) s (fun _ => rfl) h).bind ?_
  intro s h
  refine (hAt _ _ _ _ (fun _ => .txTargetThread none) s (fun _ => rfl) h).bind ?_
  intro s h
  refine (hAt _ _ _ _ (fun _ => .info 0) s (fun _ => rfl) h).bind ?_
  intro s h
  refine (hAt _ _ _ _ (fun vars => .size vars.messageSize) s (fun _ => rfl) h).bind ?_
  intro s h
  refine (hAt _ _ _ _ (fun _ => .rxSourceThread none) s (fun _ => rfl) h).mono ?_
  intro s h
  refine hmono _ _ _ _ ?_ h
  rintro x ⟨_, ⟨_, ⟨_, ⟨_, ⟨_, ⟨_, ⟨x, hx, rfl⟩, rfl⟩, rfl⟩, rfl⟩, rfl⟩, rfl⟩, rfl⟩
  exact harm x hx

end ZephyrBench.Itc

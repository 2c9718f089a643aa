/-
ZephyrBench.Itc.TestsTheorems — what is true of the tests.

Each of the eight tests satisfies `Protocol`, so each of their runs gets to the
verdict, and every state on the way is as it says (`Test.settles`). The theorems
here spell this out:

  * `async_handsOff`, `sync_handsOff` — every sample is one hand-off, without and
    with a rendezvous.
  * `mailbox_descriptors` — the descriptors are freshly armed in every
    transaction.
  * `sweep_consistent` — the receiver, the sender and the series of a transaction
    are in the same step.
  * `tSelf_neverBlocks` — a transfer of `T_Self` never blocks, and it receives
    what it has just sent.
  * `scenarios_sequenced` — the scenarios run one after the other, each from a
    clean state.

All but the last are parts of what `Protocol` has shown of every state. The last
also needs that no task lives but those of one scenario: creation and removal
are among the claims, and every other step leaves the living tasks as they are
(`oneScenario_next`).

Which tests a theorem is about is a type of its own (`AsyncTest`, `SyncTest`,
`MailboxTest`, `SweepTest`, `CopyTest`), so no statement has a condition on the
test.
-/
import ZephyrBench.Itc.Addresses
import ZephyrBench.Itc.Msgq
import ZephyrBench.Itc.Pipe
import ZephyrBench.Itc.Mailbox
import ZephyrBench.Rtos.CallTheorems

namespace ZephyrBench.Itc

open Rtos Rtos.Exec Thread Object Series Marker

variable {B : Bmth} {cfg : Config}

/-! ## 1. The tests -/

/-- The tests of inter-task communication. -/
inductive Test
  | fifo
  | lifo
  | stack
  | msgq
  | pipeAsync
  | pipeSync
  | mailboxAsync
  | mailboxSync

namespace Test

variable (B cfg) in
def ipc : Test → Ipc B
  | .fifo => Itc.fifo
  | .lifo => Itc.lifo
  | .stack => Itc.stack
  | .msgq => Itc.msgq cfg
  | .pipeAsync => Itc.pipeAsync cfg
  | .pipeSync => Itc.pipeSync
  | .mailboxAsync => Itc.mailboxAsync
  | .mailboxSync => Itc.mailboxSync

variable (cfg) in
/-- What is claimed of the statements of a test. -/
def own : Test → TestState B → Thread → Statement B → Prop
  | .fifo => AddressTest.fifo.AddressStmt
  | .lifo => AddressTest.lifo.AddressStmt
  | .stack => AddressTest.stack.AddressStmt
  | .msgq => Msgq.own cfg
  | .pipeAsync => PipeTest.async.own cfg
  | .pipeSync => PipeTest.sync.own cfg
  | .mailboxAsync => MailboxStmt cfg Itc.mailboxAsync
  | .mailboxSync => MailboxStmt cfg Itc.mailboxSync

variable (B cfg) in
def protocol : (T : Test) → Protocol cfg (T.ipc B cfg) (T.own cfg)
  | .fifo => AddressTest.fifo.protocol B cfg
  | .lifo => AddressTest.lifo.protocol B cfg
  | .stack => AddressTest.stack.protocol B cfg
  | .msgq => Msgq.protocol B cfg
  | .pipeAsync => PipeTest.async.protocol B cfg
  | .pipeSync => PipeTest.sync.protocol B cfg
  | .mailboxAsync => MailboxTest.async.protocol B cfg
  | .mailboxSync => MailboxTest.sync.protocol B cfg

variable {K : Type} (Z : Zephyr K Thread Object Addr EntryFn)

/-- The run of a test gets to the verdict, and every state is as it should be. -/
theorem settles (T : Test) :
    Ends (run cfg (T.ipc B cfg) Z) (Finished cfg (T.ipc B cfg)) ∧
      ∀ n, Good cfg (T.ipc B cfg) (T.own cfg) (run cfg (T.ipc B cfg) Z n) :=
  run_settles (T.protocol B cfg) Z

variable (B cfg) in
/-- The run of a test ends with all samples recorded. -/
def Completes (T : Test) : Prop :=
  Ends (run cfg (T.ipc B cfg) Z)
    (ZephyrBench.Settled idleThread outliers (Complete cfg (T.ipc B cfg)))

theorem completes (T : Test) : T.Completes B cfg Z := by
  have hends : Ends (run cfg (T.ipc B cfg) Z) (Finished cfg (T.ipc B cfg)) := (T.settles Z).1
  obtain ⟨n, hn⟩ := hends
  exact ⟨n, fun m hm => (hn m hm).1⟩

theorem handoff (T : Test) (n : Nat) :
    Handoff cfg (T.ipc B cfg) (run cfg (T.ipc B cfg) Z n) :=
  ((T.settles Z).2 n).mono fun _ _ h => h.1

theorem selfStmt (T : Test) (n : Nat) : (run cfg (T.ipc B cfg) Z n).AtStmt
    (SelfStmt cfg (T.ipc B cfg) (run cfg (T.ipc B cfg) Z n)) :=
  ((T.settles Z).2 n).mono fun _ _ h => h.2.2.1

theorem ownStmt (T : Test) (n : Nat) : (run cfg (T.ipc B cfg) Z n).AtStmt
    (T.own cfg (run cfg (T.ipc B cfg) Z n)) :=
  ((T.settles Z).2 n).mono fun _ _ h => h.2.2.2

end Test

/-! ## 2. The hand-off -/

/-- The tests without a rendezvous. -/
inductive AsyncTest
  | fifo
  | lifo
  | stack
  | msgq
  | pipeAsync
  | mailboxAsync

def AsyncTest.test : AsyncTest → Test
  | .fifo => .fifo
  | .lifo => .lifo
  | .stack => .stack
  | .msgq => .msgq
  | .pipeAsync => .pipeAsync
  | .mailboxAsync => .mailboxAsync

/-- The tests with a rendezvous. -/
inductive SyncTest
  | pipeSync
  | mailboxSync

def SyncTest.test : SyncTest → Test
  | .pipeSync => .pipeSync
  | .mailboxSync => .mailboxSync

variable {K : Type} (Z : Zephyr K Thread Object Addr EntryFn)

def MailboxTest.test : MailboxTest → Test
  | .async => .mailboxAsync
  | .sync => .mailboxSync

/-- The descriptors of the mailbox tests are freshly armed in every
transaction. -/
theorem mailbox_descriptors (T : MailboxTest) :
    T.test.Completes B cfg Z ∧ ∀ n, (run cfg (T.test.ipc B cfg) Z n).AtStmt
      (DescriptorStmt cfg (run cfg (T.test.ipc B cfg) Z n)) := by
  refine ⟨T.test.completes Z, fun n => (T.test.ownStmt Z n).mono fun t st h => ?_⟩
  cases T <;> exact h.2

/-- The tests whose peers read a sweep variable. -/
inductive SweepTest
  | msgq
  | pipeAsync
  | pipeSync

namespace SweepTest

def test : SweepTest → Test
  | .msgq => .msgq
  | .pipeAsync => .pipeAsync
  | .pipeSync => .pipeSync

/-- The sweep variable is that of step `n`: `active_msgq` or
`active_message_size`. -/
def reads : SweepTest → Vars → Dir → Nat → Prop
  | .msgq => Msgq.reads
  | .pipeAsync => PipeTest.reads
  | .pipeSync => PipeTest.reads

end SweepTest

/-- The receiver, the sender and the series of a transaction are in the same
step, and nothing of a message is left for the next transaction. -/
theorem sweep_consistent (T : SweepTest) :
    T.test.Completes B cfg Z ∧ ∀ n,
      Handoff cfg (T.test.ipc B cfg) (run cfg (T.test.ipc B cfg) Z n) ∧
      (run cfg (T.test.ipc B cfg) Z n).AtStmt
        (SweepStmt cfg (T.test.ipc B cfg) T.reads (run cfg (T.test.ipc B cfg) Z n)) := by
  refine ⟨T.test.completes Z, fun n => ⟨T.test.handoff Z n, ?_⟩⟩
  refine (T.test.ownStmt Z n).mono ?_
  intro t st h
  cases T <;> exact h.2

/-- The tests whose `T_Self` copies bytes. -/
inductive CopyTest
  | msgq
  | pipeAsync
  | mailboxAsync

def CopyTest.test : CopyTest → Test
  | .msgq => .msgq
  | .pipeAsync => .pipeAsync
  | .mailboxAsync => .mailboxAsync

/-- `T_Self` of the byte-copying tests never blocks in a transfer, and receives
the message it has just sent. -/
theorem tSelf_neverBlocks (T : CopyTest) :
    Ends (run cfg (T.test.ipc B cfg) Z) (Finished cfg (T.test.ipc B cfg)) ∧ ∀ n,
      (run cfg (T.test.ipc B cfg) Z n).AtStmt
        (SelfStmt cfg (T.test.ipc B cfg) (run cfg (T.test.ipc B cfg) Z n)) ∧
      (run cfg (T.test.ipc B cfg) Z n).AtStmt
        (SelfTransferStmt cfg (T.test.ipc B cfg) (run cfg (T.test.ipc B cfg) Z n)) := by
  refine ⟨(T.test.settles Z).1, fun n => ⟨T.test.selfStmt Z n, ?_⟩⟩
  refine (T.test.ownStmt Z n).mono ?_
  intro t st h
  cases T <;> exact h.1

/-! ## 4. The scenarios -/

/-- The tasks that may live at the same time: `I_Task` and those of one
scenario. -/
inductive Scenario : List Thread → Prop
  | self : Scenario [tSelfThread, idleThread]
  | dir (d : Dir) : Scenario [tArmThread, tRecvThread d, tSendThread d, idleThread]

/-- No task lives but those of one scenario. -/
def OneScenario (s : TestState B) : Prop := ∃ l, Scenario l ∧ Only l s.kern.alive

theorem Only.mono {l l' : List Thread} {alive : Thread → Bool} (h : Only l alive) (hl : l ⊆ l') :
    Only l' alive :=
  fun u hu => hl (h u hu)

/-- What is claimed of the creation of a task keeps the scenarios apart. -/
theorem oneScenario_call {ipc : Ipc B} {s : TestState B} {t : Thread}
    {c : TestMem B → Call Thread Object Addr EntryFn}
    (h : OneScenario s) (hstmt : ScenarioStmt cfg ipc s t (.call c)) :
    ∃ l, Scenario l ∧ Only l (s.kern.call (c s.mem)).alive := by
  by_cases hcreate : ∃ u entry prio, c s.mem = .kThreadCreate u entry prio
  · obtain ⟨u, entry, prio, hc⟩ := hcreate
    have key : ∀ l, Only l s.kern.alive → Only (u :: l) (s.kern.call (c s.mem)).alive := by
      intro l hl v hv
      obtain hv | ⟨entry', prio', hv⟩ := Kernel.alive_of_call _ hv
      · exact List.mem_cons_of_mem u (hl v hv)
      · rw [hc] at hv
        cases hv
        exact List.mem_cons_self
    rw [ScenarioStmt, hc] at hstmt
    cases u with
    | idleThread => exact ⟨_, .self, (key _ hstmt).mono (by simp)⟩
    | tSelfThread => exact ⟨_, .self, (key _ hstmt).mono (by simp)⟩
    | tSendThread d => exact ⟨_, .dir d, (key _ hstmt.alive).mono (by simp)⟩
    | tRecvThread d => exact ⟨_, .dir d, (key _ hstmt).mono (by simp)⟩
    | tArmThread =>
      obtain ⟨d, hd⟩ := hstmt
      exact ⟨_, .dir d, (key _ hd).mono (by simp)⟩
  · obtain ⟨l, hl, halive⟩ := h
    refine ⟨l, hl, fun v hv => ?_⟩
    obtain hv | ⟨entry, prio, hv⟩ := Kernel.alive_of_call _ hv
    · exact halive v hv
    · exact absurd ⟨v, entry, prio, hv⟩ hcreate

theorem oneScenario_next {ipc : Ipc B} {s : TestState B} (h : OneScenario s)
    (hstmt : s.AtStmt (ScenarioStmt cfg ipc s)) : OneScenario ((program cfg ipc).next s) := by
  cases hirq : s.kern.irq.pending && s.kern.irq.enabled with
  | true => simpa [hirq, OneScenario, Prog.takeIrq, Kernel.isrEnter, Kernel.isrExit,
      Kernel.setIrq, program] using h
  | false =>
    cases hcur : s.kern.current with
    | none => simpa [hirq, hcur] using h
    | some t =>
      cases hcode : s.code t with
      | nil => simpa [hirq, hcur, hcode] using h
      | cons st rest =>
        simp only [State.AtStmt, hcur, hcode] at hstmt
        cases st with
        | call c =>
          have hcall := oneScenario_call h hstmt
          simpa [hirq, hcur, hcode, OneScenario, Kernel.call] using hcall
        | _ => simpa [hirq, hcur, hcode, OneScenario] using h

theorem oneScenario_start (ipc : Ipc B) : OneScenario (start cfg ipc) := by
  refine ⟨_, .self, fun u hu => ?_⟩
  by_cases hidle : u = idleThread
  · simp [hidle]
  · simp [start, Kernel.boot, hidle] at hu

theorem oneScenario_run (T : Test) (n : Nat) : OneScenario (run cfg (T.ipc B cfg) Z n) := by
  induction n with
  | zero =>
    rw [run_zero]
    exact oneScenario_start _
  | succ n ih =>
    rw [run_succ]
    exact oneScenario_next ih (((T.settles Z).2 n).mono fun _ _ h => h.2.1)

/-- The scenarios of a test run one after the other, each from a clean state,
with every signal sent and consumed once, up to the verdict. -/
theorem scenarios_sequenced (T : Test) :
    Ends (run cfg (T.ipc B cfg) Z) (Finished cfg (T.ipc B cfg)) ∧ ∀ n,
      OneScenario (run cfg (T.ipc B cfg) Z n) ∧ (run cfg (T.ipc B cfg) Z n).AtStmt
        (ScenarioStmt cfg (T.ipc B cfg) (run cfg (T.ipc B cfg) Z n)) :=
  ⟨(T.settles Z).1, fun n =>
    ⟨oneScenario_run Z T n, ((T.settles Z).2 n).mono fun _ _ h => h.2.1⟩⟩

end ZephyrBench.Itc

/-
ZephyrBench.Itc.LifetimesTheorems — which tasks live while a test of inter-task
communication runs.

`itc_lifetimes`: in every test, at all times, `I_Task` creates only a task that
does not live, removes only one that does, and initialises an object only while
no other task lives.

`I_Task` creates the tasks of a scenario and removes them before it goes on to
the next (`orderly_iTaskSelf`, `orderly_iTaskDir`). What a test puts in between,
as the second initialisation of `test_pipe` in `pipe_sync`, happens while no
other task lives; that is what `OrderlyIpc` asks of a test. For seven of them it
is read off the code, and the loop that initialises the queues of `msgq` is
walked through by `orderly_initMsgqs`.

That the other tasks create nothing is `BackgroundIpc`, which
`Itc.VerdictTheorems` has shown of the same code for the verdict.
-/
import ZephyrBench.Itc.VerdictTheorems

namespace ZephyrBench.Itc

open Rtos Thread Object

variable {B : Bmth} {cfg : Config} {ipc : Ipc B}

/-! ## 1. The code of the control task -/

/-- Orderly code of `I_Task`; nothing more is asked of the living tasks. -/
abbrev OrderlyFrom (l : List Thread) (code : Code B) : Prop :=
  Orderly idleThread EntryFn.iTask (fun _ => True) (among l) code

/-- What a test puts into `I_Task`: the objects are prepared while no other task
lives. -/
structure OrderlyIpc (ipc : Ipc B) : Prop where
  init : ∀ rest, OrderlyFrom [idleThread] rest → OrderlyFrom [idleThread] (ipc.init ++ rest)
  before : ∀ d, ∀ st ∈ ipc.before d, st.Keeps idleThread .iTask (among [idleThread])

attribute [local simp] Call.Admissible Call.isInit Stmt.Keeps Kernel.aliveAfter

theorem orderly_iTaskSelf {rest : Code B} (hrest : OrderlyFrom [idleThread] rest) :
    OrderlyFrom [idleThread] (iTaskSelf ++ rest) := by
  refine .create [tSelfThread, idleThread] (by simp) (by simp) (by simp) (by simp) trivial ?_
  refine .keep (fun _ => rfl) (by simp) ?_
  refine .keep (fun _ => rfl) (by simp) ?_
  exact .abort [idleThread] (by simp) (by simp) (by grind) trivial hrest

theorem orderly_iTaskDir (d : Dir) {rest : Code B} (hrest : OrderlyFrom [idleThread] rest) :
    OrderlyFrom [idleThread] (iTaskDir d ++ rest) := by
  refine .create [tSendThread d, idleThread] (by simp) (by simp) (by simp) (by simp) trivial ?_
  refine .create [tRecvThread d, tSendThread d, idleThread] (by simp) (by simp) (by simp) (by simp)
    trivial ?_
  refine .create [tArmThread, tRecvThread d, tSendThread d, idleThread] (by simp) (by simp)
    (by simp) (by simp) trivial ?_
  refine .keep (fun _ => rfl) (by simp) ?_
  refine .keep (fun _ => rfl) (by simp) ?_
  refine .abort [tArmThread, tRecvThread d, idleThread] (by simp) (by simp) (by grind) trivial ?_
  refine .abort [tArmThread, idleThread] (by simp) (by simp) (by grind) trivial ?_
  exact .abort [idleThread] (by simp) (by simp) (by grind) trivial hrest

theorem OrderlyIpc.iTask (h : OrderlyIpc ipc) : OrderlyFrom [idleThread] (iTask cfg ipc) := by
  have hlast : OrderlyFrom [idleThread] (countOutliers cfg ipc 0 :: verdictLoop outliers) := by
    refine .last ?_
    cases hs : ipc.hasSelf <;> cases hr : ipc.rendezvous <;>
      simp [countOutliers, seriesOfStep, hs, hr, verdictLoop, verdictBody]
  have hup : OrderlyFrom [idleThread] (iTaskUp cfg ipc) := by
    simp only [iTaskUp, iTaskAfter, List.append_assoc]
    refine .straight (h.before .up) (orderly_iTaskDir .up ?_)
    refine .straight (by simp) ?_
    exact .straight (h.before .down) (orderly_iTaskDir .down hlast)
  simp only [Itc.iTask, List.append_assoc]
  refine .straight (by simp) (h.init _ ?_)
  cases ipc.hasSelf with
  | false => exact hup
  | true => exact orderly_iTaskSelf hup

theorem BackgroundIpc.controlledBy (h : BackgroundIpc ipc) :
    ControlledBy (program cfg ipc) .iTask where
  others f hf := (h.others f hf).steadyCode
  isr _ hc := absurd hc List.not_mem_nil

/-! ## 2. The tests -/

/-- The loop of `I_Task` that initialises the queues. -/
theorem orderly_initMsgqs {rest : Code B} (hrest : OrderlyFrom [idleThread] rest) :
    OrderlyFrom [idleThread] (initMsgqs cfg 0 :: rest) := by
  refine .forUp (fun _ => among [idleThread]) cfg.messageSizeSteps (fun _ => rfl) (Nat.zero_le _)
    (fun _ _ code hcode => ?_) hrest
  exact .straight (by simp) hcode

theorem Test.orderly (T : Test) : OrderlyIpc (T.ipc B cfg) := by
  constructor
  case init =>
    intro rest hrest
    cases T with
    | msgq => exact orderly_initMsgqs hrest
    | _ =>
      refine .straight ?_ hrest
      simp [Test.ipc, Itc.fifo, Itc.lifo, Itc.stack, addressIpc, Itc.pipeAsync, Itc.pipeSync,
        Itc.mailboxAsync, Itc.mailboxSync, armDescriptors]
  case before =>
    cases T <;> simp [Test.ipc, Itc.fifo, Itc.lifo, Itc.stack, addressIpc, Itc.msgq,
      Itc.pipeAsync, Itc.pipeSync, Itc.mailboxAsync, Itc.mailboxSync, armDescriptors,
      rearmDescriptors, Dir.forall]

/-! ## 3. Runs -/

/-- In every test, at all times: `I_Task` creates only a task that does not live,
removes only one that does, and initialises an object only while no other task
lives, also between two scenarios; the other tasks create and remove none and
initialise nothing. -/
theorem itc_lifetimes {K : Type} (T : Test) (Z : Zephyr K Thread Object Addr EntryFn) (n : Nat) :
    (run cfg (T.ipc B cfg) Z n).AtStmt
      (LifeStmt idleThread .iTask (run cfg (T.ipc B cfg) Z n)) := by
  have hrun : Controlled idleThread .iTask (fun _ => True) (run cfg (T.ipc B cfg) Z n) :=
    Controlled.run Z T.background.controlledBy T.orderly.iTask trivial ..
  exact hrun.atStmt

end ZephyrBench.Itc

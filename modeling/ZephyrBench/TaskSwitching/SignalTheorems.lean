/-
ZephyrBench.TaskSwitching.SignalTheorems — the border between the scenarios.

`passes_acknowledged`: in the four tests in which `I_Task` is signalled, S_A
makes one pass more than `I_Task` waits for. The signal of its last pass is the
one bit that is set in `test_event` when the tasks of S_B are created, and the
first signal of S_B is merged with it. No other bit survives the border, and no
other two signals are merged.

It collects what the symbolic execution of each test has shown; the argument is
in `TaskSwitching.Signals`. `onePass_not_clear` shows that the exception is
needed: in a run with one iteration cycle the bit is set when the first task of
S_B is created, and the first signal of S_B does find it set.
-/
import ZephyrBench.TaskSwitching.EventBlockTheorems
import ZephyrBench.TaskSwitching.EventPreemptTheorems
import ZephyrBench.TaskSwitching.SemBlockTheorems
import ZephyrBench.TaskSwitching.SemPreemptTheorems

namespace ZephyrBench.TaskSwitching

open Rtos Thread Object

variable {B : Bmth} {K : Type}

/-- The passes of the four tests are acknowledged as `Acknowledged` says, for
every number of iteration cycles and of dummy tasks. -/
theorem passes_acknowledged :
    (∀ (cfg : EventPreempt.Config) (Z : Zephyr K Thread Object Empty EventPreempt.EntryFn),
      ∃ first, Acknowledged saHighPrioThread sbLowPrioThread first
        (run (B := B) Z (EventPreempt.body cfg) .iTask)) ∧
    (∀ (cfg : SemPreempt.Config) (Z : Zephyr K Thread Object Empty SemPreempt.EntryFn),
      ∃ first, Acknowledged saHighPrioThread sbLowPrioThread first
        (run (B := B) Z (SemPreempt.body cfg) .iTask)) ∧
    (∀ (cfg : EventBlock.Config) (Z : Zephyr K Thread Object Empty EventBlock.EntryFn),
      ∃ first, Acknowledged saLowPrioThread sbHighPrioThread first
        (run (B := B) Z (EventBlock.body cfg) .iTask)) ∧
    (∀ (cfg : SemBlock.Config) (Z : Zephyr K Thread Object Empty SemBlock.EntryFn),
      ∃ first, Acknowledged saLowPrioThread sbHighPrioThread first
        (run (B := B) Z (SemBlock.body cfg) .iTask)) :=
  ⟨fun cfg Z => EventPreempt.eventPreempt_acknowledged cfg Z,
    fun cfg Z => SemPreempt.semPreempt_acknowledged cfg Z,
    fun cfg Z => EventBlock.eventBlock_acknowledged cfg Z,
    fun cfg Z => SemBlock.semBlock_acknowledged cfg Z⟩

/-- `event_block` with one iteration cycle and no dummy task. -/
def onePass : Nat → TestState Bmth.plain EventBlock.EntryFn :=
  run Zephyr.documented (EventBlock.body (EventBlock.testCase 1 0 (by decide) (by decide))) .iTask

/-- Not every bit is clear when the first task of S_B is created, and not every
signal finds its bit clear. -/
theorem onePass_not_clear :
    (¬ ∀ n t, CreatesSB (onePass n) t → (onePass n).kern.obj testEvent = .event 0) ∧
      ¬ ∀ n t, PostsYield (onePass n) t → yieldPending (onePass n).kern = false := by
  obtain ⟨first, hack⟩ := EventBlock.eventBlock_acknowledged (B := Bmth.plain)
    (EventBlock.testCase 1 0 (by decide) (by decide)) Zephyr.documented
  constructor
  · intro hclear
    obtain ⟨n, -, t, hcreates⟩ := hack.created
    have hevent := (hack.border n t hcreates).symm.trans (hclear n t hcreates)
    exact absurd (Obj.event.inj hevent) (by decide)
  · intro hclear
    obtain ⟨hposts, hpending⟩ := hack.merged
    have hcontra : false = true := (hclear first _ hposts).symm.trans hpending
    cases hcontra

end ZephyrBench.TaskSwitching

/-
ZephyrBench.Rtos.CallTheorems — what a call leaves alone.

Threads come alive when they are created and die when they are aborted. Every
other call leaves the set of living threads as it is, whatever object it is
about (`call_alive`): none of the wake-ups, the copies and the reschedules
touches it. `aliveAfter` is that set as a function of the call alone, so a walk
through the text of a program can carry the living threads along without a
kernel at hand. `alive_of_call` is the form that an invariant about the threads
that exist uses: who lives after a call lived before it, or has just been
created.
-/
import ZephyrBench.Rtos.Call

namespace ZephyrBench.Rtos.Kernel

variable {T O A F : Type} [DecidableEq T] [DecidableEq O] [DecidableEq A] (k : Kernel T O A)

omit [DecidableEq O] [DecidableEq A] in
@[simp] theorem foldl_release_alive (l : List T) :
    (l.foldl (fun k t => k.release t) k).alive = k.alive := by
  induction l generalizing k with
  | nil => rfl
  | cons t l ih => rw [List.foldl_cons, ih, release]

/-- The living threads after a call. -/
def aliveAfter (alive : T → Bool) : Call T O A F → T → Bool
  | .kThreadCreate t _ _ => Function.update alive t true
  | .kThreadAbort t => Function.update alive t false
  | _ => alive

theorem callBy_alive (me : T) (c : Call T O A F) :
    (k.callBy me c).alive = aliveAfter k.alive c := by
  cases c with
  | kThreadCreate t entry prio => rfl
  | kThreadAbort t => rfl
  | kPipeWrite o src len timeout =>
    simp only [callBy, pipeWrite, aliveAfter]
    repeat' split
    all_goals rfl
  | kPipeRead o dst len timeout =>
    simp only [callBy, pipeRead, aliveAfter]
    repeat' split
    all_goals simp [reschedule, pendOn, setData, setObj]
  | kPipeReset o =>
    simp only [callBy, pipeReset, aliveAfter]
    split
    all_goals simp [reschedule, wake, setObj]
  | _ =>
    simp only [callBy, threadSuspend, threadResume, semGive, semTake, semReset, eventPost,
      eventClear, eventWaitSafe, queueInsert, queueGet, stackPush, stackPop, msgqPut, msgqGet,
      mboxPut, mboxAsyncPut, mboxGet, mboxDataCheck, aliveAfter]
    repeat' split
    all_goals rfl

theorem call_alive (c : Call T O A F) :
    (k.call c).alive = if k.current = none then k.alive else aliveAfter k.alive c := by
  cases h : k.current with
  | none => simp [call, h]
  | some me => simp [call, h, callBy_alive]

/-- A thread that lives after a call lived before, or has just been created. -/
theorem alive_of_call {c : Call T O A F} {u : T} (h : (k.call c).alive u = true) :
    k.alive u = true ∨ ∃ entry prio, c = .kThreadCreate u entry prio := by
  rw [call_alive] at h
  split at h
  · exact .inl h
  · cases c with
    | kThreadCreate t entry prio =>
      by_cases hut : u = t
      · exact .inr ⟨entry, prio, by rw [hut]⟩
      · exact .inl (by rwa [aliveAfter, Function.update_of_ne hut] at h)
    | kThreadAbort t =>
      by_cases hut : u = t
      · simp [aliveAfter, hut] at h
      · exact .inl (by rwa [aliveAfter, Function.update_of_ne hut] at h)
    | _ => exact .inl h

end ZephyrBench.Rtos.Kernel

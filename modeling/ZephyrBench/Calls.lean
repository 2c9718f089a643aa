/-
ZephyrBench.Calls — runs of a component that answers calls.

A component is a function `exec : σ → ι → ο × σ` that takes a call to the
answer and the next state. `answers exec s` runs a list of calls. Three rules
lead from one call to all lists of calls:

  * `answers_keeps`     — what every call keeps, every run keeps.
  * `answers_invariant` — the same for a property with a parameter, which the
    calls themselves determine: the step of a sweep, for instance, which a call
    that starts the next step changes.
  * `answers_simulates` — a relation that every call keeps, with equal answers
    on both sides, gives equal lists of answers. It is how two implementations
    of one interface are shown to be the same to their callers.

The three are inductions on the list of calls, with the state generalised. The
harness of the memory tests and the threads of the simulated semaphore are
components in this sense.
-/
import Mathlib.Logic.Basic
import Mathlib.Data.List.Basic

namespace ZephyrBench

section Calls

variable {σ τ ι ο : Type*} {exec : σ → ι → ο × σ} {exec' : τ → ι → ο × τ} {s : σ} {t : τ}

/-- The answers to a list of calls, and the state after them. -/
def answers (exec : σ → ι → ο × σ) (s : σ) : List ι → List ο × σ
  | [] => ([], s)
  | i :: is =>
    let first := exec s i
    let rest := answers exec first.2 is
    (first.1 :: rest.1, rest.2)

@[simp] theorem answers_nil : answers exec s [] = ([], s) := rfl

@[simp] theorem answers_cons (i : ι) (is : List ι) :
    answers exec s (i :: is) =
      ((exec s i).1 :: (answers exec (exec s i).2 is).1, (answers exec (exec s i).2 is).2) := rfl

/-- What every call keeps, every run keeps. -/
theorem answers_keeps {P : σ → Prop} (step : ∀ s i, P s → P (exec s i).2) (h : P s)
    (is : List ι) : P (answers exec s is).2 := by
  induction is generalizing s with
  | nil => exact h
  | cons i is ih => exact ih (step s i h)

/-- The same for a property with a parameter that the calls themselves
determine. -/
theorem answers_invariant {κ : Type*} {P : κ → σ → Prop} {next : κ → ι → κ}
    (step : ∀ k s i, P k s → P (next k i) (exec s i).2) {k : κ} (h : P k s) (is : List ι) :
    P (is.foldl next k) (answers exec s is).2 := by
  induction is generalizing k s with
  | nil => exact h
  | cons i is ih => exact ih (step k s i h)

/-- Two components whose states stay related by `R`, and that answer every
call alike from related states, answer every list of calls alike. -/
theorem answers_simulates {R : σ → τ → Prop}
    (step : ∀ s t i, R s t → (exec s i).1 = (exec' t i).1 ∧ R (exec s i).2 (exec' t i).2)
    (h : R s t) (is : List ι) :
    (answers exec s is).1 = (answers exec' t is).1 ∧
      R (answers exec s is).2 (answers exec' t is).2 := by
  induction is generalizing s t with
  | nil => exact ⟨rfl, h⟩
  | cons i is ih =>
    obtain ⟨hfirst, hnext⟩ := step s t i h
    obtain ⟨hrest, hlast⟩ := ih hnext
    rw [answers_cons, answers_cons, hfirst, hrest]
    exact ⟨rfl, hlast⟩

end Calls

end ZephyrBench

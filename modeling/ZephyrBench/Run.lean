/-
ZephyrBench.Run — runs of a deterministic system.

A system is a function `f : σ → σ`; its run from `s` is `f^[0] s`,
`f^[1] s`, …. Two things are said about a run: that it gets somewhere, and
that something holds in every state it visits. `Leads f P s Q` says both at
once — from `s` the run reaches a state of `Q`, and every state it leaves on
the way satisfies `P` — so that one symbolic execution of the system settles
both. `Ends r Q` says that the run `r` stays in `Q` from some point on.

The rules follow the shape of programs: `Leads.step` for one transition,
`Leads.bind` for sequencing, `Leads.loop` for a counted loop and
`Leads.forEach` for a loop over a list. `Leads.always` and `Leads.ends` turn
the result into statements about `f^[n] s`.

`P` is asked of the states that the run leaves and not of the one it reaches,
so that pieces compose without a state being asked twice. What holds from `Q`
on is the hypothesis of `Leads.always`; for a system that settles down it is
one more step lemma (`iterate_of_closed`). Because the system is deterministic
there is one run, and `Ends.inter` uses that: two endings of one run share a
state, so a run that is known to end in one way does not end in another.
-/
import Mathlib.Logic.Function.Iterate
import Mathlib.Order.Basic

namespace ZephyrBench

variable {σ : Type*} {f : σ → σ} {P P' : σ → Prop} {Q R : σ → Prop} {s t u : σ}

/-! ## Finite pieces of a run -/

/-- `Steps f P s t`: the run from `s` visits `t`, and every state before
that visit satisfies `P`. -/
inductive Steps (f : σ → σ) (P : σ → Prop) : σ → σ → Prop
  | refl (s : σ) : Steps f P s s
  | head {s t : σ} (hp : P s) (h : Steps f P (f s) t) : Steps f P s t

theorem Steps.trans (h₁ : Steps f P s t) (h₂ : Steps f P t u) : Steps f P s u := by
  induction h₁ with
  | refl => exact h₂
  | head hp _ ih => exact .head hp (ih h₂)

/-- A finite piece ends at an iterate of `f`, with `P` at all earlier ones. -/
theorem Steps.exists_iterate (h : Steps f P s t) :
    ∃ n, f^[n] s = t ∧ ∀ m < n, P (f^[m] s) := by
  induction h with
  | refl s => exact ⟨0, rfl, fun m hm => absurd hm (Nat.not_lt_zero m)⟩
  | head hp _ ih =>
    obtain ⟨n, hn, hP⟩ := ih
    refine ⟨n + 1, by rw [Function.iterate_succ_apply, hn], ?_⟩
    intro m hm
    cases m with
    | zero => exact hp
    | succ m =>
      rw [Function.iterate_succ_apply]
      exact hP m (Nat.lt_of_succ_lt_succ hm)

/-! ## Reaching a state predicate -/

/-- From `s` the run reaches a state of `Q`; every state it leaves before
that satisfies `P`. -/
def Leads (f : σ → σ) (P : σ → Prop) (s : σ) (Q : σ → Prop) : Prop :=
  ∃ t, Steps f P s t ∧ Q t

theorem Leads.done (h : Q s) : Leads f P s Q :=
  ⟨s, .refl s, h⟩

theorem Leads.step (hp : P s) (h : Leads f P (f s) Q) : Leads f P s Q := by
  obtain ⟨t, hs, hq⟩ := h
  exact ⟨t, .head hp hs, hq⟩

/-- Sequencing: what `Q` leads to, `s` leads to. -/
theorem Leads.bind (h : Leads f P s Q) (k : ∀ t, Q t → Leads f P t R) : Leads f P s R := by
  obtain ⟨t, hs, hq⟩ := h
  obtain ⟨u, hu, hr⟩ := k t hq
  exact ⟨u, hs.trans hu, hr⟩

theorem Leads.mono (h : Leads f P s Q) (k : ∀ t, Q t → R t) : Leads f P s R :=
  h.bind fun t ht => .done (k t ht)

theorem Steps.imp (h : Steps f P s t) (hP : ∀ u, P u → P' u) : Steps f P' s t := by
  induction h with
  | refl s => exact .refl s
  | head hp _ ih => exact .head (hP _ hp) ih

theorem Leads.imp (h : Leads f P s Q) (hP : ∀ u, P u → P' u) : Leads f P' s Q := by
  obtain ⟨t, hs, hq⟩ := h
  exact ⟨t, hs.imp hP, hq⟩

/-- A counted loop: one pass takes the head condition of pass `i` to that of
pass `i + 1`. -/
theorem Leads.loop {S : Nat → σ → Prop} {n : Nat}
    (pass : ∀ i < n, ∀ t, S i t → Leads f P t (S (i + 1))) (h : S 0 s) :
    Leads f P s (S n) := by
  induction n with
  | zero => exact .done h
  | succ n ih =>
    refine (ih fun i hi => pass i (Nat.lt_succ_of_lt hi)).bind ?_
    exact fun t ht => pass n (Nat.lt_succ_self n) t ht

/-- A loop over the list `l`: `S a b` is the condition with the items `a`
done and the items `b` to do. -/
theorem Leads.forEach {α : Type*} {S : List α → List α → σ → Prop} {l : List α}
    (pass : ∀ a x b, a ++ x :: b = l → ∀ t, S a (x :: b) t → Leads f P t (S (a ++ [x]) b))
    (h : S [] l s) : Leads f P s (S l []) := by
  have key : ∀ (b a : List α) (t : σ), a ++ b = l → S a b t → Leads f P t (S l []) := by
    intro b
    induction b with
    | nil =>
      intro a t hab ht
      rw [List.append_nil] at hab
      exact .done (hab ▸ ht)
    | cons x b ih =>
      intro a t hab ht
      refine (pass a x b hab t ht).bind fun u hu => ih (a ++ [x]) u ?_ hu
      rw [List.append_assoc, List.singleton_append, hab]
  exact key l [] s rfl h

/-! ## Statements about the whole run -/

/-- `P` holds in every state of the run, once it holds on the way to `Q` and
in every state of a run from `Q`. -/
theorem Leads.always (h : Leads f P s Q) (hQ : ∀ t, Q t → ∀ n, P (f^[n] t)) (n : Nat) :
    P (f^[n] s) := by
  obtain ⟨t, hs, hq⟩ := h
  obtain ⟨m, rfl, hP⟩ := hs.exists_iterate
  rcases Nat.lt_or_ge n m with hn | hn
  · exact hP n hn
  · obtain ⟨k, rfl⟩ := Nat.exists_eq_add_of_le' hn
    rw [Function.iterate_add_apply]
    exact hQ _ hq k

/-- A predicate kept by every transition holds along the whole run. -/
theorem iterate_of_closed (hs : Q s) (hQ : ∀ t, Q t → Q (f t)) (n : Nat) : Q (f^[n] s) := by
  induction n with
  | zero => exact hs
  | succ n ih =>
    rw [Function.iterate_succ_apply']
    exact hQ _ ih

/-- The run `r` is in `Q` from some point on. -/
def Ends (r : Nat → σ) (Q : σ → Prop) : Prop :=
  ∃ n, ∀ m, n ≤ m → Q (r m)

theorem Leads.ends (h : Leads f P s Q) (hQ : ∀ t, Q t → Q (f t)) : Ends (fun n => f^[n] s) Q := by
  obtain ⟨t, hs, hq⟩ := h
  obtain ⟨n, rfl, -⟩ := hs.exists_iterate
  refine ⟨n, fun m hm => ?_⟩
  obtain ⟨k, rfl⟩ := Nat.exists_eq_add_of_le' hm
  simp only [Function.iterate_add_apply]
  exact iterate_of_closed hq hQ k

/-- A run cannot end in two ways: the two endings share a state. -/
theorem Ends.inter {r : Nat → σ} (h₁ : Ends r Q) (h₂ : Ends r R) : ∃ t, Q t ∧ R t := by
  obtain ⟨n, hn⟩ := h₁
  obtain ⟨m, hm⟩ := h₂
  exact ⟨_, hn _ (Nat.le_max_left n m), hm _ (Nat.le_max_right n m)⟩

end ZephyrBench

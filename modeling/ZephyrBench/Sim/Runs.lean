/-
ZephyrBench.Sim.Runs — what holds of every iteration of every call.

An image has a contract: a property `Static` of its state that no probe ends, and
for each call a property `Ready` of the state at the head of its loop, in which an
iteration adds `trace` to the history and makes `mask` of the interrupt mask.
What is proved of a contract:

  * `Contract.ready_of_static` — every iteration of a call begins in a state of
    `Ready`, whatever probes were called before.
  * `Contract.since_before` — so every iteration adds the trace of its call.
  * `Contract.basepri_before_zero`, `basepri_before_succ` — the interrupt mask in
    which each iteration begins.
  * `Contract.unmasked_iff` — a call keeps the interrupts unmasked unless it is
    one of those that mask them (`masks`).

The induction over the iterations is here and nowhere else: a test shows its
contract by executing one iteration of each of its probes.

`Idle` and `Head` are what all images have in common: the state of the simulated
kernel between two calls and at the head of a loop. They are parameters in what
an image asks of its variables (`Φ`) and of the ready queue (`Ψ`), the two things
that a probe leaves behind.
-/
import ZephyrBench.Sim.TaskProbes

namespace ZephyrBench.Sim

variable {B : Bmth} {V : Type} {p : Probe B V} {s t : Machine B V} {i : Nat}

open SimThread

/-! ## 1. Iterations -/

@[simp] theorem Probe.before_zero : p.before s 0 = (p.prepare s).2 := rfl

theorem Probe.before_succ : p.before s (i + 1) = (p.iteration (p.before s i)).2 :=
  Function.iterate_succ_apply' ..

/-- What the preparation establishes and an iteration keeps holds at the head
of the loop. -/
theorem Probe.before_invariant {P : Machine B V → Prop} (hprepare : P (p.prepare s).2)
    (hiteration : ∀ t, P t → P (p.iteration t).2) : P (p.before s i) := by
  induction i with
  | zero => exact hprepare
  | succ i ih =>
    rw [Probe.before_succ]
    exact hiteration _ ih

theorem since_eq {τ : List Mark} (h : t.log = τ ++ s.log) : since s t = τ := by
  unfold since
  rw [h, List.length_append, Nat.add_sub_cancel, List.take_left]

theorem armsSince_eq {τ : List Mark} (h : t.log = τ ++ s.log) :
    armsSince s t = (τ.filterMap Mark.arm?).reverse := by
  unfold armsSince
  rw [since_eq h]

/-- From `s`, the statement keeps `P`, adds `τ` to the history and makes `mask`
of the interrupt mask. -/
structure Iterates (P : Machine B V → Prop) (m : SimM B V Unit) (τ : List Mark)
    (mask : BitVec 32 → BitVec 32) (s : Machine B V) : Prop where
  keeps : P (m s).2
  log : (m s).2.log = τ ++ s.log
  basepri : (m s).2.basepri = mask s.basepri

/-! ## 2. Contracts -/

/-- What the probes of an image keep, and what an iteration of each does. The
calls in `masks` leave the interrupts masked. -/
structure Contract (image : Image B) where
  Static : Machine B image.Vars → Prop
  Ready : image.Call → Machine B image.Vars → Prop
  trace : image.Call → List Mark
  mask : image.Call → BitVec 32 → BitVec 32
  masks : image.Call → Prop
  boot : ∀ series, Static (image.boot series)
  unmask : ∀ s, Static s → Static { s with basepri := 0 }
  prepare : ∀ c s, Static s → Ready c ((image.probe c).prepare s).2
  prepare_basepri : ∀ c s, ((image.probe c).prepare s).2.basepri = s.basepri
  static : ∀ c s, Ready c s → Static s
  iteration : ∀ c s, Ready c s →
    Iterates (Ready c) (image.probe c).iteration (trace c) (mask c) s
  mask_zero : ∀ c, ¬ masks c → mask c 0 = 0
  mask_ne_zero : ∀ c, masks c → ∀ b, mask c b ≠ 0

namespace Contract

variable {image : Image B} (C : Contract image) {s : Machine B image.Vars} {c : image.Call}

/-- Every iteration of a call begins in a state of `Ready`. -/
theorem ready_of_static (h : C.Static s) (i : Nat) : C.Ready c ((image.probe c).before s i) :=
  Probe.before_invariant (C.prepare c s h) fun t ht => (C.iteration c t ht).keeps

theorem static_run (h : C.Static s) (n : BitVec 32) : C.Static ((image.probe c).run n s) :=
  C.static c _ (C.ready_of_static h n.toNat)

/-- The state of the image is as it should be after any calls. -/
theorem static_after (series : B.Series) (calls : List (image.Call × BitVec 32)) :
    C.Static (image.after series calls) := by
  have hfold : ∀ s, C.Static s →
      C.Static (calls.foldl (fun s c => (image.probe c.1).run c.2 s) s) := by
    induction calls with
    | nil => exact fun _ hs => hs
    | cons c calls ih => exact fun s hs => ih _ (C.static_run hs c.2)
  exact hfold _ (C.boot series)

/-- After any calls, every iteration adds the trace of its call. -/
theorem since_before (h : C.Static s) (i : Nat) :
    since ((image.probe c).before s i) ((image.probe c).before s (i + 1)) = C.trace c := by
  refine since_eq ?_
  rw [Probe.before_succ]
  exact (C.iteration c _ (C.ready_of_static h i)).log

include C in
/-- The interrupt mask in which an iteration begins: the first one in that of
the call, -/
theorem basepri_before_zero (s : Machine B image.Vars) (c : image.Call) :
    ((image.probe c).before s 0).basepri = s.basepri := by
  rw [Probe.before_zero, C.prepare_basepri]

/-- and the next in that of the iteration before it. -/
theorem basepri_before_succ (h : C.Static s) (c : image.Call) (i : Nat) :
    ((image.probe c).before s (i + 1)).basepri =
      C.mask c ((image.probe c).before s i).basepri := by
  rw [Probe.before_succ]
  exact (C.iteration c _ (C.ready_of_static h i)).basepri

/-- A call made with interrupts unmasked begins every iteration with them
unmasked and returns so, unless it is one that masks them and iterates. -/
theorem unmasked_iff (h : C.Static s) (hs : s.basepri = 0) (n : BitVec 32) :
    ((∀ i < n.toNat, ((image.probe c).before s i).basepri = 0) ∧
      ((image.probe c).run n s).basepri = 0) ↔ ¬ (C.masks c ∧ n ≠ 0) := by
  have hfirst := (C.basepri_before_zero s c).trans hs
  have hnext := C.basepri_before_succ h c
  constructor
  · rintro ⟨-, hreturn⟩ ⟨hmasks, hn⟩
    obtain ⟨i, hi⟩ := Nat.exists_eq_succ_of_ne_zero (fun h => hn (BitVec.eq_of_toNat_eq h))
    rw [Probe.run, hi, hnext] at hreturn
    exact C.mask_ne_zero c hmasks _ hreturn
  · intro hnot
    by_cases hmasks : C.masks c
    · have hn : n = 0 := not_not.mp fun hn => hnot ⟨hmasks, hn⟩
      subst hn
      exact ⟨fun i hi => absurd hi (Nat.not_lt_zero i), hfirst⟩
    · have hall : ∀ i, ((image.probe c).before s i).basepri = 0 := by
        intro i
        induction i with
        | zero => exact hfirst
        | succ i ih =>
          rw [hnext, ih]
          exact C.mask_zero c hmasks
      exact ⟨fun i _ => hall i, hall n.toNat⟩

end Contract

/-! ## 3. The simulated kernel between two iterations -/

/-- What the probes of an image rely on between two calls: the thread mode,
`Φ` of the variables and `Ψ` of the cache of the ready queue. -/
structure Idle (Φ : V → Prop) (Ψ : Option SimThread → Prop) (s : Machine B V) : Prop where
  ipsr : s.ipsr = 0
  vars : Φ s.vars
  cache : Ψ s.kernel.cache

/-- What they rely on at the head of a loop: the thread that
`sim_kernel_init()` made current, and for a probe that is `fresh` also that it
has zero to return from the swap. -/
structure Head (Φ : V → Prop) (Ψ : Option SimThread → Prop) (fresh : Bool) (s : Machine B V) : Prop
    extends Idle Φ Ψ s where
  current : s.kernel.current = some simCurrentThread
  returns : fresh = true → (s.thread simCurrentThread).swapReturnValue = 0

variable {Φ : V → Prop} {Ψ : Option SimThread → Prop}

theorem Idle.unmask (h : Idle Φ Ψ s) : Idle Φ Ψ { s with basepri := 0 } :=
  ⟨h.ipsr, h.vars, h.cache⟩

/-- `sim_kernel_init()` and the initialisation of the series. -/
theorem Idle.init (h : Idle Φ Ψ s) (window : ReadWindow) (fresh : Bool) :
    Head Φ Ψ fresh (mseriesInitialize window (simKernelInit s).2).2 :=
  ⟨⟨h.ipsr, h.vars, h.cache⟩, rfl, fun _ => by simp⟩

theorem Idle.mono {Φ' : V → Prop} {Ψ' : Option SimThread → Prop} (h : Idle Φ Ψ s)
    (hΦ : ∀ v, Φ v → Φ' v) (hΨ : ∀ t, Ψ t → Ψ' t) : Idle Φ' Ψ' s :=
  ⟨h.ipsr, hΦ _ h.vars, hΨ _ h.cache⟩

/-- A statement that changes neither the mode nor the kernel structure, and
returns to the head of the loop. -/
theorem Head.iterates {fresh : Bool} {m : SimM B V Unit} {τ : List Mark}
    {mask : BitVec 32 → BitVec 32} (h : Head Φ Ψ fresh s) (hipsr : (m s).2.ipsr = s.ipsr)
    (hkernel : (m s).2.kernel = s.kernel) (hvars : Φ (m s).2.vars)
    (hreturns : fresh = true → ((m s).2.thread simCurrentThread).swapReturnValue = 0)
    (hlog : (m s).2.log = τ ++ s.log) (hbasepri : (m s).2.basepri = mask s.basepri) :
    Iterates (Head Φ Ψ fresh) m τ mask s := by
  refine ⟨⟨⟨?_, hvars, ?_⟩, ?_, hreturns⟩, hlog, hbasepri⟩
  · rw [hipsr, h.ipsr]
  · rw [hkernel]
    exact h.cache
  · rw [hkernel, h.current]

/-! ## 4. The z_swap probe -/

def SimZSwapPart.fresh : SimZSwapPart → Bool
  | .prologue => false
  | .tail => true

def SimZSwapPart.trace : SimZSwapPart → List Mark
  | .prologue => [.sink (BitVec.ofInt 32 (-eagain)), .stop, .start]
  | .tail => [.sink 0, .stop, .start, .start]

def SimZSwapPart.mask : SimZSwapPart → BitVec 32 → BitVec 32
  | .prologue => fun _ => 0
  | .tail => id

theorem SimZSwapPart.mask_zero (part : SimZSwapPart) : part.mask 0 = 0 := by
  cases part <;> rfl

theorem measureZSwap_iterates (part : SimZSwapPart) (h : Head Φ Ψ part.fresh s) :
    Iterates (Head Φ Ψ part.fresh) (measureZSwap part) part.trace part.mask s := by
  have hcurrent := h.current
  have hvars := h.vars
  cases part with
  | prologue =>
    refine h.iterates ?_ ?_ ?_ nofun ?_ ?_ <;>
      simp [*, measureZSwap, SimZSwapPart.trace, SimZSwapPart.mask]
  | tail =>
    have hreturns := h.returns rfl
    refine h.iterates ?_ ?_ ?_ (fun _ => ?_) ?_ ?_ <;>
      simp [*, measureZSwap, SimZSwapPart.trace, SimZSwapPart.mask]

end ZephyrBench.Sim

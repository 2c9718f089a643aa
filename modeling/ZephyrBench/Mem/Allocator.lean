/-
ZephyrBench.Mem.Allocator — the interface of the allocation tests.

Every adapter answers the same calls, and the harness cuts the arena anew at each
step of its sweep. `Adapter` is that interface, `Client` is a caller that
remembers the pieces it still holds, and `SweepStep` carries the bounds that the
harness keeps.

`Cut` is what an allocator of one fixed size is for, in two numbers: the step
the arena is cut at, and how many pieces are out. It knows of no addresses. An
adapter refines it if it has an invariant `I` that meets the obligations of
`FixedSize`, one for each call; `exec_follows` and `answers_follow` then say that
a run of the adapter and one of `Cut` give the same answers, and
`Cut.answers_allocs` what these are.

A caller frees only what it holds: `free k` is about the `k`-th piece of the
caller, not about an address, so a double free cannot be written down.
-/
import ZephyrBench.Calls
import ZephyrBench.Mem.Pieces
import Mathlib.Data.List.ReduceOption

namespace ZephyrBench.Mem

/-! ## 1. The harness -/

/-- `MEM_S_MIN` -/
def memSMin : Nat := 3

/-- `MEM_S_MAX` -/
def memSMax : Nat := 10

/-- `MEM_S_COUNT` -/
def memSCount : Nat := memSMax - memSMin + 1

theorem memSCount_pos : 0 < memSCount := Nat.succ_pos _

/-- `MEM_SIZE_OF_S(s)` -/
def memSizeOfS (s : Nat) : Nat := 2 ^ s

/-- `__builtin_ctz()`, which is undefined at 0. -/
def builtinCtz (w : BitVec 32) : Nat := w.ctz.toNat

/-- The value of an expression of type `size_t` or `uint32_t`. -/
def sizeT (n : Nat) : Nat := n % 2 ^ 32

/-- An address, or `NULL`. -/
abbrev Ptr := Option Nat

/-- A step of the sweep. -/
structure SweepStep where
  s : Nat
  min : memSMin ≤ s
  max : s ≤ memSMax
  deriving DecidableEq

namespace SweepStep

/-- What the harness passes to `mem_allocator_create_arena()`. -/
def granularity (x : SweepStep) : Nat := memSizeOfS x.s

theorem granularity_pos (x : SweepStep) : 0 < x.granularity :=
  Nat.two_pow_pos x.s

/-- The index of the step in a table of all steps. -/
def index (x : SweepStep) : Fin memSCount where
  val := x.s - memSMin
  isLt := by
    have := x.max
    unfold memSMax at this
    unfold memSCount memSMax memSMin
    omega

@[simp] theorem index_val (x : SweepStep) : x.index.val = x.s - memSMin := rfl

theorem builtinCtz_granularity (x : SweepStep) :
    builtinCtz (BitVec.ofNat 32 x.granularity) = x.s := by
  have hmax : x.s ≤ 10 := x.max
  have hbit : ∀ i, (BitVec.ofNat 32 x.granularity).getLsbD i =
      (decide (i < 32) && decide (x.s = i)) := by
    intro i
    rw [BitVec.getLsbD_ofNat]
    exact congrArg _ Nat.testBit_two_pow
  have hne : BitVec.ofNat 32 x.granularity ≠ 0 := by
    intro h0
    have := hbit x.s
    rw [h0] at this
    simp at this
    omega
  have hset := BitVec.getLsbD_true_ctz_of_ne_zero hne
  rw [hbit] at hset
  simp at hset
  exact hset.2.symm

end SweepStep

/-- The configuration of the harness. -/
structure Harness where
  memArenaSize : Nat
  powerOfTwo : memArenaSize &&& (memArenaSize - 1) = 0
  large : memSizeOfS memSMax ≤ memArenaSize
  word : memArenaSize < 2 ^ 32

namespace Harness

variable (h : Harness)

/-- The pieces the arena is cut into at a step. -/
def pieces (x : SweepStep) : Nat := h.memArenaSize / x.granularity

theorem memArenaSize_eq : ∃ k, memSMax ≤ k ∧ h.memArenaSize = 2 ^ k := by
  have hpos : h.memArenaSize ≠ 0 := by
    have := h.large
    have := Nat.two_pow_pos memSMax
    unfold memSizeOfS at *
    omega
  obtain ⟨k, hk⟩ := (Nat.and_sub_one_eq_zero_iff_isPowerOfTwo hpos).mp h.powerOfTwo
  refine ⟨k, ?_, hk⟩
  have hlarge := h.large
  rw [hk] at hlarge
  exact (Nat.pow_le_pow_iff_right (by decide)).mp hlarge

theorem granularity_dvd (x : SweepStep) : x.granularity ∣ h.memArenaSize := by
  obtain ⟨k, hk, heq⟩ := h.memArenaSize_eq
  rw [heq]
  exact Nat.pow_dvd_pow 2 (x.max.trans hk)

@[simp] theorem pieces_mul (x : SweepStep) : h.pieces x * x.granularity = h.memArenaSize :=
  Nat.div_mul_cancel (h.granularity_dvd x)

theorem pieces_pos (x : SweepStep) : 0 < h.pieces x := by
  have hle : x.granularity ≤ h.memArenaSize := by
    refine le_trans ?_ h.large
    exact Nat.pow_le_pow_right (by decide) x.max
  exact Nat.div_pos hle x.granularity_pos

end Harness

/-! ## 2. The calls -/

/-- The calls of `mem_allocator.h` that change the arena. `free k` frees the
`k`-th of the pieces that the caller still holds. -/
inductive Call
  | createArena (x : SweepStep)
  | destroyArena
  | trimStore
  | alloc (bytes : Nat)
  | free (k : Nat)
  deriving DecidableEq

/-- The calls, and the batch call, which is given an array to fill. -/
inductive BatchCall
  | call (c : Call)
  | allocN (count : Nat) (allocations : Vector Ptr count)

/-- The step the arena is cut at after a call. -/
def Call.stepAfter (x : SweepStep) : Call → SweepStep
  | .createArena y => y
  | _ => x

/-- The step the arena is cut at after a call. -/
def BatchCall.stepAfter (x : SweepStep) : BatchCall → SweepStep
  | .call c => c.stepAfter x
  | .allocN _ _ => x

inductive Reply
  | done
  | granted
  | refused
  deriving DecidableEq

/-- An adapter with static variables of type `σ`. -/
structure Adapter (σ : Type) where
  createArena (granularity : Nat) (st : σ) : σ
  destroyArena (st : σ) : σ
  trimStore (st : σ) : σ
  alloc (bytes : Nat) (st : σ) : Ptr × σ
  allocN (count : Nat) (allocations : Vector Ptr count) (st : σ) : Bool × Vector Ptr count × σ
  free (allocation : Ptr) (st : σ) : σ
  arenaBytes (st : σ) : Nat
  usedBytes (st : σ) : Nat
  fixedBytes (st : σ) : Nat
  createIsNative : Bool
  isFixedSize : Bool
  supportsAllocN : Bool

/-- A caller: the static variables of the adapter, and the pieces handed out
since the last create and not freed. -/
structure Client (σ : Type) where
  store : σ
  live : List Nat

variable {σ : Type}

/-- The caller does one call. -/
def Adapter.exec (A : Adapter σ) (c : Client σ) : Call → Reply × Client σ
  | .createArena x => (.done, ⟨A.createArena x.granularity c.store, []⟩)
  | .destroyArena => (.done, { c with store := A.destroyArena c.store })
  | .trimStore => (.done, { c with store := A.trimStore c.store })
  | .alloc bytes =>
    match A.alloc bytes c.store with
    | (some a, st) => (.granted, ⟨st, c.live ++ [a]⟩)
    | (none, st) => (.refused, { c with store := st })
  | .free k =>
    match c.live[k]? with
    | some a => (.done, ⟨A.free (some a) c.store, c.live.eraseIdx k⟩)
    | none => (.done, c)

/-- The caller does one call, a batch call included. -/
def Adapter.execBatch (A : Adapter σ) (c : Client σ) : BatchCall → Reply × Client σ
  | .call call => A.exec c call
  | .allocN count allocations =>
    match A.allocN count allocations c.store with
    | (true, out, st) => (.granted, ⟨st, c.live ++ out.toList.reduceOption⟩)
    | (false, _, st) => (.refused, { c with store := st })

theorem Adapter.execBatch_allocN_true (A : Adapter σ) {c : Client σ} {count : Nat}
    {allocations : Vector Ptr count} (htrue : (A.allocN count allocations c.store).1 = true) :
    A.execBatch c (.allocN count allocations) =
      (.granted, ⟨(A.allocN count allocations c.store).2.2,
        c.live ++ (A.allocN count allocations c.store).2.1.toList.reduceOption⟩) := by
  simp only [Adapter.execBatch]
  split <;> simp_all

theorem Adapter.exec_alloc_some (A : Adapter σ) {st : σ} {live : List Nat} {bytes p : Nat}
    (hp : (A.alloc bytes st).1 = some p) :
    A.exec ⟨st, live⟩ (.alloc bytes) = (.granted, ⟨(A.alloc bytes st).2, live ++ [p]⟩) := by
  simp only [Adapter.exec]
  split <;> simp_all

theorem Adapter.exec_alloc_none (A : Adapter σ) {st : σ} {live : List Nat} {bytes : Nat}
    (hp : (A.alloc bytes st).1 = none) :
    A.exec ⟨st, live⟩ (.alloc bytes) = (.refused, ⟨(A.alloc bytes st).2, live⟩) := by
  simp only [Adapter.exec]
  split <;> simp_all

theorem Adapter.exec_free_some (A : Adapter σ) {st : σ} {live : List Nat} {k a : Nat}
    (hk : live[k]? = some a) :
    A.exec ⟨st, live⟩ (.free k) = (.done, ⟨A.free (some a) st, live.eraseIdx k⟩) := by
  simp only [Adapter.exec, hk]

theorem Adapter.exec_free_none (A : Adapter σ) {st : σ} {live : List Nat} {k : Nat}
    (hk : live[k]? = none) : A.exec ⟨st, live⟩ (.free k) = (.done, ⟨st, live⟩) := by
  simp only [Adapter.exec, hk]

/-! ## 3. What an allocator of one fixed size is for -/

/-- The step the arena is cut at, and the number of pieces out. -/
structure Cut where
  step : SweepStep
  out : Nat
  deriving DecidableEq

def Cut.exec (h : Harness) (c : Cut) : Call → Reply × Cut
  | .createArena x => (.done, ⟨x, 0⟩)
  | .destroyArena | .trimStore => (.done, c)
  | .alloc _ =>
    if c.out < h.pieces c.step then (.granted, ⟨c.step, c.out + 1⟩) else (.refused, c)
  | .free k => (.done, ⟨c.step, if k < c.out then c.out - 1 else c.out⟩)

theorem Cut.exec_step (h : Harness) (c : Cut) (call : Call) :
    (Cut.exec h c call).2.step = call.stepAfter c.step := by
  cases call with
  | alloc bytes =>
    by_cases hlt : c.out < h.pieces c.step <;> simp [Cut.exec, Call.stepAfter, hlt]
  | _ => rfl

theorem Cut.answers_step (h : Harness) (c : Cut) (calls : List Call) :
    (answers (Cut.exec h) c calls).2.step = calls.foldl Call.stepAfter c.step := by
  refine answers_invariant (P := fun x (c : Cut) => c.step = x) (fun x c call hx => ?_) rfl calls
  rw [Cut.exec_step, hx]

/-- `m` allocations one after another: all are granted while pieces are left,
and from then on all are refused. -/
theorem Cut.answers_allocs (h : Harness) (c : Cut) (sizes : List Nat)
    (hout : c.out ≤ h.pieces c.step) :
    (answers (Cut.exec h) c (sizes.map .alloc)).1 =
      List.replicate (min sizes.length (h.pieces c.step - c.out)) .granted ++
        List.replicate (sizes.length - (h.pieces c.step - c.out)) .refused := by
  induction sizes generalizing c with
  | nil => simp
  | cons bytes sizes ih =>
    rw [List.map_cons, answers_cons]
    by_cases hlt : c.out < h.pieces c.step
    · have hexec : Cut.exec h c (.alloc bytes) = (.granted, ⟨c.step, c.out + 1⟩) := if_pos hlt
      have hmin : min (sizes.length + 1) (h.pieces c.step - c.out) =
          min sizes.length (h.pieces c.step - (c.out + 1)) + 1 := by omega
      have hsub : sizes.length + 1 - (h.pieces c.step - c.out) =
          sizes.length - (h.pieces c.step - (c.out + 1)) := by omega
      rw [hexec, ih ⟨c.step, c.out + 1⟩ hlt, List.length_cons, hmin, hsub, List.replicate_succ]
      rfl
    · have hexec : Cut.exec h c (.alloc bytes) = (.refused, c) := if_neg hlt
      have hzero : h.pieces c.step - c.out = 0 := by omega
      rw [hexec, ih c hout, hzero]
      simp [List.replicate_succ]

/-- The obligations of an adapter for pieces of one size. `I x st live` holds
while the arena is cut at step `x` and `live` is the list of the pieces out;
`W st` holds from the start. -/
structure FixedSize (h : Harness) (A : Adapter σ) (W : σ → Prop)
    (I : SweepStep → σ → List Nat → Prop) : Prop where
  weaken : ∀ {x st live}, I x st live → W st
  createArena : ∀ {x st}, W st → I x (A.createArena x.granularity st) []
  destroyArena : ∀ {x st live}, I x st live → I x (A.destroyArena st) live
  trimStore : ∀ {x st live}, I x st live → I x (A.trimStore st) live
  granted : ∀ {x st live}, I x st live → live.length < h.pieces x → ∀ bytes,
    ∃ a, (A.alloc bytes st).1 = some a ∧ I x (A.alloc bytes st).2 (live ++ [a])
  refused : ∀ {x st live}, I x st live → h.pieces x ≤ live.length → ∀ bytes,
    (A.alloc bytes st).1 = none ∧ I x (A.alloc bytes st).2 live
  free : ∀ {x st live k a}, I x st live → live[k]? = some a →
    I x (A.free (some a) st) (live.eraseIdx k)
  arenaBytes : ∀ {x st live}, I x st live → A.arenaBytes st = h.memArenaSize
  usedBytes : ∀ {x st live}, I x st live →
    A.usedBytes st = A.fixedBytes st + x.granularity * live.length
  length_le : ∀ {x st live}, I x st live → live.length ≤ h.pieces x

/-- The caller of the adapter and `Cut` are at the same step, with as many
pieces out. -/
def Follows (I : SweepStep → σ → List Nat → Prop) (c : Client σ) (a : Cut) : Prop :=
  I a.step c.store c.live ∧ c.live.length = a.out

namespace FixedSize

variable {h : Harness} {A : Adapter σ} {W : σ → Prop} {I : SweepStep → σ → List Nat → Prop}

/-- Every call keeps the caller and `Cut` together, and both answer alike. -/
theorem exec_follows (F : FixedSize h A W I) (c : Client σ) (a : Cut) (call : Call)
    (hc : Follows I c a) : (A.exec c call).1 = (Cut.exec h a call).1 ∧
      Follows I (A.exec c call).2 (Cut.exec h a call).2 := by
  obtain ⟨st, live⟩ := c
  obtain ⟨x, out⟩ := a
  obtain ⟨hI, hlen⟩ := hc
  simp only at hI hlen
  subst hlen
  cases call with
  | createArena y => exact ⟨rfl, F.createArena (F.weaken hI), rfl⟩
  | destroyArena => exact ⟨rfl, F.destroyArena hI, rfl⟩
  | trimStore => exact ⟨rfl, F.trimStore hI, rfl⟩
  | alloc bytes =>
    by_cases hlt : live.length < h.pieces x
    · obtain ⟨p, hp, hnext⟩ := F.granted hI hlt bytes
      rw [Adapter.exec_alloc_some A hp,
        show Cut.exec h ⟨x, live.length⟩ (.alloc bytes) = _ from if_pos hlt]
      exact ⟨rfl, hnext, by simp⟩
    · obtain ⟨hp, hnext⟩ := F.refused hI (Nat.le_of_not_lt hlt) bytes
      rw [Adapter.exec_alloc_none A hp,
        show Cut.exec h ⟨x, live.length⟩ (.alloc bytes) = _ from if_neg hlt]
      exact ⟨rfl, hnext, rfl⟩
  | free k =>
    cases hk : live[k]? with
    | none =>
      have hle : ¬ k < live.length := Nat.not_lt.mpr (List.getElem?_eq_none_iff.mp hk)
      rw [Adapter.exec_free_none A hk]
      simp only [Cut.exec, hle, if_false]
      exact ⟨trivial, hI, rfl⟩
    | some p =>
      have hlt : k < live.length := (List.getElem?_eq_some_iff.mp hk).1
      rw [Adapter.exec_free_some A hk]
      simp only [Cut.exec, hlt, if_true]
      exact ⟨trivial, F.free hI hk, by simp [List.length_eraseIdx, hlt]⟩

/-- A run that begins with a create follows `Cut`, whatever was live before. -/
theorem answers_follow (F : FixedSize h A W I) (c : Client σ) (hW : W c.store) (x : SweepStep)
    (calls : List Call) :
    (answers A.exec c (.createArena x :: calls)).1 =
        .done :: (answers (Cut.exec h) ⟨x, 0⟩ calls).1 ∧
      Follows I (answers A.exec c (.createArena x :: calls)).2
        (answers (Cut.exec h) ⟨x, 0⟩ calls).2 := by
  have hfirst : Follows I (A.exec c (.createArena x)).2 ⟨x, 0⟩ := ⟨F.createArena hW, rfl⟩
  obtain ⟨hreply, hnext⟩ := answers_simulates F.exec_follows hfirst calls
  rw [answers_cons, hreply]
  exact ⟨rfl, hnext⟩

end FixedSize

end ZephyrBench.Mem

/-
ZephyrBench.Itc.MsgqStorage — the storage of the message queues.

`msgq.c` packs the storage of all steps of a direction into one array, the
largest step first, and `I_Task` hands `k_msgq_init()` the slice of each step.

`msgq_slices`: the slices of an array are pairwise disjoint, cover it exactly and
end in it; each begins at a multiple of its message size; no subexpression of the
macros wraps. With the sizes of the test, the calls are those that its `I_Task`
makes in the passes of its loop.

## How the proof goes

The sizes are the macros of the file, as unsigned expressions of 32 bits
(`UExpr`). `is_msgqBufferSize`, `is_msgqBufferOffset` and `is_messageSize` give
their values as natural numbers; `Is` says besides that nothing wraps on the way.
From there on the argument is about `descending`, the bounds of slices that
double in size from the end of the array to its start: the slice of a step
begins where that of the next larger one ends (`slice_end`).

## The side conditions

`MsgqSizes` is any choice of the parameters for which the array fits into 32
bits, with at least one message of at least one byte in a queue and fewer than 32
steps, so that the shifts are defined. Every subexpression is bounded by the size
of the array (`mul_lt`), so nothing more is needed; `msgqSizes` are those of the
test.
-/
import Mathlib.Data.Set.Lattice
import Mathlib.Order.CompletePartialOrder
import Mathlib.Order.Interval.Set.Basic
import Mathlib.Tactic.Ring
import ZephyrBench.Unsigned
import ZephyrBench.Itc.Tests

namespace ZephyrBench.Itc

open UExpr

/-! ## 1. Descending slices -/

section Descending

variable {u S : Nat}

/-- What lies below step `s` when steps of `u * 2 ^ s` are packed, the largest
first. The slice of step `s` begins at the bound of step `s + 1`. -/
def descending (u S s : Nat) : Nat := u * (2 ^ S - 2 ^ s)

theorem descending_self : descending u S S = 0 := by
  rw [descending, Nat.sub_self, Nat.mul_zero]

theorem descending_antitone {s t : Nat} (h : s ≤ t) : descending u S t ≤ descending u S s := by
  have hpow : 2 ^ s ≤ 2 ^ t := Nat.pow_le_pow_right (by omega) h
  exact Nat.mul_le_mul_left u (by omega)

/-- The slice of a step is as long as its step. -/
theorem descending_succ {s : Nat} (h : s < S) :
    descending u S (s + 1) + u * 2 ^ s = descending u S s := by
  have hpow : 2 ^ (s + 1) ≤ 2 ^ S := Nat.pow_le_pow_right (by omega) h
  rw [descending, descending, ← Nat.mul_add]
  congr 1
  rw [Nat.pow_succ] at hpow ⊢
  omega

/-- The slices of the first `k` steps cover what lies above step `k`. -/
theorem mem_descending_iff {k i : Nat} :
    (∃ s < k, descending u S (s + 1) ≤ i ∧ i < descending u S s) ↔
      descending u S k ≤ i ∧ i < descending u S 0 := by
  induction k with
  | zero =>
    constructor
    · rintro ⟨s, hs, -⟩
      exact absurd hs (Nat.not_lt_zero s)
    · rintro ⟨hle, hlt⟩
      exact absurd hlt (Nat.not_lt.mpr hle)
  | succ k ih =>
    have hstep : descending u S (k + 1) ≤ descending u S k := descending_antitone (Nat.le_succ k)
    constructor
    · rintro ⟨s, hs, hle, hlt⟩
      have hbelow : descending u S (k + 1) ≤ descending u S (s + 1) := descending_antitone hs
      have habove : descending u S s ≤ descending u S 0 := descending_antitone (Nat.zero_le s)
      omega
    · rintro ⟨hle, hlt⟩
      by_cases hi : i < descending u S k
      · exact ⟨k, Nat.lt_succ_self k, hle, hi⟩
      · obtain ⟨s, hs, hslice⟩ := ih.mpr ⟨Nat.not_lt.mp hi, hlt⟩
        exact ⟨s, Nat.lt_succ_of_lt hs, hslice⟩

end Descending

/-! ## 2. `msgq.c` -/

/-- The parameters of a build. The shifts and the array fit into 32 bits. -/
structure MsgqSizes where
  messageSizeMin : BitVec 32
  messageSizeSteps : BitVec 32
  msgqMaxMsgs : BitVec 32
  one_le_messageSizeMin : 1 ≤ messageSizeMin.toNat
  one_le_messageSizeSteps : 1 ≤ messageSizeSteps.toNat
  one_le_msgqMaxMsgs : 1 ≤ msgqMaxMsgs.toNat
  messageSizeSteps_lt : messageSizeSteps.toNat < 32
  buffer_lt : messageSizeMin.toNat * (2 ^ messageSizeSteps.toNat - 1) * msgqMaxMsgs.toNat < 2 ^ 32

namespace MsgqSizes

variable (c : MsgqSizes)

/-- `MSGQ_BUFFER_SIZE`. -/
def msgqBufferSize : UExpr 32 :=
  .mul (.mul (.lit c.messageSizeMin) (.sub (.shl (.lit 1) (.lit c.messageSizeSteps)) (.lit 1)))
    (.lit c.msgqMaxMsgs)

/-- `MSGQ_BUFFER_OFFSET(step)`. -/
def msgqBufferOffset (step : BitVec 32) : UExpr 32 :=
  .mul (.mul (.lit c.messageSizeMin)
      (.sub (.shl (.lit 1) (.lit c.messageSizeSteps)) (.shl (.lit 2) (.lit step))))
    (.lit c.msgqMaxMsgs)

/-- `MESSAGE_SIZE_MIN << step`. -/
def messageSize (step : BitVec 32) : UExpr 32 := .shl (.lit c.messageSizeMin) (.lit step)

end MsgqSizes

/-- `msgq_buffer_self`, `msgq_buffer_high` and `msgq_buffer_low`. -/
inductive MsgqBuffer
  | self
  | dir (d : Dir)
  deriving DecidableEq

/-- The queue of a step that has its storage in the array. -/
def MsgqBuffer.queue : MsgqBuffer → Nat → Channel
  | .self => .self
  | .dir d => .dir d

/-- The arguments of a call of `k_msgq_init()`. -/
structure MsgqInit where
  msgq : Channel
  buffer : MsgqBuffer
  offset : BitVec 32
  msgSize : BitVec 32
  maxMsgs : BitVec 32
  deriving DecidableEq

/-- The call, without the address. -/
def MsgqInit.call (x : MsgqInit) : Rtos.Call Thread Object Addr EntryFn :=
  .kMsgqInit (.chan x.msgq) x.msgSize.toNat x.maxMsgs.toNat

/-- The bytes of the array that the queue is given. -/
def MsgqInit.slice (x : MsgqInit) : Set Nat :=
  Set.Ico x.offset.toNat (x.offset.toNat + x.msgSize.toNat * x.maxMsgs.toNat)

namespace MsgqSizes

variable (c : MsgqSizes)

/-- The call of a step for an array. -/
def msgqInit (step : BitVec 32) (b : MsgqBuffer) : MsgqInit where
  msgq := b.queue step.toNat
  buffer := b
  offset := (c.msgqBufferOffset step).eval
  msgSize := (c.messageSize step).eval
  maxMsgs := c.msgqMaxMsgs

/-- The body of the loop in `I_Task`. -/
def initStep (step : BitVec 32) : List MsgqInit :=
  [c.msgqInit step .self, c.msgqInit step (.dir .up), c.msgqInit step (.dir .down)]

/-- The loop, `for (uint32_t step = 0U; step < MESSAGE_SIZE_STEPS; step++)`. -/
def initMsgqs : List MsgqInit :=
  (List.range c.messageSizeSteps.toNat).flatMap fun step => c.initStep (BitVec.ofNat 32 step)

/-! ## 3. The expressions -/

variable {c} {s : Nat}

theorem two_pow_lt : 2 ^ c.messageSizeSteps.toNat < 2 ^ 32 :=
  Nat.pow_lt_pow_right (by omega) c.messageSizeSteps_lt

theorem step_toNat (h : s < c.messageSizeSteps.toNat) : (BitVec.ofNat 32 s).toNat = s :=
  Nat.mod_eq_of_lt (Nat.lt_trans h (BitVec.isLt _))

/-- A product with the first factor and the messages of a queue is no larger
than the array. -/
theorem mul_lt {n : Nat} (h : n < 2 ^ c.messageSizeSteps.toNat) :
    c.messageSizeMin.toNat * n * c.msgqMaxMsgs.toNat < 2 ^ 32 := by
  have hle : n ≤ 2 ^ c.messageSizeSteps.toNat - 1 := by omega
  have hmul := Nat.mul_le_mul_right c.msgqMaxMsgs.toNat
    (Nat.mul_le_mul_left c.messageSizeMin.toNat hle)
  exact Nat.lt_of_le_of_lt hmul c.buffer_lt

theorem mul_lt_left {n : Nat} (h : n < 2 ^ c.messageSizeSteps.toNat) :
    c.messageSizeMin.toNat * n < 2 ^ 32 := by
  have hle := Nat.le_mul_of_pos_right (c.messageSizeMin.toNat * n) c.one_le_msgqMaxMsgs
  exact Nat.lt_of_le_of_lt hle (mul_lt h)

/-- `1U << MESSAGE_SIZE_STEPS`. -/
theorem is_steps : (shl (lit 1) (lit c.messageSizeSteps)).Is (2 ^ c.messageSizeSteps.toNat) := by
  have h := Is.shl (is_lit (1 : BitVec 32)) (is_lit c.messageSizeSteps) c.messageSizeSteps_lt
    (by rw [show (1 : BitVec 32).toNat = 1 from rfl, Nat.one_mul]; exact two_pow_lt)
  rwa [show (1 : BitVec 32).toNat = 1 from rfl, Nat.one_mul] at h

/-- `2U << step`. -/
theorem is_two_shl (h : s < c.messageSizeSteps.toNat) :
    (shl (lit 2) (lit (BitVec.ofNat 32 s))).Is (2 ^ (s + 1)) := by
  have hpow : 2 ^ (s + 1) ≤ 2 ^ c.messageSizeSteps.toNat := Nat.pow_le_pow_right (by omega) h
  have hs := is_lit (BitVec.ofNat 32 s)
  rw [step_toNat h] at hs
  have htwo : 2 * 2 ^ s = 2 ^ (s + 1) := by rw [Nat.pow_succ, Nat.mul_comm]
  rw [← htwo]
  refine Is.shl (is_lit 2) hs (Nat.lt_trans h c.messageSizeSteps_lt) ?_
  show 2 * 2 ^ s < 2 ^ 32
  rw [htwo]
  exact Nat.lt_of_le_of_lt hpow two_pow_lt

theorem is_msgqBufferSize : c.msgqBufferSize.Is
    (c.messageSizeMin.toNat * (2 ^ c.messageSizeSteps.toNat - 1) * c.msgqMaxMsgs.toNat) := by
  have hpos := Nat.two_pow_pos c.messageSizeSteps.toNat
  have hlt : 2 ^ c.messageSizeSteps.toNat - 1 < 2 ^ c.messageSizeSteps.toNat := by omega
  have hdiff := is_steps.sub (is_lit (1 : BitVec 32)) hpos
  exact ((is_lit _).mul hdiff (mul_lt_left hlt)).mul (is_lit _) (mul_lt hlt)

theorem is_msgqBufferOffset (h : s < c.messageSizeSteps.toNat) :
    (c.msgqBufferOffset (BitVec.ofNat 32 s)).Is
      (c.messageSizeMin.toNat * (2 ^ c.messageSizeSteps.toNat - 2 ^ (s + 1)) *
        c.msgqMaxMsgs.toNat) := by
  have hpos := Nat.two_pow_pos (s + 1)
  have hle : 2 ^ (s + 1) ≤ 2 ^ c.messageSizeSteps.toNat := Nat.pow_le_pow_right (by omega) h
  have hlt : 2 ^ c.messageSizeSteps.toNat - 2 ^ (s + 1) < 2 ^ c.messageSizeSteps.toNat := by omega
  have hdiff := is_steps.sub (is_two_shl h) hle
  exact ((is_lit _).mul hdiff (mul_lt_left hlt)).mul (is_lit _) (mul_lt hlt)

theorem is_messageSize (h : s < c.messageSizeSteps.toNat) :
    (c.messageSize (BitVec.ofNat 32 s)).Is (c.messageSizeMin.toNat * 2 ^ s) := by
  have hs := is_lit (BitVec.ofNat 32 s)
  rw [step_toNat h] at hs
  have hlt : 2 ^ s < 2 ^ c.messageSizeSteps.toNat := Nat.pow_lt_pow_right (by omega) h
  exact (is_lit _).shl hs (Nat.lt_trans h c.messageSizeSteps_lt) (mul_lt_left hlt)

/-! ## 4. The slices -/

/-- The size that the slices are multiples of. -/
def unit (c : MsgqSizes) : Nat := c.messageSizeMin.toNat * c.msgqMaxMsgs.toNat

theorem size_eq :
    c.msgqBufferSize.eval.toNat = descending c.unit c.messageSizeSteps.toNat 0 := by
  rw [is_msgqBufferSize.eval, descending, unit, Nat.pow_zero]
  ring

theorem offset_eq (h : s < c.messageSizeSteps.toNat) :
    (c.msgqBufferOffset (BitVec.ofNat 32 s)).eval.toNat =
      descending c.unit c.messageSizeSteps.toNat (s + 1) := by
  rw [(is_msgqBufferOffset h).eval, descending, unit]
  ring

/-- The slice of a step ends where that of the step before it begins. -/
theorem slice_end (h : s < c.messageSizeSteps.toNat) (b : MsgqBuffer) :
    (c.msgqInit (BitVec.ofNat 32 s) b).offset.toNat +
        (c.msgqInit (BitVec.ofNat 32 s) b).msgSize.toNat *
          (c.msgqInit (BitVec.ofNat 32 s) b).maxMsgs.toNat =
      descending c.unit c.messageSizeSteps.toNat s := by
  have hlength : c.messageSizeMin.toNat * 2 ^ s * c.msgqMaxMsgs.toNat = c.unit * 2 ^ s := by
    rw [unit]
    ring
  show (c.msgqBufferOffset (BitVec.ofNat 32 s)).eval.toNat +
    (c.messageSize (BitVec.ofNat 32 s)).eval.toNat * c.msgqMaxMsgs.toNat = _
  rw [offset_eq h, (is_messageSize h).eval, hlength, descending_succ h]

theorem slice_eq (h : s < c.messageSizeSteps.toNat) (b : MsgqBuffer) :
    (c.msgqInit (BitVec.ofNat 32 s) b).slice =
      Set.Ico (descending c.unit c.messageSizeSteps.toNat (s + 1))
        (descending c.unit c.messageSizeSteps.toNat s) := by
  rw [MsgqInit.slice, slice_end h b, ← offset_eq h]
  rfl

theorem msgSize_dvd_offset (h : s < c.messageSizeSteps.toNat) :
    (c.messageSize (BitVec.ofNat 32 s)).eval.toNat ∣
      (c.msgqBufferOffset (BitVec.ofNat 32 s)).eval.toNat := by
  have hpow : 2 ^ s ∣ 2 ^ c.messageSizeSteps.toNat - 2 ^ (s + 1) :=
    Nat.dvd_sub (Nat.pow_dvd_pow 2 (Nat.le_of_lt h)) (Nat.pow_dvd_pow 2 (Nat.le_succ s))
  rw [(is_messageSize h).eval, (is_msgqBufferOffset h).eval]
  exact Dvd.dvd.mul_right (Nat.mul_dvd_mul_left _ hpow) _

/-- The calls that hand out an array. -/
def initsOf (c : MsgqSizes) (b : MsgqBuffer) : List MsgqInit :=
  c.initMsgqs.filter fun x => x.buffer = b

/-- It is handed out once for every step, in this order. -/
theorem initsOf_eq (c : MsgqSizes) (b : MsgqBuffer) :
    c.initsOf b =
      (List.range c.messageSizeSteps.toNat).map fun s => c.msgqInit (BitVec.ofNat 32 s) b := by
  have hstep : ∀ step, (c.initStep step).filter (fun x => x.buffer = b) = [c.msgqInit step b] := by
    intro step
    cases b with
    | self => rfl
    | dir d => cases d <;> rfl
  rw [initsOf, initMsgqs, List.filter_flatMap]
  simp only [hstep]
  exact List.map_eq_flatMap.symm

theorem mem_initsOf {b : MsgqBuffer} {x : MsgqInit} :
    x ∈ c.initsOf b ↔
      ∃ s < c.messageSizeSteps.toNat, c.msgqInit (BitVec.ofNat 32 s) b = x := by
  rw [initsOf_eq, List.mem_map]
  simp only [List.mem_range]

/-- With the sizes of the test, the calls are those that its `I_Task` makes. -/
theorem initStep_calls {B : Bmth} {cfg : Config}
    (hmin : c.messageSizeMin.toNat = Itc.messageSizeMin)
    (hmax : c.msgqMaxMsgs.toNat = Itc.msgqMaxMsgs) :
    ∃ pass, Itc.initMsgqs (B := B) cfg 0 = .forUp 0 (fun s => s < cfg.messageSizeSteps) pass ∧
      ∀ s < c.messageSizeSteps.toNat,
        pass s = (c.initStep (BitVec.ofNat 32 s)).map fun x => kcall x.call := by
  refine ⟨_, rfl, fun s hs => ?_⟩
  have hsize : (c.messageSize (BitVec.ofNat 32 s)).eval.toNat = Itc.messageSize s := by
    rw [(is_messageSize hs).eval, hmin, Itc.messageSize, Nat.shiftLeft_eq]
  simp [initStep, msgqInit, MsgqInit.call, MsgqBuffer.queue, hsize, hmax, step_toNat hs]

theorem initsOf_sizes (c : MsgqSizes) (b : MsgqBuffer) :
    (c.initsOf b).map (fun x => (x.msgq, x.msgSize.toNat, x.maxMsgs)) =
      (List.range c.messageSizeSteps.toNat).map fun s =>
        (b.queue s, c.messageSizeMin.toNat * 2 ^ s, c.msgqMaxMsgs) := by
  rw [initsOf_eq, List.map_map]
  refine List.map_congr_left ?_
  intro s hs
  have hs := List.mem_range.mp hs
  show (b.queue (BitVec.ofNat 32 s).toNat, (c.messageSize (BitVec.ofNat 32 s)).eval.toNat,
    c.msgqMaxMsgs) = _
  rw [step_toNat hs, (is_messageSize hs).eval]

/-- A later step lies below. -/
theorem slices_disjoint (c : MsgqSizes) (b : MsgqBuffer) :
    (c.initsOf b).Pairwise fun x y => Disjoint x.slice y.slice := by
  rw [initsOf_eq, List.pairwise_map]
  refine List.pairwise_lt_range.imp_of_mem ?_
  intro s t hs ht hlt
  rw [slice_eq (List.mem_range.mp hs), slice_eq (List.mem_range.mp ht), Set.disjoint_left]
  rintro i ⟨hle, -⟩ ⟨-, hi⟩
  have hbelow : descending c.unit c.messageSizeSteps.toNat t ≤
      descending c.unit c.messageSizeSteps.toNat (s + 1) := descending_antitone hlt
  omega

theorem slices_cover (c : MsgqSizes) (b : MsgqBuffer) (i : Nat) :
    (∃ x ∈ c.initsOf b, i ∈ x.slice) ↔ i < c.msgqBufferSize.eval.toNat := by
  have hcover := mem_descending_iff (u := c.unit) (S := c.messageSizeSteps.toNat)
    (k := c.messageSizeSteps.toNat) (i := i)
  rw [descending_self, ← size_eq] at hcover
  constructor
  · rintro ⟨x, hx, hi⟩
    obtain ⟨s, hs, rfl⟩ := mem_initsOf.mp hx
    rw [slice_eq hs] at hi
    exact (hcover.mp ⟨s, hs, hi⟩).2
  · intro hi
    obtain ⟨s, hs, hslice⟩ := hcover.mpr ⟨Nat.zero_le i, hi⟩
    refine ⟨_, mem_initsOf.mpr ⟨s, hs, rfl⟩, ?_⟩
    rw [slice_eq hs]
    exact hslice

theorem slice_end_le {b : MsgqBuffer} {x : MsgqInit} (hx : x ∈ c.initsOf b) :
    x.offset.toNat + x.msgSize.toNat * x.maxMsgs.toNat ≤ c.msgqBufferSize.eval.toNat := by
  obtain ⟨s, hs, rfl⟩ := mem_initsOf.mp hx
  have hend : descending c.unit c.messageSizeSteps.toNat s ≤
      descending c.unit c.messageSizeSteps.toNat 0 := descending_antitone (Nat.zero_le s)
  rw [size_eq, slice_end hs b]
  exact hend

/-- The slices of an array that `I_Task` hands to `k_msgq_init()`, one for every
step, are disjoint, cover the array and end in it, and each begins at a multiple
of its message size. No expression that computes them wraps. With the sizes of
the test, the calls that hand them out are the passes of the loop in `I_Task`. -/
theorem msgq_slices (c : MsgqSizes) (b : MsgqBuffer) :
    (c.initsOf b).map (fun x => (x.msgq, x.msgSize.toNat, x.maxMsgs)) =
        (List.range c.messageSizeSteps.toNat).map (fun s =>
          (b.queue s, c.messageSizeMin.toNat * 2 ^ s, c.msgqMaxMsgs)) ∧
      (c.initsOf b).Pairwise (fun x y => Disjoint x.slice y.slice) ∧
      (∀ i, (∃ x ∈ c.initsOf b, i ∈ x.slice) ↔ i < c.msgqBufferSize.eval.toNat) ∧
      (∀ x ∈ c.initsOf b,
        x.offset.toNat + x.msgSize.toNat * x.maxMsgs.toNat ≤ c.msgqBufferSize.eval.toNat ∧
          x.msgSize.toNat ∣ x.offset.toNat) ∧
      c.msgqBufferSize.NoWrap ∧
      (∀ s < c.messageSizeSteps.toNat, (c.msgqBufferOffset (BitVec.ofNat 32 s)).NoWrap ∧
        (c.messageSize (BitVec.ofNat 32 s)).NoWrap) ∧
      ∀ (B : Bmth) (cfg : Config), c.messageSizeMin.toNat = Itc.messageSizeMin →
        c.msgqMaxMsgs.toNat = Itc.msgqMaxMsgs →
        ∃ pass, Itc.initMsgqs (B := B) cfg 0 = .forUp 0 (fun s => s < cfg.messageSizeSteps) pass ∧
          ∀ s < c.messageSizeSteps.toNat,
            pass s = (c.initStep (BitVec.ofNat 32 s)).map fun x => kcall x.call := by
  refine ⟨initsOf_sizes c b, slices_disjoint c b, slices_cover c b, ?_,
    is_msgqBufferSize.noWrap, ?_, fun _ _ hmin hmax => initStep_calls hmin hmax⟩
  · intro x hx
    refine ⟨slice_end_le hx, ?_⟩
    obtain ⟨s, hs, rfl⟩ := mem_initsOf.mp hx
    exact msgSize_dvd_offset hs
  · intro s hs
    exact ⟨(is_msgqBufferOffset hs).noWrap, (is_messageSize hs).noWrap⟩

end MsgqSizes

/-- The parameters of `msgq.c`. -/
def msgqSizes : MsgqSizes where
  messageSizeMin := 4
  messageSizeSteps := 9
  msgqMaxMsgs := 1
  one_le_messageSizeMin := by decide
  one_le_messageSizeSteps := by decide
  one_le_msgqMaxMsgs := by decide
  messageSizeSteps_lt := by decide
  buffer_lt := by decide

example : (msgqSizes.initsOf .self).map (fun x => x.offset.toNat) =
    [2040, 2032, 2016, 1984, 1920, 1792, 1536, 1024, 0] := by decide

end ZephyrBench.Itc

/-
ZephyrBench.Mem.AdaptersTheorems — the two adapters of one piece size agree.

`slab_blocks_agree`: after every list of calls that begins with a create, the
slab and the pools have granted and refused the same requests, have as many
pieces out, and report the same arena and the same space beyond the fixed one.

Both follow `Cut`, so nothing is compared directly (`agree`): the answers of
either adapter are those of `Cut`, and what a caller sees of it is determined by
the step and the number of pieces out (`Serves`). Which pieces are handed out may
differ, and the statement says nothing about them.

The first call has to be a create: before it the slab is a zeroed object, while
the pools are laid out at compile time. `slab_blocks_uncreated` is a run without
one in which the two differ.
-/
import ZephyrBench.Mem.MemBlocksTheorems
import ZephyrBench.Mem.MemSlabTheorems
import ZephyrBench.Mem.Kernels

namespace ZephyrBench.Mem

variable {σ τ : Type} {h : Harness}

/-- What a caller that has the arena cut at step `x` sees of an adapter. -/
structure Serves (h : Harness) (A : Adapter σ) (x : SweepStep) (c : Client σ) : Prop where
  arenaBytes : A.arenaBytes c.store = h.memArenaSize
  fixedBytes_le : A.fixedBytes c.store ≤ A.usedBytes c.store
  alloc_null_iff : ∀ bytes, (A.alloc bytes c.store).1 = none ↔ c.live.length = h.pieces x
  fill : ∀ (y : SweepStep) (sizes : List Nat),
    (answers A.exec c (.createArena y :: sizes.map .alloc)).1 =
      .done :: (List.replicate (min sizes.length (h.pieces y)) .granted ++
        List.replicate (sizes.length - h.pieces y) .refused)

/-- Two adapters after the same calls, each with the answers it gave. -/
structure Agree (h : Harness) (A : Adapter σ) (B : Adapter τ) (x : SweepStep)
    (a : List Reply × Client σ) (b : List Reply × Client τ) : Prop where
  replies : a.1 = b.1
  usedBytes : A.usedBytes a.2.store - A.fixedBytes a.2.store =
    B.usedBytes b.2.store - B.fixedBytes b.2.store
  live : a.2.live.length = b.2.live.length
  fst : Serves h A x a.2
  snd : Serves h B x b.2

namespace FixedSize

variable {A : Adapter σ} {W : σ → Prop} {I : SweepStep → σ → List Nat → Prop}
variable {B : Adapter τ} {V : τ → Prop} {J : SweepStep → τ → List Nat → Prop}

theorem serves (F : FixedSize h A W I) {x : SweepStep} {c : Client σ} (hc : I x c.store c.live) :
    Serves h A x c where
  arenaBytes := F.arenaBytes hc
  fixedBytes_le := by
    rw [F.usedBytes hc]
    exact Nat.le_add_right _ _
  alloc_null_iff := by
    intro bytes
    constructor
    · intro hnone
      by_contra hne
      obtain ⟨a, ha, -⟩ := F.granted hc (Nat.lt_of_le_of_ne (F.length_le hc) hne) bytes
      rw [hnone] at ha
      exact absurd ha (by simp)
    · intro hfull
      exact (F.refused hc (Nat.le_of_eq hfull.symm) bytes).1
  fill := by
    intro y sizes
    rw [(F.answers_follow c (F.weaken hc) y _).1]
    have hcut := Cut.answers_allocs h ⟨y, 0⟩ sizes (Nat.zero_le _)
    rw [hcut]
    rfl

/-- Two adapters for pieces of one size agree after every list of calls that
begins with a create. -/
theorem agree (F : FixedSize h A W I) (G : FixedSize h B V J) (a : Client σ) (b : Client τ)
    (ha : W a.store) (hb : V b.store) (x : SweepStep) (calls : List Call) :
    Agree h A B (calls.foldl Call.stepAfter x) (answers A.exec a (.createArena x :: calls))
      (answers B.exec b (.createArena x :: calls)) := by
  obtain ⟨hrepliesA, hA, hlenA⟩ := F.answers_follow a ha x calls
  obtain ⟨hrepliesB, hB, hlenB⟩ := G.answers_follow b hb x calls
  rw [Cut.answers_step] at hA hB
  constructor
  case replies => rw [hrepliesA, hrepliesB]
  case usedBytes =>
    rw [F.usedBytes hA, G.usedBytes hB, hlenA, hlenB, Nat.add_sub_cancel_left,
      Nat.add_sub_cancel_left]
  case live => rw [hlenA, hlenB]
  case fst => exact F.serves hA
  case snd => exact G.serves hB

end FixedSize

/-- **The slab and the pools agree**: after every list of calls that begins
with a create they have granted and refused the same requests, report the same
arena and the same space in use, and serve as many pieces as the arena holds. -/
theorem slab_blocks_agree (slab : MemSlabImage h) (blocks : MemBlocksImage h)
    (slabApi : KMemSlabApi) (blocksApi : SysMemBlocksApi) (x : SweepStep) (calls : List Call) :
    Agree h (MemSlab.adapter slab slabApi) (MemBlocks.adapter blocks blocksApi)
      (calls.foldl Call.stepAfter x)
      (answers (MemSlab.adapter slab slabApi).exec ⟨MemSlab.initial, []⟩ (.createArena x :: calls))
      (answers (MemBlocks.adapter blocks blocksApi).exec ⟨MemBlocks.initial blocks, []⟩
        (.createArena x :: calls)) :=
  (MemSlab.fixedSize slabApi slab).agree (MemBlocks.fixedSize blocksApi blocks) _ _ trivial
    (MemBlocks.wellFormed_initial blocks) x calls

/-! ## Before the first create -/

/-- An arena of 1 KiB. -/
def smallHarness : Harness where
  memArenaSize := 1024
  powerOfTwo := rfl
  large := le_refl _
  word := by decide

def smallSlab : MemSlabImage smallHarness where
  arena := 0x20000000
  aligned := ⟨0x800000, rfl⟩
  sizeofKMemSlab := 28
  fits := by decide

def smallBlocks : MemBlocksImage smallHarness where
  arena := 0x20001000
  sizeofSysMemBlocks := 16
  sizeofSysBitarray := 16
  fits := by decide

-- The arena holds one piece of the largest step.
example : (answers (MemBlocks.adapter smallBlocks firstFit).exec
    ⟨MemBlocks.initial smallBlocks, []⟩
    [.createArena ⟨10, by decide, by decide⟩, .alloc 1, .alloc 1]).1 =
      [.done, .granted, .refused] := by
  decide +kernel

/-- Without a create the adapters differ: after a call of
`mem_allocator_destroy_arena()` the slab reports an arena of no bytes. -/
theorem slab_blocks_uncreated :
    ¬ ∀ (x : SweepStep) (calls : List Call),
      Agree smallHarness (MemSlab.adapter smallSlab lastFreed)
        (MemBlocks.adapter smallBlocks firstFit) (calls.foldl Call.stepAfter x)
        (answers (MemSlab.adapter smallSlab lastFreed).exec ⟨MemSlab.initial, []⟩ calls)
        (answers (MemBlocks.adapter smallBlocks firstFit).exec
          ⟨MemBlocks.initial smallBlocks, []⟩ calls) := by
  intro hall
  have hzero := (hall ⟨3, by decide, by decide⟩ [.destroyArena]).fst.arenaBytes
  exact absurd hzero (by decide)

end ZephyrBench.Mem

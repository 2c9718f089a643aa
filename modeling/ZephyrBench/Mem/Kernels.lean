/-
ZephyrBench.Mem.Kernels — pool and slab functions that keep their contracts.

The adapters of `sys_mem_blocks` and `k_mem_slab` take the kernel's functions as
a parameter with laws (`SysMemBlocksApi`, `KMemSlabApi`). Here is one instance of
each, so the laws can be kept, and runs of the adapters can be evaluated:

  * `firstFit` takes the lowest clear bits of a bitmap.
  * `lastFreed` keeps the free list of a slab as a stack.

Each law is a lemma of its own. The bitmap is an array of words, so the first
section relates the single bits of such an array to its words.
-/
import ZephyrBench.Mem.MemBlocks
import ZephyrBench.Mem.MemSlab

namespace ZephyrBench.Mem

/-! ## 1. Bits of bundles -/

section Bundles

variable {n : Nat} (v : Vector (BitVec 32) n) {i : Nat} (j : Nat)

def setBundleBit (i : Nat) : Vector (BitVec 32) n :=
  v.setIfInBounds (i / 32) (v[i / 32]?.getD 0 ||| BitVec.twoPow 32 (i % 32))

def clearBundleBit (i : Nat) : Vector (BitVec 32) n :=
  v.setIfInBounds (i / 32) (v[i / 32]?.getD 0 &&& ~~~ BitVec.twoPow 32 (i % 32))

theorem bundleBit_setBundleBit (hi : i < 32 * n) :
    bundleBit (setBundleBit v i) j = (bundleBit v j || decide (j = i)) := by
  have hword : i / 32 < n := by omega
  have hbit : i % 32 < 32 := Nat.mod_lt _ (by decide)
  unfold bundleBit setBundleBit
  rw [Vector.getElem?_setIfInBounds]
  by_cases hj : i / 32 = j / 32
  · have hiff : i % 32 = j % 32 ↔ j = i := by omega
    simp [hj, hbit, hiff, hj ▸ hword]
  · have hne : j ≠ i := by rintro rfl; exact hj rfl
    simp [hj, hne]

theorem bundleBit_clearBundleBit (hi : i < 32 * n) :
    bundleBit (clearBundleBit v i) j = (bundleBit v j && decide (j ≠ i)) := by
  have hword : i / 32 < n := by omega
  have hbit : j % 32 < 32 := Nat.mod_lt _ (by decide)
  unfold bundleBit clearBundleBit
  rw [Vector.getElem?_setIfInBounds]
  by_cases hj : i / 32 = j / 32
  · have hiff : j % 32 = i % 32 ↔ j = i := by omega
    simp [hj, hbit, hiff, hj ▸ hword]
  · have hne : j ≠ i := by rintro rfl; exact hj rfl
    simp [hj, hne]

theorem bundleBit_foldl_set (is : List Nat) (his : ∀ i ∈ is, i < 32 * n) :
    bundleBit (is.foldl setBundleBit v) j = (bundleBit v j || decide (j ∈ is)) := by
  induction is generalizing v with
  | nil => simp
  | cons i is ih =>
    rw [List.foldl_cons, ih _ fun k hk => his k (List.mem_cons_of_mem _ hk),
      bundleBit_setBundleBit v j (his i List.mem_cons_self)]
    simp [Bool.or_assoc]

end Bundles

/-! ## 2. First fit -/

/-- The clear bits of a pool, in ascending order. -/
def SysMemBlocks.untaken (p : SysMemBlocks) : List Nat :=
  occupied (fun i => !p.bit i) p.info.numBlocks

theorem SysMemBlocks.length_untaken (p : SysMemBlocks) :
    p.taken.length + p.untaken.length = p.info.numBlocks := by
  have h := List.length_eq_length_filter_add (l := List.range p.info.numBlocks) p.bit
  rw [List.length_range] at h
  exact h.symm

theorem SysMemBlocks.lt_bundles (p : SysMemBlocks) {i : Nat} (hi : i < p.info.numBlocks) :
    i < 32 * p.bitmap.numBundles :=
  Nat.lt_of_lt_of_le hi (p.covered.trans p.stored)

/-- The pieces that a first-fit allocation takes. -/
def SysMemBlocks.firstFit (p : SysMemBlocks) (count : Nat) : List Nat := p.untaken.take count

theorem SysMemBlocks.mem_firstFit {p : SysMemBlocks} {count i : Nat} (hi : i ∈ p.firstFit count) :
    i < p.info.numBlocks ∧ p.bit i = false := by
  have := mem_occupied.mp (List.mem_of_mem_take hi)
  simpa using this

def firstFitAlloc (p : SysMemBlocks) (count : Nat) (out : Vector Ptr count) :
    Int × Vector (BitVec 32) p.bitmap.numBundles × Vector Ptr count :=
  if hlen : (p.firstFit count).length = count then
    (0, (p.firstFit count).foldl setBundleBit p.bitmap.bundles,
      Vector.ofFn fun k => some (p.block ((p.firstFit count).get (k.cast hlen.symm))))
  else (-12, p.bitmap.bundles, out)

def firstFitFree (p : SysMemBlocks) (_count : Nat) (blocks : Vector Ptr _count) :
    Int × Vector (BitVec 32) p.bitmap.numBundles :=
  (0, blocks.toList.reduceOption.foldl
    (fun v a => clearBundleBit v ((a - p.buffer) >>> p.info.blkSzShift)) p.bitmap.bundles)

def popcountRegion (b : SysBitarray) (numBits offset count : Nat) : Int × Nat :=
  if numBits = 0 ∨ b.numBits < offset + numBits then (-22, count)
  else (0, (occupied (fun i => bundleBit b.bundles (offset + i)) numBits).length)

theorem firstFitAlloc_granted (p : SysMemBlocks) (count : Nat) (out : Vector Ptr count)
    (hroom : count + p.taken.length ≤ p.info.numBlocks) :
    (firstFitAlloc p count out).1 = 0 ∧
      Takes p (firstFitAlloc p count out).2.1 (firstFitAlloc p count out).2.2.toList := by
  have hcount := p.length_untaken
  have hlen : (p.firstFit count).length = count := by
    unfold SysMemBlocks.firstFit
    rw [List.length_take]
    omega
  unfold firstFitAlloc
  rw [dif_pos hlen]
  refine ⟨rfl, p.firstFit count, nodup_occupied.sublist (List.take_sublist _ _),
    fun i => SysMemBlocks.mem_firstFit, ?_, ?_⟩
  · intro j
    exact bundleBit_foldl_set _ j _ fun i hi => p.lt_bundles (SysMemBlocks.mem_firstFit hi).1
  · apply List.ext_getElem
    · simp [hlen]
    · intro k hk _
      simp

theorem firstFitAlloc_error (p : SysMemBlocks) (count : Nat) (out : Vector Ptr count)
    (hfull : p.info.numBlocks < count + p.taken.length) :
    firstFitAlloc p count out = (-12, p.bitmap.bundles, out) := by
  have hcount := p.length_untaken
  have hlen : (p.firstFit count).length ≠ count := by
    unfold SysMemBlocks.firstFit
    rw [List.length_take]
    omega
  exact dif_neg hlen

theorem firstFitAlloc_refused (p : SysMemBlocks) (count : Nat) (out : Vector Ptr count)
    (hfull : p.info.numBlocks < count + p.taken.length) :
    (firstFitAlloc p count out).1 ≠ 0 ∧ (firstFitAlloc p count out).2.1 = p.bitmap.bundles := by
  rw [firstFitAlloc_error p count out hfull]
  simp

theorem firstFitAlloc_refused_one (p : SysMemBlocks) (out : Vector Ptr 1)
    (hfull : p.info.numBlocks ≤ p.taken.length) : (firstFitAlloc p 1 out).2.2 = out := by
  rw [firstFitAlloc_error p 1 out (by omega)]

theorem firstFitFree_taken (p : SysMemBlocks) (i : Nat) (hi : i < p.info.numBlocks)
    (_ : p.bit i = true) (j : Nat) :
    bundleBit (firstFitFree p 1 #v[some (p.block i)]).2 j = (p.bit j && decide (j ≠ i)) := by
  have hindex : (p.block i - p.buffer) >>> p.info.blkSzShift = i := by
    unfold SysMemBlocks.block
    rw [Nat.add_sub_cancel_left, Nat.shiftLeft_shiftRight]
  change bundleBit (clearBundleBit p.bitmap.bundles
    ((p.block i - p.buffer) >>> p.info.blkSzShift)) j = _
  rw [hindex, bundleBit_clearBundleBit _ j (p.lt_bundles hi)]
  rfl

theorem popcountRegion_inside (b : SysBitarray) (numBits count : Nat) (hpos : 0 < numBits)
    (hle : numBits ≤ b.numBits) :
    popcountRegion b numBits 0 count = (0, (occupied (bundleBit b.bundles) numBits).length) := by
  unfold popcountRegion
  rw [if_neg (by omega)]
  simp only [Nat.zero_add]

def firstFit : SysMemBlocksApi where
  sysMemBlocksAlloc := firstFitAlloc
  sysMemBlocksFree := firstFitFree
  sysBitarrayPopcountRegion := popcountRegion
  alloc_granted := firstFitAlloc_granted
  alloc_refused := firstFitAlloc_refused
  alloc_refused_one := firstFitAlloc_refused_one
  free_taken := firstFitFree_taken
  popcountRegion_inside := popcountRegion_inside

/-! ## 3. Last freed, first taken -/

def lastFreedInit (_slab : KMemSlab) (buffer blockSize numBlocks : Nat) : Int × KMemSlab :=
  (0, { info := ⟨numBlocks, blockSize, 0⟩
        buffer := buffer
        freeList := (List.range numBlocks).map (pieceAt buffer blockSize) })

def lastFreedAlloc (slab : KMemSlab) (_mem : Ptr) (_timeout : Nat) : Int × KMemSlab × Ptr :=
  match slab.freeList with
  | [] => (-12, slab, none)
  | a :: rest =>
    (0, { slab with
          info := { slab.info with numUsed := slab.info.numUsed + 1 }
          freeList := rest }, some a)

def lastFreedFree (slab : KMemSlab) (mem : Ptr) : KMemSlab :=
  { slab with
    info := { slab.info with numUsed := slab.info.numUsed - 1 }
    freeList := mem.toList ++ slab.freeList }

theorem lastFreedInit_aligned (slab : KMemSlab) (buffer blockSize numBlocks : Nat)
    (_ : sizeofPtr ∣ buffer) (_ : sizeofPtr ∣ blockSize) :
    (lastFreedInit slab buffer blockSize numBlocks).2.info = ⟨numBlocks, blockSize, 0⟩ ∧
      (lastFreedInit slab buffer blockSize numBlocks).2.freeList.Perm
        ((List.range numBlocks).map (pieceAt buffer blockSize)) :=
  ⟨rfl, .refl _⟩

theorem lastFreedFree_used (slab : KMemSlab) (a : Nat) :
    (lastFreedFree slab (some a)).info = { slab.info with numUsed := slab.info.numUsed - 1 } ∧
      (lastFreedFree slab (some a)).freeList.Perm (a :: slab.freeList) :=
  ⟨rfl, .refl _⟩

theorem lastFreedAlloc_granted (slab : KMemSlab) (mem : Ptr) (hne : slab.freeList ≠ []) :
    ∃ a, (lastFreedAlloc slab mem kNoWait).2.2 = some a ∧
      (lastFreedAlloc slab mem kNoWait).2.1.info =
        { slab.info with numUsed := slab.info.numUsed + 1 } ∧
      slab.freeList.Perm (a :: (lastFreedAlloc slab mem kNoWait).2.1.freeList) := by
  obtain ⟨a, rest, hcons⟩ := List.exists_cons_of_ne_nil hne
  refine ⟨a, ?_⟩
  unfold lastFreedAlloc
  rw [hcons]
  exact ⟨rfl, rfl, .refl _⟩

theorem lastFreedAlloc_refused (slab : KMemSlab) (hnil : slab.freeList = []) :
    (lastFreedAlloc slab none kNoWait).2.2 = none ∧
      (lastFreedAlloc slab none kNoWait).2.1 = slab := by
  unfold lastFreedAlloc
  rw [hnil]
  exact ⟨rfl, rfl⟩

def lastFreed : KMemSlabApi where
  kMemSlabInit := lastFreedInit
  kMemSlabAlloc := lastFreedAlloc
  kMemSlabFree := lastFreedFree
  init_aligned := lastFreedInit_aligned
  alloc_granted := lastFreedAlloc_granted
  alloc_refused := lastFreedAlloc_refused
  free_used := lastFreedFree_used

end ZephyrBench.Mem

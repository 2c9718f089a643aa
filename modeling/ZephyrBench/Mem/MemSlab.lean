/-
ZephyrBench.Mem.MemSlab — the adapter of `k_mem_slab`.

There is one slab, laid out anew at each step of the sweep. The slab functions of
the kernel are a parameter, as the pool functions are in `Mem.MemBlocks`:
`KMemSlabApi` holds what their documentation says of a call that does not wait.

The laws of a free do not ask which address is handed back. A caller of the
adapter frees what it was given, so it is one of the slab. `MemSlabImage` carries
the alignment that the buffer is declared with, since the law of
`k_mem_slab_init()` is about a buffer and pieces that are word aligned.
-/
import ZephyrBench.Mem.Allocator

namespace ZephyrBench.Mem

/-! ## 1. struct k_mem_slab -/

/-- `struct k_mem_slab_info` -/
structure KMemSlabInfo where
  numBlocks : Nat
  blockSize : Nat
  numUsed : Nat

/-- `struct k_mem_slab`. The free list is threaded through the free pieces;
here it is the list of their addresses. -/
structure KMemSlab where
  info : KMemSlabInfo
  buffer : Nat
  freeList : List Nat

/-- `sizeof(void *)` -/
def sizeofPtr : Nat := 4

/-- The ticks of `K_NO_WAIT`. -/
def kNoWait : Nat := 0

/-- The slab functions. -/
structure KMemSlabApi where
  kMemSlabInit (slab : KMemSlab) (buffer blockSize numBlocks : Nat) : Int × KMemSlab
  kMemSlabAlloc (slab : KMemSlab) (mem : Ptr) (timeout : Nat) : Int × KMemSlab × Ptr
  kMemSlabFree (slab : KMemSlab) (mem : Ptr) : KMemSlab
  init_aligned : ∀ slab buffer blockSize numBlocks, sizeofPtr ∣ buffer → sizeofPtr ∣ blockSize →
    (kMemSlabInit slab buffer blockSize numBlocks).2.info = ⟨numBlocks, blockSize, 0⟩ ∧
      (kMemSlabInit slab buffer blockSize numBlocks).2.freeList.Perm
        ((List.range numBlocks).map (pieceAt buffer blockSize))
  alloc_granted : ∀ slab mem, slab.freeList ≠ [] →
    ∃ a, (kMemSlabAlloc slab mem kNoWait).2.2 = some a ∧
      (kMemSlabAlloc slab mem kNoWait).2.1.info =
        { slab.info with numUsed := slab.info.numUsed + 1 } ∧
      slab.freeList.Perm (a :: (kMemSlabAlloc slab mem kNoWait).2.1.freeList)
  alloc_refused : ∀ slab, slab.freeList = [] →
    (kMemSlabAlloc slab none kNoWait).2.2 = none ∧ (kMemSlabAlloc slab none kNoWait).2.1 = slab
  free_used : ∀ slab a,
    (kMemSlabFree slab (some a)).info = { slab.info with numUsed := slab.info.numUsed - 1 } ∧
      (kMemSlabFree slab (some a)).freeList.Perm (a :: slab.freeList)

/-! ## 2. mem_slab.c -/

/-- The smallest request is word aligned. -/
theorem memSMin_aligned : memSizeOfS memSMin % sizeofPtr = 0 := rfl

/-- `MS_PIECES(granularity)` -/
def msPieces (h : Harness) (granularity : Nat) : Nat :=
  sizeT (h.memArenaSize >>> builtinCtz (BitVec.ofNat 32 granularity))

/-- Where the image puts `arena`, and the size of `test_slab` beside it. -/
structure MemSlabImage (h : Harness) where
  arena : Nat
  aligned : 64 ∣ arena
  sizeofKMemSlab : Nat
  fits : h.memArenaSize + sizeofKMemSlab < 2 ^ 32

namespace MemSlab

variable {h : Harness} (image : MemSlabImage h) (api : KMemSlabApi)

/-- `test_slab` before the first call: a static variable without initialiser. -/
def initial : KMemSlab where
  info := ⟨0, 0, 0⟩
  buffer := 0
  freeList := []

/-- `mem_allocator_create_arena()` -/
def memAllocatorCreateArena (granularity : Nat) (testSlab : KMemSlab) : KMemSlab :=
  (api.kMemSlabInit testSlab image.arena granularity (msPieces h granularity)).2

/-- `mem_allocator_destroy_arena()` -/
def memAllocatorDestroyArena (testSlab : KMemSlab) : KMemSlab := testSlab

/-- `mem_allocator_trim_store()` -/
def memAllocatorTrimStore (testSlab : KMemSlab) : KMemSlab := testSlab

/-- `mem_allocator_alloc()`: the error is discarded. -/
def memAllocatorAlloc (_bytes : Nat) (testSlab : KMemSlab) : Ptr × KMemSlab :=
  let allocation : Ptr := none
  let result := api.kMemSlabAlloc testSlab allocation kNoWait
  (result.2.2, result.2.1)

/-- `mem_allocator_free()` -/
def memAllocatorFree (allocation : Ptr) (testSlab : KMemSlab) : KMemSlab :=
  api.kMemSlabFree testSlab allocation

/-- `mem_allocator_create_is_native()` -/
def memAllocatorCreateIsNative : Bool := true

/-- `mem_allocator_arena_bytes()` -/
def memAllocatorArenaBytes (testSlab : KMemSlab) : Nat :=
  sizeT (testSlab.info.numBlocks * testSlab.info.blockSize)

/-- `mem_allocator_fixed_bytes()` -/
def memAllocatorFixedBytes (_testSlab : KMemSlab) : Nat := sizeT image.sizeofKMemSlab

/-- `mem_allocator_used_bytes()` -/
def memAllocatorUsedBytes (testSlab : KMemSlab) : Nat :=
  sizeT (testSlab.info.numUsed * testSlab.info.blockSize + memAllocatorFixedBytes image testSlab)

/-- `mem_allocator_is_fixed_size()` -/
def memAllocatorIsFixedSize : Bool := true

/-- `mem_allocator_supports_alloc_n()` -/
def memAllocatorSupportsAllocN : Bool := false

/-- `mem_allocator_alloc_n()`: not supported. -/
def memAllocatorAllocN (count : Nat) (allocations : Vector Ptr count) (testSlab : KMemSlab) :
    Bool × Vector Ptr count × KMemSlab :=
  (false, allocations, testSlab)

/-- The adapter. -/
def adapter : Adapter KMemSlab where
  createArena := memAllocatorCreateArena image api
  destroyArena := memAllocatorDestroyArena
  trimStore := memAllocatorTrimStore
  alloc := memAllocatorAlloc api
  allocN := memAllocatorAllocN
  free := memAllocatorFree api
  arenaBytes := memAllocatorArenaBytes
  usedBytes := memAllocatorUsedBytes image
  fixedBytes := memAllocatorFixedBytes image
  createIsNative := memAllocatorCreateIsNative
  isFixedSize := memAllocatorIsFixedSize
  supportsAllocN := memAllocatorSupportsAllocN

end MemSlab

end ZephyrBench.Mem

/-
ZephyrBench.Mem.MemBlocks — the adapter of `sys_mem_blocks`.

One pool per step of the sweep is declared at compile time, and all of them share
the buffer `arena`. `test_live` points to the pool the arena is currently cut
into. The pool functions of the kernel are a parameter: `SysMemBlocksApi` holds
what their documentation says about a pool, whichever pieces they choose.

The functions return what they write, the bundles of the bitmap and the array of
the caller, and not a new pool. So no law has to say that the rest of a pool
stays as it is, and the adapter stores the bundles back into the pool that
`test_live` points to.

A create does not initialise the pool, which the macro has done: it clears its
bitmap word by word, in a loop that the model keeps (`clearBundles`). The batch
call is part of the adapter, with the array that it is given to fill.
-/
import ZephyrBench.Mem.Allocator

namespace ZephyrBench.Mem

/-! ## 1. sys_bitarray_t and sys_mem_blocks_t -/

/-- `sys_bitarray_t` -/
structure SysBitarray where
  numBits : Nat
  numBundles : Nat
  bundles : Vector (BitVec 32) numBundles

/-- Bit `i` of an array of bundles. -/
def bundleBit {n : Nat} (bundles : Vector (BitVec 32) n) (i : Nat) : Bool :=
  (bundles[i / 32]?.getD 0).getLsbD (i % 32)

/-- `sys_mem_blocks_info` -/
structure SysMemBlocksInfo where
  numBlocks : Nat
  blkSzShift : Nat

/-- `sys_mem_blocks_t`, with a bit of the bitmap for every piece. -/
structure SysMemBlocks where
  info : SysMemBlocksInfo
  buffer : Nat
  bitmap : SysBitarray
  covered : info.numBlocks ≤ bitmap.numBits
  stored : bitmap.numBits ≤ 32 * bitmap.numBundles

namespace SysMemBlocks

variable (p : SysMemBlocks)

/-- Piece `i` is handed out. -/
def bit (i : Nat) : Bool := bundleBit p.bitmap.bundles i

/-- The address of piece `i`. -/
def block (i : Nat) : Nat := p.buffer + (i <<< p.info.blkSzShift)

/-- The indices of the pieces handed out. -/
def taken : List Nat := occupied p.bit p.info.numBlocks

/-- The pool with new contents of its bitmap. -/
def setBundles (bundles : Vector (BitVec 32) p.bitmap.numBundles) : SysMemBlocks :=
  { p with bitmap := { p.bitmap with bundles := bundles } }

variable (bundles : Vector (BitVec 32) p.bitmap.numBundles)

@[simp] theorem setBundles_info : (p.setBundles bundles).info = p.info := rfl

@[simp] theorem setBundles_buffer : (p.setBundles bundles).buffer = p.buffer := rfl

@[simp] theorem setBundles_numBits : (p.setBundles bundles).bitmap.numBits = p.bitmap.numBits :=
  rfl

@[simp] theorem setBundles_numBundles :
    (p.setBundles bundles).bitmap.numBundles = p.bitmap.numBundles := rfl

@[simp] theorem setBundles_bit : (p.setBundles bundles).bit = bundleBit bundles := rfl

@[simp] theorem setBundles_block : (p.setBundles bundles).block = p.block := rfl

end SysMemBlocks

/-- The words of a bit array of `numBits` bits. -/
def bundlesFor (numBits : Nat) : Nat := ((numBits + 7) / 8 + 3) / 4

theorem le_bundlesFor (numBits : Nat) : numBits ≤ 32 * bundlesFor numBits := by
  unfold bundlesFor
  omega

theorem bundlesFor_mono {m n : Nat} (h : m ≤ n) : bundlesFor m ≤ bundlesFor n := by
  unfold bundlesFor
  omega

/-- `SYS_MEM_BLOCKS_DEFINE_STATIC_WITH_EXT_BUF()` -/
def defineStaticWithExtBuf (blkSz numBlks buf : Nat) : SysMemBlocks where
  info := { numBlocks := numBlks, blkSzShift := blkSz.log2 }
  buffer := buf
  bitmap := { numBits := numBlks, numBundles := bundlesFor numBlks, bundles := .replicate _ 0 }
  covered := Nat.le_refl numBlks
  stored := le_bundlesFor numBlks

/-! ## 2. The pool functions of the kernel -/

/-- What an allocation that is granted does: it sets clear bits below
`num_blocks` and writes the addresses of their pieces. -/
def Takes (p : SysMemBlocks) (bundles : Vector (BitVec 32) p.bitmap.numBundles)
    (out : List Ptr) : Prop :=
  ∃ blocks : List Nat, blocks.Nodup ∧
    (∀ i ∈ blocks, i < p.info.numBlocks ∧ p.bit i = false) ∧
    (∀ j, bundleBit bundles j = (p.bit j || decide (j ∈ blocks))) ∧
    out = blocks.map fun i => some (p.block i)

/-- The pool functions, which change nothing of a pool but its bundles. -/
structure SysMemBlocksApi where
  sysMemBlocksAlloc (p : SysMemBlocks) (count : Nat) (out : Vector Ptr count) :
    Int × Vector (BitVec 32) p.bitmap.numBundles × Vector Ptr count
  sysMemBlocksFree (p : SysMemBlocks) (count : Nat) (blocks : Vector Ptr count) :
    Int × Vector (BitVec 32) p.bitmap.numBundles
  sysBitarrayPopcountRegion (b : SysBitarray) (numBits offset count : Nat) : Int × Nat
  alloc_granted : ∀ p count out, count + p.taken.length ≤ p.info.numBlocks →
    (sysMemBlocksAlloc p count out).1 = 0 ∧
      Takes p (sysMemBlocksAlloc p count out).2.1 (sysMemBlocksAlloc p count out).2.2.toList
  alloc_refused : ∀ p count out, p.info.numBlocks < count + p.taken.length →
    (sysMemBlocksAlloc p count out).1 ≠ 0 ∧
      (sysMemBlocksAlloc p count out).2.1 = p.bitmap.bundles
  alloc_refused_one : ∀ p out, p.info.numBlocks ≤ p.taken.length →
    (sysMemBlocksAlloc p 1 out).2.2 = out
  free_taken : ∀ p i, i < p.info.numBlocks → p.bit i = true → ∀ j,
    bundleBit (sysMemBlocksFree p 1 #v[some (p.block i)]).2 j = (p.bit j && decide (j ≠ i))
  popcountRegion_inside : ∀ b numBits count, 0 < numBits → numBits ≤ b.numBits →
    sysBitarrayPopcountRegion b numBits 0 count =
      (0, (occupied (bundleBit b.bundles) numBits).length)

/-! ## 3. mem_blocks.c -/

/-- `MB_BLOCKS_AT(s)` -/
def mbBlocksAt (h : Harness) (s : Nat) : Nat := h.memArenaSize / (1 <<< s)

/-- `MB_STEP_OF(granularity)` -/
def mbStepOf (granularity : Nat) : Nat :=
  (BitVec.ofNat 32 (builtinCtz (BitVec.ofNat 32 granularity)) - BitVec.ofNat 32 memSMin).toNat

/-- Where the image puts `arena`, and the sizes of the objects beside it. -/
structure MemBlocksImage (h : Harness) where
  arena : Nat
  sizeofSysMemBlocks : Nat
  sizeofSysBitarray : Nat
  fits : h.memArenaSize + (sizeofSysMemBlocks + sizeofSysBitarray +
    bundlesFor (mbBlocksAt h memSMin) * 4) < 2 ^ 32

/-- The static variables: the pools of `test_pool`, and `test_live`. -/
structure MemBlocksVars where
  testPool : Vector SysMemBlocks memSCount
  testLive : Fin memSCount

namespace MemBlocks

variable {h : Harness} (image : MemBlocksImage h) (api : SysMemBlocksApi)

/-- The static variables before the first call. -/
def initial : MemBlocksVars where
  testPool := #v[
    defineStaticWithExtBuf 8 (mbBlocksAt h 3) image.arena,
    defineStaticWithExtBuf 16 (mbBlocksAt h 4) image.arena,
    defineStaticWithExtBuf 32 (mbBlocksAt h 5) image.arena,
    defineStaticWithExtBuf 64 (mbBlocksAt h 6) image.arena,
    defineStaticWithExtBuf 128 (mbBlocksAt h 7) image.arena,
    defineStaticWithExtBuf 256 (mbBlocksAt h 8) image.arena,
    defineStaticWithExtBuf 512 (mbBlocksAt h 9) image.arena,
    defineStaticWithExtBuf 1024 (mbBlocksAt h 10) image.arena]
  testLive := ⟨0, memSCount_pos⟩

end MemBlocks

namespace MemBlocksVars

variable (st : MemBlocksVars)

/-- `*test_live` -/
def live : SysMemBlocks := st.testPool[st.testLive]

/-- The variables after a call that wrote `bundles` into the bitmap of
`test_live`. -/
def store (bundles : Vector (BitVec 32) st.live.bitmap.numBundles) : MemBlocksVars :=
  { st with testPool := st.testPool.set st.testLive (st.live.setBundles bundles) }

end MemBlocksVars

namespace MemBlocks

variable {h : Harness} (image : MemBlocksImage h) (api : SysMemBlocksApi)

/-- The loop over the bundles of a bitmap. -/
def clearBundles {n : Nat} (bundles : Vector (BitVec 32) n) : Vector (BitVec 32) n :=
  (List.range n).foldl (fun v i => v.setIfInBounds i 0) bundles

/-- `mem_allocator_create_arena()`. An index behind the table is undefined in
the source; no step of the sweep has one. -/
def memAllocatorCreateArena (granularity : Nat) (st : MemBlocksVars) : MemBlocksVars :=
  if hi : mbStepOf granularity < memSCount then
    let st := { st with testLive := ⟨mbStepOf granularity, hi⟩ }
    st.store (clearBundles st.live.bitmap.bundles)
  else st

/-- `mem_allocator_destroy_arena()` -/
def memAllocatorDestroyArena (st : MemBlocksVars) : MemBlocksVars := st

/-- `mem_allocator_trim_store()` -/
def memAllocatorTrimStore (st : MemBlocksVars) : MemBlocksVars := st

/-- `mem_allocator_alloc()`: the error is discarded. -/
def memAllocatorAlloc (_bytes : Nat) (st : MemBlocksVars) : Ptr × MemBlocksVars :=
  let allocation : Ptr := none
  let result := api.sysMemBlocksAlloc st.live 1 #v[allocation]
  (result.2.2[0], st.store result.2.1)

/-- `mem_allocator_free()`: the error is discarded. -/
def memAllocatorFree (allocation : Ptr) (st : MemBlocksVars) : MemBlocksVars :=
  st.store (api.sysMemBlocksFree st.live 1 #v[allocation]).2

/-- `mem_allocator_create_is_native()` -/
def memAllocatorCreateIsNative : Bool := false

/-- `mem_allocator_arena_bytes()` -/
def memAllocatorArenaBytes (st : MemBlocksVars) : Nat :=
  sizeT (st.live.info.numBlocks <<< st.live.info.blkSzShift)

/-- `mem_allocator_fixed_bytes()` -/
def memAllocatorFixedBytes (st : MemBlocksVars) : Nat :=
  sizeT (image.sizeofSysMemBlocks + image.sizeofSysBitarray + st.live.bitmap.numBundles * 4)

/-- `mem_allocator_used_bytes()` -/
def memAllocatorUsedBytes (st : MemBlocksVars) : Nat :=
  let result := api.sysBitarrayPopcountRegion st.live.bitmap st.live.info.numBlocks 0 0
  if result.1 ≠ 0 then 0
  else sizeT ((result.2 <<< st.live.info.blkSzShift) + memAllocatorFixedBytes image st)

/-- `mem_allocator_is_fixed_size()` -/
def memAllocatorIsFixedSize : Bool := true

/-- `mem_allocator_supports_alloc_n()` -/
def memAllocatorSupportsAllocN : Bool := true

/-- `mem_allocator_alloc_n()` -/
def memAllocatorAllocN (count : Nat) (allocations : Vector Ptr count) (st : MemBlocksVars) :
    Bool × Vector Ptr count × MemBlocksVars :=
  let result := api.sysMemBlocksAlloc st.live count allocations
  (result.1 == 0, result.2.2, st.store result.2.1)

/-- The adapter. -/
def adapter : Adapter MemBlocksVars where
  createArena := memAllocatorCreateArena
  destroyArena := memAllocatorDestroyArena
  trimStore := memAllocatorTrimStore
  alloc := memAllocatorAlloc api
  allocN := memAllocatorAllocN api
  free := memAllocatorFree api
  arenaBytes := memAllocatorArenaBytes
  usedBytes := memAllocatorUsedBytes image api
  fixedBytes := memAllocatorFixedBytes image
  createIsNative := memAllocatorCreateIsNative
  isFixedSize := memAllocatorIsFixedSize
  supportsAllocN := memAllocatorSupportsAllocN

end MemBlocks

end ZephyrBench.Mem

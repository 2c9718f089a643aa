/-
ZephyrBench.Mem.ZephyrHeap — the adapters of the kernel heaps.

The adapters of `sys_heap`, `k_heap` and `k_malloc` read the space in use out of
the chunks of the heap, with the readers of `mem_zephyr_heap.h`. What these take
from the private header of the kernel heap is a parameter: the unit of a chunk,
and the size and the state of the chunk at an identifier. So are the heap
functions: `HeapContract` says what they do to the row of chunks.

The contract leaves open which chunk is handed out and how the free space is cut.
It says that the arena stays tiled, that a granted request is one allocation in
the row and a free one free, and that a refused request leaves the heap alone.

The loop of `mem_zephyr_heap_used_bytes()` follows the sizes it finds, so on
arbitrary memory it need not end. `usedLoop` has fuel for that reason, and
`walkFuel` is what the adapters of the model give it; that it is enough for every
tiled heap is proved (`Mem.ZephyrHeapTheorems`). `TiledHeap` is a heap that
cannot be anything else: its row is a field.
-/
import ZephyrBench.Mem.Allocator
import ZephyrBench.Mem.Chunks
import ZephyrBench.Mem.MemSlab

namespace ZephyrBench.Mem

/-! ## 1. The heap -/

/-- `CHUNK_UNIT` -/
structure ChunkUnit where
  bytes : Nat
  bytes_pos : 0 < bytes

/-- `struct z_heap`, as `chunk_size()` and `chunk_used()` read it. -/
structure ZHeap where
  endChunk : Nat
  chunkSize : Nat → Nat
  chunkUsed : Nat → Bool

/-- `struct sys_heap` -/
structure SysHeap where
  heap : Option ZHeap
  initMem : Nat
  initBytes : Nat

/-- `struct k_heap`, without its lock and its waiters. -/
structure KHeap where
  heap : SysHeap

/-- `right_chunk()` -/
def ZHeap.rightChunk (h : ZHeap) (c : Nat) : Nat := sizeT (c + h.chunkSize c)

/-! ## 2. mem_zephyr_heap.h -/

section Readers

variable (unit : ChunkUnit)

/-- `(size_t) chunk_size(h, c) * (size_t) CHUNK_UNIT` -/
def ZHeap.chunkBytes (h : ZHeap) (c : Nat) : Nat := sizeT (h.chunkSize c * unit.bytes)

/-- The body of the loop of `mem_zephyr_heap_used_bytes()`, at the chunk `c`. -/
def addUsed (h : ZHeap) (total c : Nat) : Nat :=
  if h.chunkUsed c then sizeT (total + h.chunkBytes unit c) else total

/-- The loop, from the chunk `c` on. It gives nothing if it does not end within
`fuel` tests of its condition. -/
def usedLoop (h : ZHeap) : Nat → Nat → Nat → Option Nat
  | 0, _, _ => none
  | fuel + 1, c, total =>
    if c < h.endChunk then usedLoop h fuel (h.rightChunk c) (addUsed unit h total c)
    else some total

/-- The chunks that the loop visits. -/
def visits (h : ZHeap) : Nat → Nat → List Nat
  | 0, _ => []
  | fuel + 1, c => if c < h.endChunk then c :: visits h fuel (h.rightChunk c) else []

/-- `mem_zephyr_heap_used_bytes()` -/
def memZephyrHeapUsedBytes (fuel : Nat) (heap : SysHeap) : Option Nat :=
  match heap.heap with
  | none => some 0
  | some h => usedLoop unit h fuel 0 0

/-- `mem_zephyr_heap_fixed_bytes()` -/
def memZephyrHeapFixedBytes (heap : SysHeap) : Nat :=
  match heap.heap with
  | none => 0
  | some h => h.chunkBytes unit 0

/-- `mem_zephyr_heap_real_arena()` -/
def memZephyrHeapRealArena (heap : SysHeap) : Nat := heap.initBytes

/-- The tests of the loop condition that a heap of its length can take. -/
def SysHeap.walkFuel (heap : SysHeap) : Nat :=
  match heap.heap with
  | none => 0
  | some h => h.endChunk + 1

/-- The space in use, as the adapters return it. -/
def SysHeap.usedBytes (heap : SysHeap) : Nat :=
  (memZephyrHeapUsedBytes unit heap.walkFuel heap).getD 0

end Readers

/-! ## 3. Tiled heaps -/

namespace ZHeap

variable (h : ZHeap)

/-- The chunks of the heap from `c` on are the row `l`, which ends where the heap
does. -/
def Tiles (c : Nat) : List Chunk → Prop
  | [] => c = h.endChunk
  | x :: l => h.chunkSize c = x.size ∧ h.chunkUsed c = x.used ∧ Tiles (c + x.size) l

theorem Tiles.end_eq {h : ZHeap} {c : Nat} {l : List Chunk} (ht : h.Tiles c l) :
    c + extent l = h.endChunk := by
  induction l generalizing c with
  | nil => exact ht
  | cons x l ih =>
    obtain ⟨-, -, hrest⟩ := ht
    have hend := ih hrest
    rw [extent]
    omega

/-- The chunks that are reached from chunk 0 on. -/
inductive Reaches : Nat → Prop
  | first (hend : 0 < h.endChunk) : Reaches 0
  | right {c : Nat} (hc : Reaches c) (hlt : h.rightChunk c < h.endChunk) :
    Reaches (h.rightChunk c)

end ZHeap

/-- A heap whose chunks tile it, with chunk 0 used, in an arena that has room for
it. -/
structure TiledHeap (unit : ChunkUnit) where
  heap : ZHeap
  initMem : Nat
  initBytes : Nat
  row : List Chunk
  tiles : heap.Tiles 0 row
  end_pos : 0 < heap.endChunk
  header : heap.chunkUsed 0 = true
  fits : heap.endChunk * unit.bytes ≤ initBytes
  word : initBytes < 2 ^ 32

/-- The structure that the readers are given. -/
def TiledHeap.sysHeap {unit : ChunkUnit} (t : TiledHeap unit) : SysHeap :=
  ⟨some t.heap, t.initMem, t.initBytes⟩

/-! ## 4. The heap functions -/

/-- How a heap puts its chunks into an arena of `bytes` bytes at `mem`: a used one
for itself, which is chunk 0, and a free one. `chunkOf` is the chunk that an
address in the arena at `mem` was handed out for. -/
structure HeapLayout where
  chunkOf (mem a : Nat) : Nat
  chunk0 (mem bytes : Nat) : Chunk
  rest (mem bytes : Nat) : Chunk
  chunk0_used : ∀ mem bytes, (chunk0 mem bytes).used = true
  rest_free : ∀ mem bytes, (rest mem bytes).used = false

/-- What the documentation says of the functions of a heap: the first lays the
heap out, an allocation hands out one chunk and a free takes it back. Arenas
are at least as large as the largest request. -/
structure HeapContract {σ : Type} (unit : ChunkUnit) (layout : HeapLayout) (heap : σ → SysHeap)
    (init : σ → Nat → Nat → σ) (alloc : σ → Nat → Ptr × σ) (free : σ → Ptr → σ) : Prop where
  init_lays_out : ∀ st mem bytes, memSizeOfS memSMax ≤ bytes → ∃ z,
    heap (init st mem bytes) = ⟨some z, mem, bytes⟩ ∧
      z.Tiles 0 [layout.chunk0 mem bytes, layout.rest mem bytes] ∧
      z.endChunk * unit.bytes ≤ bytes
  alloc_granted : ∀ st z l mem bytes n a, heap st = ⟨some z, mem, bytes⟩ → z.Tiles 0 l →
    (alloc st n).1 = some a → ∃ z' l', heap (alloc st n).2 = ⟨some z', mem, bytes⟩ ∧
      z'.Tiles 0 l' ∧ Allocates (layout.chunkOf mem a) l l'
  alloc_refused : ∀ st n, (alloc st n).1 = none → heap (alloc st n).2 = heap st
  free_used : ∀ st z l mem bytes a n, heap st = ⟨some z, mem, bytes⟩ → z.Tiles 0 l →
    0 < layout.chunkOf mem a → (layout.chunkOf mem a, n) ∈ usedFrom 0 l →
    ∃ z' l', heap (free st (some a)) = ⟨some z', mem, bytes⟩ ∧ z'.Tiles 0 l' ∧
      Frees (layout.chunkOf mem a) l l'

/-- The functions of `struct sys_heap`. -/
structure SysHeapApi (unit : ChunkUnit) where
  layout : HeapLayout
  sysHeapInit (heap : SysHeap) (mem bytes : Nat) : SysHeap
  sysHeapAlloc (heap : SysHeap) (bytes : Nat) : Ptr × SysHeap
  sysHeapFree (heap : SysHeap) (mem : Ptr) : SysHeap
  contract : HeapContract unit layout id sysHeapInit sysHeapAlloc sysHeapFree

/-- The functions of `struct k_heap`. -/
structure KHeapApi (unit : ChunkUnit) where
  layout : HeapLayout
  kHeapInit (heap : KHeap) (mem bytes : Nat) : KHeap
  kHeapAlloc (heap : KHeap) (bytes timeout : Nat) : Ptr × KHeap
  kHeapFree (heap : KHeap) (mem : Ptr) : KHeap
  contract : HeapContract unit layout KHeap.heap kHeapInit (kHeapAlloc · · kNoWait) kHeapFree

/-- `k_malloc()` and `k_free()`, which are given `_system_heap`. -/
structure KMallocApi (unit : ChunkUnit) where
  layout : HeapLayout
  kHeapInit (heap : KHeap) (mem bytes : Nat) : KHeap
  kMalloc (systemHeap : KHeap) (bytes : Nat) : Ptr × KHeap
  kFree (systemHeap : KHeap) (mem : Ptr) : KHeap
  contract : HeapContract unit layout KHeap.heap kHeapInit kMalloc kFree

/-! ## 5. The adapters -/

/-- What the three adapters have in common. -/
def heapAdapter {σ : Type} (unit : ChunkUnit) (heap : σ → SysHeap) (createArena : Nat → σ → σ)
    (alloc : Nat → σ → Ptr × σ) (free : Ptr → σ → σ) : Adapter σ where
  createArena
  destroyArena st := st
  trimStore st := st
  alloc
  allocN _ allocations st := (false, allocations, st)
  free
  arenaBytes st := memZephyrHeapRealArena (heap st)
  usedBytes st := (heap st).usedBytes unit
  fixedBytes st := memZephyrHeapFixedBytes unit (heap st)
  createIsNative := true
  isFixedSize := false
  supportsAllocN := false

/-- A heap before the first call: a static variable without initialiser. -/
def SysHeap.initial : SysHeap := ⟨none, 0, 0⟩

variable {unit : ChunkUnit} (h : Harness) (arena : Nat)

namespace SysHeapTest

variable (api : SysHeapApi unit)

/-- `mem_allocator_create_arena()` of `sys_heap.c` -/
def memAllocatorCreateArena (_granularity : Nat) (testHeap : SysHeap) : SysHeap :=
  api.sysHeapInit testHeap arena h.memArenaSize

/-- `mem_allocator_alloc()` -/
def memAllocatorAlloc (bytes : Nat) (testHeap : SysHeap) : Ptr × SysHeap :=
  api.sysHeapAlloc testHeap bytes

/-- `mem_allocator_free()` -/
def memAllocatorFree (allocation : Ptr) (testHeap : SysHeap) : SysHeap :=
  api.sysHeapFree testHeap allocation

def adapter : Adapter SysHeap :=
  heapAdapter unit id (memAllocatorCreateArena h arena api) (memAllocatorAlloc api)
    (memAllocatorFree api)

end SysHeapTest

namespace KHeapTest

variable (api : KHeapApi unit)

/-- `mem_allocator_create_arena()` of `k_heap.c` -/
def memAllocatorCreateArena (_granularity : Nat) (testHeap : KHeap) : KHeap :=
  api.kHeapInit testHeap arena h.memArenaSize

/-- `mem_allocator_alloc()` -/
def memAllocatorAlloc (bytes : Nat) (testHeap : KHeap) : Ptr × KHeap :=
  api.kHeapAlloc testHeap bytes kNoWait

/-- `mem_allocator_free()` -/
def memAllocatorFree (allocation : Ptr) (testHeap : KHeap) : KHeap :=
  api.kHeapFree testHeap allocation

def adapter : Adapter KHeap :=
  heapAdapter unit KHeap.heap (memAllocatorCreateArena h arena api) (memAllocatorAlloc api)
    (memAllocatorFree api)

end KHeapTest

namespace KMallocTest

variable (api : KMallocApi unit)

/-- `mem_allocator_create_arena()` of `k_malloc.c` -/
def memAllocatorCreateArena (_granularity : Nat) (systemHeap : KHeap) : KHeap :=
  api.kHeapInit systemHeap systemHeap.heap.initMem systemHeap.heap.initBytes

/-- `mem_allocator_alloc()` -/
def memAllocatorAlloc (bytes : Nat) (systemHeap : KHeap) : Ptr × KHeap :=
  api.kMalloc systemHeap bytes

/-- `mem_allocator_free()` -/
def memAllocatorFree (allocation : Ptr) (systemHeap : KHeap) : KHeap :=
  api.kFree systemHeap allocation

def adapter : Adapter KHeap :=
  heapAdapter unit KHeap.heap (memAllocatorCreateArena api) (memAllocatorAlloc api)
    (memAllocatorFree api)

/-- The kernel's system heap: the pool of `CONFIG_HEAP_MEM_POOL_SIZE` bytes that
the kernel declares is large enough for the arena. -/
structure Pool (h : Harness) where
  systemHeap : KHeap
  large : h.memArenaSize ≤ systemHeap.heap.initBytes
  word : systemHeap.heap.initBytes < 2 ^ 32

end KMallocTest

end ZephyrBench.Mem

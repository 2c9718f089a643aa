/-
ZephyrBench.Mem.RowHeap — heap functions that keep their contract.

An allocation cuts the first free chunk that is large enough, and a free marks
the chunk and merges all free neighbours. The heap is rebuilt from its row of
chunks at every call, so the functions work on rows (`cutFirst`, `markFree`,
`coalesce`).

  * `row_contract` — they keep the contract of the heap adapters, for any
    variable that holds a heap; `rowSysHeap`, `rowKHeap` and `rowKMalloc` are the
    instances for the three adapters.
  * `rowAlloc_isSome_iff` — a request is granted if and only if some free chunk
    is large enough.
  * `rowSysHeap_grants` — so after a create the adapter grants whatever leaves
    room for the headers.

The contract allows a heap that refuses everything. The last two show that its
runs are not only refusals: the theorems about the adapters speak of heaps that
hand out, split and merge.
-/
import ZephyrBench.Mem.ZephyrHeap

namespace ZephyrBench.Mem

/-! ## 1. The first chunk that is large enough -/

section Rows

variable {c p n : Nat} {x : Chunk} {l l' : List Chunk}

theorem Splits.cons (x : Chunk) (h : Splits l l') : Splits (x :: l) (x :: l') := by
  cases h with
  | split pre post hx hy hz hsize => exact .split (x :: pre) post hx hy hz hsize

theorem Refines.cons (x : Chunk) (h : Refines l l') : Refines (x :: l) (x :: l') := by
  induction h with
  | refl => exact .refl
  | tail _ hlast ih => exact ih.tail (hlast.cons x)

/-- Merges all free neighbours. -/
def coalesce : List Chunk → List Chunk
  | [] => []
  | x :: l =>
    match coalesce l with
    | [] => [x]
    | y :: m =>
      if x.used = false ∧ y.used = false then
        ⟨x.size + y.size, false, Nat.add_pos_left x.size_pos _⟩ :: m
      else x :: y :: m

theorem coalesce_refines (l : List Chunk) : Refines (coalesce l) l := by
  induction l with
  | nil => exact .refl
  | cons x l ih =>
    have hcons := ih.cons x
    unfold coalesce
    cases hl : coalesce l with
    | nil =>
      rw [hl] at hcons
      exact hcons
    | cons y m =>
      rw [hl] at hcons
      by_cases hfree : x.used = false ∧ y.used = false
      · simp only [hfree, and_self, if_true]
        exact .head (.split [] m hfree.1 hfree.2 rfl rfl) hcons
      · simp only [hfree, if_false]
        exact hcons

/-- The first free chunk of more than `n` units is cut at `n + 1`. -/
def cutFirst (n c : Nat) : List Chunk → Option (Nat × List Chunk)
  | [] => none
  | x :: l =>
    if hfit : x.used = false ∧ n + 1 < x.size then
      some (c, ⟨n + 1, true, Nat.succ_pos n⟩ ::
        ⟨x.size - (n + 1), false, Nat.sub_pos_of_lt hfit.2⟩ :: l)
    else (cutFirst n (c + x.size) l).map fun r => (r.1, x :: r.2)

theorem Allocates.cons (x : Chunk) (h : Allocates p l l') :
    Allocates (x.size + p) (x :: l) (x :: l') := by
  cases h with
  | mark pre post hsplit hx hc =>
    exact .mark (x :: pre) post (hsplit.cons x) hx (by rw [extent, hc])

theorem cutFirst_allocates (h : cutFirst n c l = some (p, l')) :
    ∃ q, p = c + q ∧ Allocates q l l' := by
  induction l generalizing c l' with
  | nil => exact absurd h (Option.some_ne_none _).symm
  | cons x l ih =>
    unfold cutFirst at h
    by_cases hfit : x.used = false ∧ n + 1 < x.size
    · rw [dif_pos hfit] at h
      obtain ⟨rfl, rfl⟩ := Prod.mk.inj (Option.some.inj h)
      refine ⟨0, rfl, ?_⟩
      have hsize : n + 1 + (x.size - (n + 1)) = x.size := by omega
      exact .mark [] _ (x := ⟨n + 1, false, Nat.succ_pos n⟩)
        (.single (.split [] l rfl rfl hfit.1 hsize)) rfl rfl
    · rw [dif_neg hfit, Option.map_eq_some_iff] at h
      obtain ⟨⟨p', m⟩, hrest, hpair⟩ := h
      obtain ⟨rfl, rfl⟩ := Prod.mk.inj hpair
      obtain ⟨q, hq, halloc⟩ := ih hrest
      exact ⟨x.size + q, by rw [← Nat.add_assoc]; exact hq, halloc.cons x⟩

/-- A chunk is cut exactly when some free one is large enough. -/
theorem cutFirst_isSome_iff :
    (cutFirst n c l).isSome = true ↔ ∃ x ∈ l, x.used = false ∧ n + 1 < x.size := by
  induction l generalizing c with
  | nil => simp [cutFirst]
  | cons x l ih =>
    unfold cutFirst
    by_cases hfit : x.used = false ∧ n + 1 < x.size
    · simp [hfit]
    · rw [dif_neg hfit, Option.isSome_map, ih, List.exists_mem_cons_iff, or_iff_right hfit]

/-- The chunk at `p` is marked free. -/
def markFree (c p : Nat) : List Chunk → List Chunk
  | [] => []
  | x :: l => if c = p then x.mark false :: l else x :: markFree (c + x.size) p l

theorem markFree_append (c : Nat) (pre post : List Chunk) :
    markFree c (c + extent pre) (pre ++ x :: post) = pre ++ x.mark false :: post := by
  induction pre generalizing c with
  | nil => exact if_pos rfl
  | cons y pre ih =>
    have hne : c ≠ c + extent (y :: pre) := by
      have hpos := y.size_pos
      rw [extent]
      omega
    have hrest := ih (c + y.size)
    rw [List.cons_append, markFree, if_neg hne, extent, ← Nat.add_assoc, hrest, List.cons_append]

theorem markFree_frees (h : (p, n) ∈ usedFrom 0 l) : Frees p l (coalesce (markFree 0 p l)) := by
  obtain ⟨pre, x, post, rfl, hx, hp⟩ := exists_of_mem_usedFrom h
  obtain ⟨rfl, -⟩ := Prod.mk.inj hp
  have hmark := markFree_append (x := x) 0 pre post
  refine .mark pre post hx (Nat.zero_add _).symm ?_
  rw [hmark]
  exact coalesce_refines _

/-! ## 2. Rows as heaps -/

/-- The chunk of the row at `p`. -/
def chunkAt (c p : Nat) : List Chunk → Option Chunk
  | [] => none
  | x :: l => if c = p then some x else chunkAt (c + x.size) p l

/-- The heap with the chunks of a row. -/
def heapOf (l : List Chunk) : ZHeap where
  endChunk := extent l
  chunkSize p := ((chunkAt 0 p l).map Chunk.size).getD 0
  chunkUsed p := ((chunkAt 0 p l).map Chunk.used).getD false

/-- The row that the chunks of a heap form from `c` on. -/
def rowOf (z : ZHeap) : Nat → Nat → List Chunk
  | 0, _ => []
  | fuel + 1, c =>
    if hpos : c < z.endChunk ∧ 0 < z.chunkSize c then
      ⟨z.chunkSize c, z.chunkUsed c, hpos.2⟩ :: rowOf z fuel (c + z.chunkSize c)
    else []

theorem chunkAt_append (c : Nat) (pre post : List Chunk) :
    chunkAt c (c + extent pre) (pre ++ x :: post) = some x := by
  induction pre generalizing c with
  | nil => exact if_pos rfl
  | cons y pre ih =>
    have hne : c ≠ c + extent (y :: pre) := by
      have hpos := y.size_pos
      rw [extent]
      omega
    rw [List.cons_append, chunkAt, if_neg hne, extent, ← Nat.add_assoc, ih]

theorem heapOf_tiles_append (pre post : List Chunk) :
    (heapOf (pre ++ post)).Tiles (extent pre) post := by
  induction post generalizing pre with
  | nil =>
    rw [List.append_nil]
    rfl
  | cons x post ih =>
    have hat := chunkAt_append (x := x) 0 pre post
    have hrest := ih (pre ++ [x])
    rw [Nat.zero_add] at hat
    rw [List.append_assoc, extent_append, extent, extent, Nat.add_zero] at hrest
    refine ⟨?_, ?_, hrest⟩
    · show ((chunkAt 0 (extent pre) (pre ++ x :: post)).map Chunk.size).getD 0 = x.size
      rw [hat]
      rfl
    · show ((chunkAt 0 (extent pre) (pre ++ x :: post)).map Chunk.used).getD false = x.used
      rw [hat]
      rfl

theorem heapOf_tiles (l : List Chunk) : (heapOf l).Tiles 0 l := heapOf_tiles_append [] l

/-- A tiled heap has one row. -/
theorem rowOf_eq {z : ZHeap} {fuel : Nat} (ht : z.Tiles c l) (hfuel : l.length ≤ fuel) :
    rowOf z fuel c = l := by
  induction fuel generalizing c l with
  | zero =>
    rw [List.length_eq_zero_iff.mp (Nat.le_zero.mp hfuel)]
    rfl
  | succ fuel ih =>
    cases l with
    | nil =>
      have hend : ¬ (c < z.endChunk ∧ 0 < z.chunkSize c) := by
        rintro ⟨hlt, -⟩
        exact absurd hlt (Nat.not_lt.mpr (Nat.le_of_eq (Eq.symm ht)))
      rw [rowOf, dif_neg hend]
    | cons x l =>
      have hend := ht.end_eq
      have hpos := x.size_pos
      obtain ⟨hsize, hused, hrest⟩ := ht
      rw [extent] at hend
      have hin : c < z.endChunk ∧ 0 < z.chunkSize c := by omega
      have hx : (⟨z.chunkSize c, z.chunkUsed c, hin.2⟩ : Chunk) = x := by
        obtain ⟨size, used, hpos⟩ := x
        simp only [Chunk.mk.injEq]
        exact ⟨hsize, hused⟩
      rw [rowOf, dif_pos hin, hx, hsize, ih hrest (Nat.le_of_succ_le_succ hfuel)]

end Rows

/-! ## 3. A heap that splits and merges -/

/-- `CHUNK_UNIT` of a small heap. -/
def smallUnit : ChunkUnit := ⟨8, by decide⟩

/-- An address lies behind the header of its chunk. -/
def rowLayout : HeapLayout where
  chunkOf mem a := (a - mem) / 8
  chunk0 _ _ := ⟨8, true, by decide⟩
  rest _ bytes := ⟨max 1 (bytes / 8 - 8), false, by omega⟩
  chunk0_used := fun _ _ => rfl
  rest_free := fun _ _ => rfl

def rowInit (_heap : SysHeap) (mem bytes : Nat) : SysHeap :=
  ⟨some (heapOf [rowLayout.chunk0 mem bytes, rowLayout.rest mem bytes]), mem, bytes⟩

def rowAlloc (heap : SysHeap) (bytes : Nat) : Ptr × SysHeap :=
  match heap.heap with
  | none => (none, heap)
  | some z =>
    match cutFirst (bytes / 8) 0 (rowOf z z.endChunk 0) with
    | none => (none, heap)
    | some (c, l) => (some (heap.initMem + 8 * c + 4), { heap with heap := some (heapOf l) })

def rowFree (heap : SysHeap) (mem : Ptr) : SysHeap :=
  match heap.heap, mem with
  | some z, some a =>
    { heap with
      heap := some (heapOf (coalesce
        (markFree 0 (rowLayout.chunkOf heap.initMem a) (rowOf z z.endChunk 0)))) }
  | _, _ => heap

theorem rowOf_tiles {z : ZHeap} {l : List Chunk} (ht : z.Tiles 0 l) : rowOf z z.endChunk 0 = l := by
  have hend := ht.end_eq
  have hlen := length_le_extent l
  exact rowOf_eq ht (by omega)

theorem rowInit_lays_out (mem bytes : Nat) (hbytes : memSizeOfS memSMax ≤ bytes) :
    (heapOf [rowLayout.chunk0 mem bytes, rowLayout.rest mem bytes]).endChunk * smallUnit.bytes ≤
      bytes := by
  have hlarge : 1024 ≤ bytes := hbytes
  show (8 + (max 1 (bytes / 8 - 8) + 0)) * 8 ≤ bytes
  omega

theorem rowAlloc_granted {st : SysHeap} {z : ZHeap} {l : List Chunk} {mem bytes n a : Nat}
    (hst : st = ⟨some z, mem, bytes⟩) (ht : z.Tiles 0 l) (ha : (rowAlloc st n).1 = some a) :
    ∃ z' l', (rowAlloc st n).2 = ⟨some z', mem, bytes⟩ ∧ z'.Tiles 0 l' ∧
      Allocates (rowLayout.chunkOf mem a) l l' := by
  subst hst
  unfold rowAlloc at ha ⊢
  simp only [rowOf_tiles ht] at ha ⊢
  cases hcut : cutFirst (n / 8) 0 l with
  | none =>
    rw [hcut] at ha
    exact absurd ha (Option.some_ne_none a).symm
  | some r =>
    obtain ⟨c, l'⟩ := r
    rw [hcut] at ha
    have haddr : mem + 8 * c + 4 = a := Option.some.inj ha
    have hchunk : rowLayout.chunkOf mem a = c := by
      show (a - mem) / 8 = c
      omega
    obtain ⟨q, hq, halloc⟩ := cutFirst_allocates hcut
    rw [Nat.zero_add] at hq
    rw [hchunk, hq]
    exact ⟨heapOf l', l', rfl, heapOf_tiles l', halloc⟩

theorem rowAlloc_refused {st : SysHeap} {n : Nat} (ha : (rowAlloc st n).1 = none) :
    (rowAlloc st n).2 = st := by
  unfold rowAlloc at ha ⊢
  split
  · rfl
  · split
    · rfl
    · simp_all

/-- A request is granted exactly when some free chunk is larger than it, so it
is not refused while the heap has room. -/
theorem rowAlloc_isSome_iff {z : ZHeap} {l : List Chunk} {mem bytes n : Nat} (ht : z.Tiles 0 l) :
    (rowAlloc ⟨some z, mem, bytes⟩ n).1.isSome = true ↔
      ∃ x ∈ l, x.used = false ∧ n / 8 + 1 < x.size := by
  rw [← cutFirst_isSome_iff (c := 0)]
  simp only [rowAlloc, rowOf_tiles ht]
  cases cutFirst (n / 8) 0 l <;> simp

theorem rowFree_used {st : SysHeap} {z : ZHeap} {l : List Chunk} {mem bytes n a : Nat}
    (hst : st = ⟨some z, mem, bytes⟩) (ht : z.Tiles 0 l)
    (hused : (rowLayout.chunkOf mem a, n) ∈ usedFrom 0 l) :
    ∃ z' l', rowFree st (some a) = ⟨some z', mem, bytes⟩ ∧ z'.Tiles 0 l' ∧
      Frees (rowLayout.chunkOf mem a) l l' := by
  subst hst
  refine ⟨_, _, rfl, heapOf_tiles _, ?_⟩
  rw [rowOf_tiles ht]
  exact markFree_frees hused

/-- The heap functions of a row, for any variable that holds a heap. -/
theorem row_contract {σ : Type} (heap : σ → SysHeap) (mk : SysHeap → σ)
    (hmk : ∀ s, heap (mk s) = s) :
    HeapContract smallUnit rowLayout heap (fun st mem bytes => mk (rowInit (heap st) mem bytes))
      (fun st n => ((rowAlloc (heap st) n).1, mk (rowAlloc (heap st) n).2))
      (fun st a => mk (rowFree (heap st) a)) where
  init_lays_out := by
    intro st mem bytes hbytes
    exact ⟨_, hmk _, heapOf_tiles _, rowInit_lays_out mem bytes hbytes⟩
  alloc_granted := by
    intro st z l mem bytes n a hst ht ha
    rw [hmk]
    exact rowAlloc_granted hst ht ha
  alloc_refused := by
    intro st n ha
    rw [hmk]
    exact rowAlloc_refused ha
  free_used := by
    intro st z l mem bytes a n hst ht _ hused
    rw [hmk]
    exact rowFree_used hst ht hused

-- Chunk 0 takes 8 units and the pieces 3 and 13, of which the first is freed.
example : (rowFree (rowAlloc (rowAlloc (rowInit SysHeap.initial 0 1024) 16).2 100).2
    (some 68)).usedBytes smallUnit = (8 + 13) * 8 := by
  decide +kernel

def rowSysHeap : SysHeapApi smallUnit where
  layout := rowLayout
  sysHeapInit := rowInit
  sysHeapAlloc := rowAlloc
  sysHeapFree := rowFree
  contract := row_contract id id fun _ => rfl

/-- After a create, the `sys_heap` adapter over this heap grants every request
that leaves room for the headers. -/
theorem rowSysHeap_grants (h : Harness) (arena : Nat) (c : Client SysHeap) (x : SweepStep)
    {n : Nat} (hn : n / 8 + 9 < h.memArenaSize / 8) :
    ((SysHeapTest.adapter h arena rowSysHeap).exec
      ((SysHeapTest.adapter h arena rowSysHeap).exec c (.createArena x)).2 (.alloc n)).1 =
        .granted := by
  have hsome : (rowAlloc (rowInit c.store arena h.memArenaSize) n).1.isSome = true := by
    refine (rowAlloc_isSome_iff (heapOf_tiles _)).mpr ⟨_, List.mem_cons_of_mem _ (.head _), rfl, ?_⟩
    show n / 8 + 1 < max 1 (h.memArenaSize / 8 - 8)
    omega
  obtain ⟨a, ha⟩ := Option.isSome_iff_exists.mp hsome
  have halloc : ((SysHeapTest.adapter h arena rowSysHeap).alloc n
      ((SysHeapTest.adapter h arena rowSysHeap).createArena x.granularity c.store)).1 = some a := ha
  rw [Adapter.exec, Adapter.exec_alloc_some _ halloc]

def rowKHeap : KHeapApi smallUnit where
  layout := rowLayout
  kHeapInit heap mem bytes := ⟨rowInit heap.heap mem bytes⟩
  kHeapAlloc heap bytes _timeout := ((rowAlloc heap.heap bytes).1, ⟨(rowAlloc heap.heap bytes).2⟩)
  kHeapFree heap mem := ⟨rowFree heap.heap mem⟩
  contract := row_contract KHeap.heap KHeap.mk fun _ => rfl

def rowKMalloc : KMallocApi smallUnit where
  layout := rowLayout
  kHeapInit heap mem bytes := ⟨rowInit heap.heap mem bytes⟩
  kMalloc systemHeap bytes :=
    ((rowAlloc systemHeap.heap bytes).1, ⟨(rowAlloc systemHeap.heap bytes).2⟩)
  kFree systemHeap mem := ⟨rowFree systemHeap.heap mem⟩
  contract := row_contract KHeap.heap KHeap.mk fun _ => rfl

end ZephyrBench.Mem

/-
ZephyrBench.Mem.HeapAccounts — the chunks of a heap over a run.

  * `heap_pieces_apart` — in every state of a run of the three heap adapters the
    pieces out are apart from each other and from chunk 0 and lie within the
    heap, and no call moves or cuts one that stays out.
  * `heap_space_conserved` — what is in use and what is free make up the whole
    heap, whose length no call changes but a create, so that a call moves the
    space of its piece from one side to the other and nothing else.

Both are about what the readers of `mem_zephyr_heap.h` find: the free space is
the one of the free chunks that the same walk visits (`SysHeap.freeBytes`).

`HoldsWhole` adds to the invariant of `Mem.ZephyrHeapTheorems` that the heap is
as long as it was laid out. Disjointness comes from the row: the used chunks of a
row are apart from each other (`usedFrom_pairwise`), and the chunks of the pieces
are among them.
-/
import ZephyrBench.Mem.ZephyrHeapTheorems

namespace ZephyrBench.Mem

/-! ## 1. Rows -/

section Rows

variable {c : Nat} {l : List Chunk} {u : Nat × Nat}

/-- Two chunks, each with its start and its size, have no unit in common. -/
def Apart (u v : Nat × Nat) : Prop := u.1 + u.2 ≤ v.1 ∨ v.1 + v.2 ≤ u.1

theorem Apart.symm {u v : Nat × Nat} (h : Apart u v) : Apart v u := Or.symm h

/-- A used chunk lies within its row. -/
theorem usedFrom_bounds (h : u ∈ usedFrom c l) : c ≤ u.1 ∧ 0 < u.2 ∧ u.1 + u.2 ≤ c + extent l := by
  obtain ⟨pre, x, post, rfl, -, rfl⟩ := exists_of_mem_usedFrom h
  have hpos := x.size_pos
  rw [extent_append, extent]
  simp only
  omega

theorem usedFrom_pairwise (c : Nat) (l : List Chunk) : (usedFrom c l).Pairwise Apart := by
  induction l generalizing c with
  | nil => exact List.Pairwise.nil
  | cons x l ih =>
    cases hx : x.used with
    | false =>
      rw [usedFrom_cons_free hx]
      exact ih _
    | true =>
      rw [usedFrom_cons_used hx, List.pairwise_cons]
      refine ⟨fun v hv => .inl ?_, ih _⟩
      exact (usedFrom_bounds hv).1

/-- The length of the free chunks. -/
def freeUnits : List Chunk → Nat
  | [] => 0
  | x :: l => if x.used then freeUnits l else x.size + freeUnits l

theorem usedUnits_add_freeUnits (l : List Chunk) : usedUnits l + freeUnits l = extent l := by
  induction l with
  | nil => rfl
  | cons x l ih =>
    rw [extent, freeUnits]
    cases hx : x.used with
    | false =>
      rw [usedUnits_cons_free hx, if_neg Bool.false_ne_true]
      omega
    | true =>
      rw [usedUnits_cons_used hx, if_pos rfl]
      omega

end Rows

/-! ## 2. The free chunks of a heap -/

/-- The length of the free chunks among `cs`. -/
def ZHeap.freeUnitsOf (h : ZHeap) (cs : List Nat) : Nat :=
  ((cs.filter fun c => !h.chunkUsed c).map h.chunkSize).sum

theorem ZHeap.Tiles.freeUnitsOf_eq {h : ZHeap} {c : Nat} {l : List Chunk} (ht : h.Tiles c l) :
    h.freeUnitsOf (startsFrom c l) = freeUnits l := by
  induction l generalizing c with
  | nil => rfl
  | cons x l ih =>
    obtain ⟨hsize, hused, hrest⟩ := ht
    have htail := ih hrest
    unfold freeUnitsOf at htail ⊢
    rw [startsFrom, List.filter_cons, hused, freeUnits]
    cases hx : x.used with
    | false => simp [hsize, htail]
    | true => simp [htail]

/-- The space of the free chunks that the walk of the readers visits. -/
def SysHeap.freeBytes (unit : ChunkUnit) (heap : SysHeap) : Nat :=
  match heap.heap with
  | none => 0
  | some z => z.freeUnitsOf (visits z heap.walkFuel 0) * unit.bytes

/-- Where the heap ends. -/
def SysHeap.endBytes (unit : ChunkUnit) (heap : SysHeap) : Nat :=
  match heap.heap with
  | none => 0
  | some z => z.endChunk * unit.bytes

variable {unit : ChunkUnit} {layout : HeapLayout} {mem bytes : Nat} {live : List Nat} {z z' : ZHeap}
  {l l' : List Chunk}

theorem sum_liveChunks_append (a : Nat) :
    ((z.liveChunks layout mem (live ++ [a])).map Prod.snd).sum =
      ((z.liveChunks layout mem live).map Prod.snd).sum + z.chunkSize (layout.chunkOf mem a) := by
  simp [ZHeap.liveChunks]

theorem sum_liveChunks_eraseIdx {a k : Nat} (hk : live[k]? = some a) :
    ((z.liveChunks layout mem live).map Prod.snd).sum =
      ((z.liveChunks layout mem (live.eraseIdx k)).map Prod.snd).sum +
        z.chunkSize (layout.chunkOf mem a) := by
  obtain ⟨hlt, rfl⟩ := List.getElem?_eq_some_iff.mp hk
  have hperm : (live[k] :: live.eraseIdx k).Perm live := List.getElem_cons_eraseIdx_perm hlt
  have hsum := ((hperm.map fun a => (layout.chunkOf mem a, z.chunkSize (layout.chunkOf mem a))).map
    Prod.snd).sum_nat
  rw [List.map_cons, List.map_cons, List.sum_cons] at hsum
  unfold ZHeap.liveChunks
  omega

namespace HoldsLive

variable (H : HoldsLive unit layout mem bytes live z l)
include H

/-- Chunk 0 and the pieces out are apart from each other. -/
theorem apart : ((0, (layout.chunk0 mem bytes).size) :: z.liveChunks layout mem live).Pairwise
    Apart :=
  (usedFrom_pairwise 0 l).perm H.used fun h => h.symm

/-- A piece has a length and ends within the heap. -/
theorem within {u : Nat × Nat} (hu : u ∈ z.liveChunks layout mem live) :
    0 < u.2 ∧ u.1 + u.2 ≤ z.endChunk := by
  have hbounds := usedFrom_bounds (H.used.mem_iff.mpr (List.mem_cons_of_mem _ hu))
  have hend := H.tiles.end_eq
  omega

theorem freeBytes_eq (hword : bytes < 2 ^ 32) :
    SysHeap.freeBytes unit ⟨some z, mem, bytes⟩ = freeUnits l * unit.bytes := by
  have hvisits : visits z (z.endChunk + 1) 0 = startsFrom 0 l := by
    refine visits_eq (H.end_le.trans_lt hword) H.tiles ?_
    have hend := H.tiles.end_eq
    have hlength := length_le_extent l
    omega
  show z.freeUnitsOf (visits z (z.endChunk + 1) 0) * unit.bytes = _
  rw [hvisits, H.tiles.freeUnitsOf_eq]

end HoldsLive

/-! ## 3. Calls -/

/-- The length of the chunk of the piece `a`. -/
def SysHeap.pieceUnits (layout : HeapLayout) (heap : SysHeap) (a : Nat) : Nat :=
  match heap.heap with
  | none => 0
  | some z => z.chunkSize (layout.chunkOf heap.initMem a)

section Runs

variable {σ : Type} {heap : σ → SysHeap} {init : σ → Nat → Nat → σ} {alloc : σ → Nat → Ptr × σ}
  {free : σ → Ptr → σ} {createArena : Nat → σ → σ} {W : σ → Prop}

/-- The caller holds the pieces of the heap, which is as long as it was laid
out. -/
def HoldsWhole (unit : ChunkUnit) (layout : HeapLayout) (heap : σ → SysHeap) (mem bytes : Nat)
    (c : Client σ) : Prop :=
  ∃ z l, heap c.store = ⟨some z, mem, bytes⟩ ∧ HoldsLive unit layout mem bytes c.live z l ∧
    extent l = (layout.chunk0 mem bytes).size + (layout.rest mem bytes).size

namespace HeapTest

variable (T : HeapTest unit layout heap init alloc free createArena W mem bytes)
include T

theorem createArena_whole {st : σ} (hW : W st) (granularity : Nat) :
    HoldsWhole unit layout heap mem bytes ⟨createArena granularity st, []⟩ := by
  rw [T.createArena_eq granularity st hW]
  obtain ⟨z, hheap, ht, hend⟩ := T.contract.init_lays_out st mem bytes T.large
  exact ⟨z, _, hheap, holdsLive_initial ht hend, rfl⟩

/-- A piece that is handed out: the others keep their chunks. -/
theorem alloc_granted {st : σ} {n a : Nat} (hheap : heap st = ⟨some z, mem, bytes⟩)
    (H : HoldsLive unit layout mem bytes live z l) (hp : (alloc st n).1 = some a) :
    ∃ z' l', heap (alloc st n).2 = ⟨some z', mem, bytes⟩ ∧
      HoldsLive unit layout mem bytes (live ++ [a]) z' l' ∧ extent l' = extent l ∧
      ∀ b ∈ live, z'.chunkSize (layout.chunkOf mem b) = z.chunkSize (layout.chunkOf mem b) := by
  obtain ⟨z', l', hheap', ht, halloc⟩ :=
    T.contract.alloc_granted st z l mem bytes n a hheap H.tiles hp
  refine ⟨z', l', hheap', H.granted ht halloc, halloc.extent_eq, fun b hb => ?_⟩
  obtain ⟨m, hperm⟩ := halloc.usedFrom_perm
  exact (ht.of_mem_usedFrom (hperm.mem_iff.mpr (List.mem_cons_of_mem _ (H.mem_used hb)))).2

/-- A piece that is taken back: the others keep their chunks. -/
theorem free_taken {st : σ} {k a : Nat} (hheap : heap st = ⟨some z, mem, bytes⟩)
    (H : HoldsLive unit layout mem bytes live z l) (hk : live[k]? = some a) :
    ∃ z' l', heap (free st (some a)) = ⟨some z', mem, bytes⟩ ∧
      HoldsLive unit layout mem bytes (live.eraseIdx k) z' l' ∧ extent l' = extent l ∧
      ∀ b ∈ live.eraseIdx k,
        z'.chunkSize (layout.chunkOf mem b) = z.chunkSize (layout.chunkOf mem b) := by
  have ha : a ∈ live := List.mem_of_getElem? hk
  obtain ⟨z', l', hheap', ht, hfree⟩ := T.contract.free_used st z l mem bytes a _ hheap H.tiles
    (H.chunkOf_pos ha) (H.mem_used ha)
  obtain ⟨H', hsize⟩ := H.freed hk ht hfree
  exact ⟨z', l', hheap', H', hfree.extent_eq, hsize⟩

/-- Every call leaves the heap as long as it was. -/
theorem exec_whole (c : Client σ) (call : Call) (hc : HoldsWhole unit layout heap mem bytes c) :
    HoldsWhole unit layout heap mem bytes (T.adapter.exec c call).2 := by
  obtain ⟨st, live⟩ := c
  obtain ⟨z, l, hheap, H, hextent⟩ := hc
  cases call with
  | createArena x => exact T.createArena_whole (T.keeps st z hheap) _
  | destroyArena => exact ⟨z, l, hheap, H, hextent⟩
  | trimStore => exact ⟨z, l, hheap, H, hextent⟩
  | alloc n =>
    cases hp : (alloc st n).1 with
    | none =>
      rw [Adapter.exec_alloc_none T.adapter hp]
      exact ⟨z, l, (T.contract.alloc_refused st n hp).trans hheap, H, hextent⟩
    | some a =>
      rw [Adapter.exec_alloc_some T.adapter hp]
      obtain ⟨z', l', hheap', H', hextent', -⟩ := T.alloc_granted hheap H hp
      exact ⟨z', l', hheap', H', hextent'.trans hextent⟩
  | free k =>
    cases hk : live[k]? with
    | none =>
      rw [Adapter.exec_free_none T.adapter hk]
      exact ⟨z, l, hheap, H, hextent⟩
    | some a =>
      rw [Adapter.exec_free_some T.adapter hk]
      obtain ⟨z', l', hheap', H', hextent', -⟩ := T.free_taken hheap H hk
      exact ⟨z', l', hheap', H', hextent'.trans hextent⟩

theorem fresh_whole {start : σ} {c : Client σ} (hW : W start) (hc : T.adapter.Fresh start c) :
    HoldsWhole unit layout heap mem bytes c := by
  cases hc with
  | run x calls => exact answers_keeps T.exec_whole (T.createArena_whole hW _) calls

/-- No call but a create changes the chunk of a piece that stays out. -/
theorem exec_keeps {c : Client σ} {call : Call} {a : Nat}
    (hheap : heap c.store = ⟨some z, mem, bytes⟩)
    (H : HoldsLive unit layout mem bytes c.live z l) (hcall : ∀ x, call ≠ .createArena x)
    (ha : a ∈ c.live) (ha' : a ∈ (T.adapter.exec c call).2.live) :
    (heap (T.adapter.exec c call).2.store).pieceUnits layout a =
      (heap c.store).pieceUnits layout a := by
  obtain ⟨st, live⟩ := c
  cases call with
  | createArena x => exact absurd rfl (hcall x)
  | destroyArena => rfl
  | trimStore => rfl
  | alloc n =>
    cases hp : (alloc st n).1 with
    | none =>
      rw [Adapter.exec_alloc_none T.adapter hp]
      show (heap (alloc st n).2).pieceUnits layout a = (heap st).pieceUnits layout a
      rw [T.contract.alloc_refused st n hp]
    | some b =>
      rw [Adapter.exec_alloc_some T.adapter hp]
      obtain ⟨z', l', hheap', -, -, hkept⟩ := T.alloc_granted hheap H hp
      show (heap (alloc st n).2).pieceUnits layout a = (heap st).pieceUnits layout a
      rw [hheap', show heap st = _ from hheap]
      exact hkept a ha
  | free k =>
    cases hk : live[k]? with
    | none => rw [Adapter.exec_free_none T.adapter hk]
    | some b =>
      rw [Adapter.exec_free_some T.adapter hk] at ha' ⊢
      obtain ⟨z', l', hheap', -, -, hkept⟩ := T.free_taken hheap H hk
      show (heap (free st (some b))).pieceUnits layout a = (heap st).pieceUnits layout a
      rw [hheap', show heap st = _ from hheap]
      exact hkept a ha'

/-! The space in use and the free space of a store whose heap is held. -/

section Held

variable {st : σ} (hheap : heap st = ⟨some z, mem, bytes⟩)
  (H : HoldsLive unit layout mem bytes live z l)
include hheap H

theorem used_units : T.adapter.usedBytes st = usedUnits l * unit.bytes := by
  show (heap st).usedBytes unit = _
  rw [hheap]
  exact (H.tiledHeap T.word).usedBytes_eq

theorem free_units : (heap st).freeBytes unit = freeUnits l * unit.bytes := by
  rw [hheap]
  exact H.freeBytes_eq T.word

omit T in
theorem end_units : (heap st).endBytes unit = extent l * unit.bytes := by
  have hend := H.tiles.end_eq
  rw [hheap]
  show z.endChunk * unit.bytes = extent l * unit.bytes
  rw [← hend, Nat.zero_add]

omit T in
theorem piece_units {a : Nat} (ha : a ∈ live) :
    0 < (heap st).pieceUnits layout a := by
  rw [hheap]
  exact (usedFrom_bounds (H.mem_used ha)).2.1

end Held

end HeapTest

/-- The chunks of the pieces in every state of a run: apart from each other and
from chunk 0, within the heap, and left alone by every call but a create. -/
structure PiecesApart (unit : ChunkUnit) (layout : HeapLayout) (heap : σ → SysHeap)
    (A : Adapter σ) (start : σ) : Prop where
  apart : ∀ c, A.Fresh start c → ∃ z mem bytes, heap c.store = ⟨some z, mem, bytes⟩ ∧
    ((0, z.chunkSize 0) :: z.liveChunks layout mem c.live).Pairwise Apart ∧
    ∀ u ∈ z.liveChunks layout mem c.live, 0 < u.2 ∧ u.1 + u.2 ≤ z.endChunk
  stays : ∀ c call a, A.Fresh start c → (∀ x, call ≠ .createArena x) → a ∈ c.live →
    a ∈ (A.exec c call).2.live →
    (heap (A.exec c call).2.store).pieceUnits layout a = (heap c.store).pieceUnits layout a

/-- The space of the heap in every state of a run: used and free space make up
the heap, whose length is the same after every call; a granted request takes the
space of its piece, which a free gives back, and a refused one takes nothing. -/
structure SpaceConserved (unit : ChunkUnit) (layout : HeapLayout) (heap : σ → SysHeap)
    (A : Adapter σ) (start : σ) : Prop where
  whole : ∀ c, A.Fresh start c →
    A.usedBytes c.store + (heap c.store).freeBytes unit = (heap c.store).endBytes unit
  length : ∀ c c', A.Fresh start c → A.Fresh start c' →
    (heap c.store).endBytes unit = (heap c'.store).endBytes unit
  granted : ∀ c n, A.Fresh start c → (A.exec c (.alloc n)).1 = .granted →
    ∃ a, (A.exec c (.alloc n)).2.live = c.live ++ [a] ∧
      0 < (heap (A.exec c (.alloc n)).2.store).pieceUnits layout a ∧
      A.usedBytes (A.exec c (.alloc n)).2.store = A.usedBytes c.store +
        (heap (A.exec c (.alloc n)).2.store).pieceUnits layout a * unit.bytes
  refused : ∀ c n, A.Fresh start c → (A.exec c (.alloc n)).1 = .refused →
    (A.exec c (.alloc n)).2.live = c.live ∧
      A.usedBytes (A.exec c (.alloc n)).2.store = A.usedBytes c.store
  freed : ∀ c k a, A.Fresh start c → c.live[k]? = some a →
    A.usedBytes (A.exec c (.free k)).2.store + (heap c.store).pieceUnits layout a * unit.bytes =
      A.usedBytes c.store
  round_trip : ∀ c n, A.Fresh start c → (A.exec c (.alloc n)).1 = .granted →
    A.usedBytes (A.exec (A.exec c (.alloc n)).2 (.free c.live.length)).2.store =
      A.usedBytes c.store

namespace HeapTest

variable (T : HeapTest unit layout heap init alloc free createArena W mem bytes)
include T

theorem piecesApart {start : σ} (hW : W start) : PiecesApart unit layout heap T.adapter start where
  apart := by
    intro c hc
    obtain ⟨z, l, hheap, H⟩ := T.fresh_holds hW hc
    have hsize := (H.tiles.of_mem_usedFrom H.chunk0_mem).2
    refine ⟨z, mem, bytes, hheap, ?_, fun u hu => H.within hu⟩
    rw [hsize]
    exact H.apart
  stays := by
    intro c call a hc hcall ha ha'
    obtain ⟨z, l, hheap, H⟩ := T.fresh_holds hW hc
    exact T.exec_keeps hheap H hcall ha ha'

/-- A granted request takes the space of its piece. -/
theorem granted_space {c : Client σ} {n : Nat} (hc : Holds unit layout heap mem bytes c)
    (hreply : (T.adapter.exec c (.alloc n)).1 = .granted) :
    ∃ a, (T.adapter.exec c (.alloc n)).2.live = c.live ++ [a] ∧
      0 < (heap (T.adapter.exec c (.alloc n)).2.store).pieceUnits layout a ∧
      T.adapter.usedBytes (T.adapter.exec c (.alloc n)).2.store = T.adapter.usedBytes c.store +
        (heap (T.adapter.exec c (.alloc n)).2.store).pieceUnits layout a * unit.bytes := by
  obtain ⟨st, live⟩ := c
  obtain ⟨z, l, hheap, H⟩ := hc
  cases hp : (alloc st n).1 with
  | none =>
    rw [Adapter.exec_alloc_none T.adapter hp] at hreply
    cases hreply
  | some a =>
    rw [Adapter.exec_alloc_some T.adapter hp]
    obtain ⟨z', l', hheap', H', -, hkept⟩ := T.alloc_granted hheap H hp
    have ha : a ∈ live ++ [a] := List.mem_append_right _ List.mem_cons_self
    refine ⟨a, rfl, piece_units hheap' H' ha, ?_⟩
    show T.adapter.usedBytes (alloc st n).2 = T.adapter.usedBytes st +
      (heap (alloc st n).2).pieceUnits layout a * unit.bytes
    rw [T.used_units hheap' H', T.used_units hheap H, H'.usedUnits_eq, H.usedUnits_eq,
      sum_liveChunks_append, ZHeap.liveChunks_congr hkept, hheap', ← Nat.add_mul, Nat.add_assoc]
    rfl

/-- A free gives the space of its piece back. -/
theorem freed_space {c : Client σ} {k a : Nat} (hc : Holds unit layout heap mem bytes c)
    (hk : c.live[k]? = some a) : T.adapter.usedBytes (T.adapter.exec c (.free k)).2.store +
      (heap c.store).pieceUnits layout a * unit.bytes = T.adapter.usedBytes c.store := by
  obtain ⟨st, live⟩ := c
  obtain ⟨z, l, hheap, H⟩ := hc
  rw [Adapter.exec_free_some T.adapter hk]
  obtain ⟨z', l', hheap', H', -, hkept⟩ := T.free_taken hheap H hk
  show T.adapter.usedBytes (free st (some a)) + (heap st).pieceUnits layout a * unit.bytes =
    T.adapter.usedBytes st
  rw [T.used_units hheap' H', T.used_units hheap H, H'.usedUnits_eq, H.usedUnits_eq,
    ZHeap.liveChunks_congr hkept, show heap st = _ from hheap, ← Nat.add_mul,
    sum_liveChunks_eraseIdx (z := z) hk, ← Nat.add_assoc]
  rfl

theorem spaceConserved {start : σ} (hW : W start) :
    SpaceConserved unit layout heap T.adapter start where
  whole := by
    intro c hc
    obtain ⟨z, l, hheap, H⟩ := T.fresh_holds hW hc
    rw [T.used_units hheap H, T.free_units hheap H, end_units hheap H, ← Nat.add_mul,
      usedUnits_add_freeUnits]
  length := by
    intro c c' hc hc'
    obtain ⟨z, l, hheap, H, hextent⟩ := T.fresh_whole hW hc
    obtain ⟨z', l', hheap', H', hextent'⟩ := T.fresh_whole hW hc'
    rw [end_units hheap H, end_units hheap' H', hextent, hextent']
  granted := fun c n hc hreply => T.granted_space (T.fresh_holds hW hc) hreply
  refused := by
    intro c n hc hreply
    obtain ⟨st, live⟩ := c
    cases hp : (alloc st n).1 with
    | some a =>
      rw [Adapter.exec_alloc_some T.adapter hp] at hreply
      cases hreply
    | none =>
      rw [Adapter.exec_alloc_none T.adapter hp]
      refine ⟨rfl, ?_⟩
      show (heap (alloc st n).2).usedBytes unit = (heap st).usedBytes unit
      rw [T.contract.alloc_refused st n hp]
  freed := fun c k a hc hk => T.freed_space (T.fresh_holds hW hc) hk
  round_trip := by
    intro c n hc hreply
    have hholds := T.fresh_holds hW hc
    obtain ⟨a, hlive, -, hspace⟩ := T.granted_space hholds hreply
    have hk : (T.adapter.exec c (.alloc n)).2.live[c.live.length]? = some a := by simp [hlive]
    have hfreed := T.freed_space (T.exec_holds c (.alloc n) hholds) hk
    omega

end HeapTest

end Runs

/-! ## 4. The adapters -/

variable (h : Harness) (arena : Nat)

/-- In every state of a run of the three heap adapters the pieces out are apart
from each other and from chunk 0, and stay where they are. -/
theorem heap_pieces_apart (unit : ChunkUnit) :
    (∀ api : SysHeapApi unit, PiecesApart unit api.layout id (SysHeapTest.adapter h arena api)
      SysHeap.initial) ∧
    (∀ api : KHeapApi unit, PiecesApart unit api.layout KHeap.heap
      (KHeapTest.adapter h arena api) ⟨SysHeap.initial⟩) ∧
    ∀ (api : KMallocApi unit) (pool : KMallocTest.Pool h), PiecesApart unit api.layout KHeap.heap
      (KMallocTest.adapter api) pool.systemHeap := by
  refine ⟨fun api => ?_, fun api => ?_, fun api pool => ?_⟩
  · exact (SysHeapTest.heapTest h arena api).piecesApart trivial
  · exact (KHeapTest.heapTest h arena api).piecesApart trivial
  · exact (KMallocTest.heapTest h api pool).piecesApart ⟨rfl, rfl⟩

/-- And no call of the three adapters loses or makes space. -/
theorem heap_space_conserved (unit : ChunkUnit) :
    (∀ api : SysHeapApi unit, SpaceConserved unit api.layout id (SysHeapTest.adapter h arena api)
      SysHeap.initial) ∧
    (∀ api : KHeapApi unit, SpaceConserved unit api.layout KHeap.heap
      (KHeapTest.adapter h arena api) ⟨SysHeap.initial⟩) ∧
    ∀ (api : KMallocApi unit) (pool : KMallocTest.Pool h), SpaceConserved unit api.layout
      KHeap.heap (KMallocTest.adapter api) pool.systemHeap := by
  refine ⟨fun api => ?_, fun api => ?_, fun api pool => ?_⟩
  · exact (SysHeapTest.heapTest h arena api).spaceConserved trivial
  · exact (KHeapTest.heapTest h arena api).spaceConserved trivial
  · exact (KMallocTest.heapTest h api pool).spaceConserved ⟨rfl, rfl⟩

end ZephyrBench.Mem

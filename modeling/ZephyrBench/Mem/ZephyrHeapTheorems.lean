/-
ZephyrBench.Mem.ZephyrHeapTheorems — the space in use is the live chunks.

`heap_walks` has two parts:

  * The walk of every tiled heap ends, visits each chunk once and returns the
    space of the used ones (`TiledHeap.walked`).
  * In every state of a run of the three adapters that begins with a create, the
    heap is tiled and its used chunks are chunk 0 and those handed out; so the
    adapters report the live chunks, whatever the free space between them is cut
    into and in whatever order pieces were freed (`ReportsLive`).

## How the proof goes

A step of the walk goes to the next chunk of the row (`rightChunk_eq`), so what
the loop visits are the starts of the row (`visits_eq`), and the sum over them is
the length of the used chunks (`foldl_addUsed`). All of it is arithmetic of 32
bits that does not wrap, since no part of a heap is longer than its arena.

`HoldsLive` is the invariant of the runs: the row, and that its used chunks are
chunk 0 and those of the pieces out, each with the size that the heap has for it.
`granted` and `freed` are its two steps. That a piece keeps its size while others
come and go is part of them (`Keeps`), and from there the order of frees does not
matter (`free_order`).

The three adapters differ in where the heap is and in what a create does.
`HeapTest` collects what the proof needs of one, and each adapter is an instance.
-/
import ZephyrBench.Mem.ZephyrHeap

namespace ZephyrBench.Mem

/-! ## 1. The walk -/

variable {unit : ChunkUnit} {h : ZHeap} {c : Nat} {l : List Chunk}

namespace ZHeap

/-- A tiling can be cut at a chunk of it. -/
theorem Tiles.suffix {pre post : List Chunk} (ht : h.Tiles c (pre ++ post)) :
    h.Tiles (c + extent pre) post := by
  induction pre generalizing c with
  | nil => exact ht
  | cons x pre ih =>
    obtain ⟨-, -, hrest⟩ := ht
    have hsuffix := ih hrest
    rw [extent, ← Nat.add_assoc]
    exact hsuffix

theorem Tiles.of_mem_usedFrom {u : Nat × Nat} (ht : h.Tiles c l) (hu : u ∈ usedFrom c l) :
    h.chunkUsed u.1 = true ∧ h.chunkSize u.1 = u.2 := by
  obtain ⟨pre, x, post, rfl, hx, rfl⟩ := exists_of_mem_usedFrom hu
  obtain ⟨hsize, hused, -⟩ := ht.suffix
  exact ⟨hused.trans hx, hsize⟩

theorem Tiles.mem_used {p : Nat} (ht : h.Tiles c l) :
    p ∈ (usedFrom c l).map Prod.fst ↔ p ∈ startsFrom c l ∧ h.chunkUsed p = true := by
  induction l generalizing c with
  | nil => exact ⟨fun hp => absurd hp List.not_mem_nil, fun hp => absurd hp.1 List.not_mem_nil⟩
  | cons x l ih =>
    obtain ⟨-, hused, hrest⟩ := ht
    rw [startsFrom, List.mem_cons]
    cases hx : x.used with
    | false =>
      rw [usedFrom_cons_free hx, ih hrest]
      refine ⟨fun hp => ⟨Or.inr hp.1, hp.2⟩, ?_⟩
      rintro ⟨rfl | hp, husedp⟩
      · rw [hused, hx] at husedp
        exact absurd husedp Bool.false_ne_true
      · exact ⟨hp, husedp⟩
    | true =>
      rw [usedFrom_cons_used hx, List.map_cons, List.mem_cons, ih hrest]
      refine ⟨?_, fun hp => hp.1.imp_right fun hmem => ⟨hmem, hp.2⟩⟩
      rintro (rfl | hp)
      · exact ⟨Or.inl rfl, hused.trans hx⟩
      · exact ⟨Or.inr hp.1, hp.2⟩

/-- The length of the used chunks among `cs`. -/
def unitsOf (h : ZHeap) (cs : List Nat) : Nat := ((cs.filter h.chunkUsed).map h.chunkSize).sum

theorem unitsOf_cons (cs : List Nat) :
    h.unitsOf (c :: cs) = (if h.chunkUsed c then h.chunkSize c else 0) + h.unitsOf cs := by
  unfold unitsOf
  rw [List.filter_cons]
  split
  · rw [List.map_cons, List.sum_cons]
  · rw [Nat.zero_add]

theorem unitsOf_append (cs ds : List Nat) : h.unitsOf (cs ++ ds) = h.unitsOf cs + h.unitsOf ds := by
  unfold unitsOf
  rw [List.filter_append, List.map_append, List.sum_append]

theorem Tiles.unitsOf_eq (ht : h.Tiles c l) : h.unitsOf (startsFrom c l) = usedUnits l := by
  induction l generalizing c with
  | nil => rfl
  | cons x l ih =>
    obtain ⟨hsize, hused, hrest⟩ := ht
    rw [startsFrom, unitsOf_cons, hsize, hused, ih hrest]
    cases hx : x.used with
    | false => rw [usedUnits_cons_free hx, if_neg Bool.false_ne_true, Nat.zero_add]
    | true => rw [usedUnits_cons_used hx, if_pos rfl]

end ZHeap

theorem sizeT_of_lt {n : Nat} (hn : n < 2 ^ 32) : sizeT n = n := Nat.mod_eq_of_lt hn

/-- A step of the walk goes to the next chunk of the row. -/
theorem rightChunk_eq {x : Chunk} (hword : h.endChunk * unit.bytes < 2 ^ 32)
    (ht : h.Tiles c (x :: l)) : c < h.endChunk ∧ h.rightChunk c = c + x.size := by
  have hend := ht.end_eq
  have hpos := x.size_pos
  have hunit := Nat.le_mul_of_pos_right h.endChunk unit.bytes_pos
  rw [extent] at hend
  refine ⟨by omega, ?_⟩
  unfold ZHeap.rightChunk
  rw [ht.1]
  exact sizeT_of_lt (by omega)

theorem visits_eq (hword : h.endChunk * unit.bytes < 2 ^ 32) (ht : h.Tiles c l) {fuel : Nat}
    (hfuel : l.length ≤ fuel) : visits h fuel c = startsFrom c l := by
  induction fuel generalizing c l with
  | zero =>
    rw [List.length_eq_zero_iff.mp (Nat.le_zero.mp hfuel)]
    rfl
  | succ fuel ih =>
    cases l with
    | nil =>
      have hend : ¬ c < h.endChunk := Nat.not_lt.mpr (Nat.le_of_eq (Eq.symm ht))
      rw [visits, if_neg hend]
      rfl
    | cons x l =>
      obtain ⟨hlt, hright⟩ := rightChunk_eq hword ht
      rw [visits, if_pos hlt, hright, startsFrom, ih ht.2.2 (Nat.le_of_succ_le_succ hfuel)]

/-- The loop adds the chunks that it visits, one after the other. -/
theorem usedLoop_visits (fuel c total : Nat) : usedLoop unit h fuel c total =
    if (visits h fuel c).length < fuel then some ((visits h fuel c).foldl (addUsed unit h) total)
    else none := by
  induction fuel generalizing c total with
  | zero => rfl
  | succ fuel ih =>
    unfold usedLoop visits
    by_cases hlt : c < h.endChunk
    · rw [if_pos hlt, if_pos hlt, ih, List.length_cons, List.foldl_cons]
      simp only [Nat.add_lt_add_iff_right]
    · rw [if_neg hlt, if_neg hlt]
      rfl

/-- The used chunks of the row are added up, and none of the sums wraps. -/
theorem foldl_addUsed {total : Nat} (ht : h.Tiles c l)
    (hsum : total + usedUnits l * unit.bytes < 2 ^ 32) :
    (startsFrom c l).foldl (addUsed unit h) total = total + usedUnits l * unit.bytes := by
  induction l generalizing c total with
  | nil => rw [startsFrom, List.foldl_nil, usedUnits, Nat.zero_mul, Nat.add_zero]
  | cons x l ih =>
    obtain ⟨hsize, hused, hrest⟩ := ht
    rw [startsFrom, List.foldl_cons, addUsed, hused]
    cases hx : x.used with
    | false =>
      rw [usedUnits_cons_free hx] at hsum ⊢
      rw [if_neg Bool.false_ne_true]
      exact ih hrest hsum
    | true =>
      rw [usedUnits_cons_used hx, Nat.add_mul, ← Nat.add_assoc] at hsum ⊢
      have hbytes : h.chunkBytes unit c = x.size * unit.bytes := by
        unfold ZHeap.chunkBytes
        rw [hsize]
        exact sizeT_of_lt (by omega)
      have htotal : sizeT (total + x.size * unit.bytes) = total + x.size * unit.bytes :=
        sizeT_of_lt (by omega)
      rw [if_pos rfl, hbytes, htotal]
      exact ih hrest hsum

/-! ## 2. Tiled heaps -/

namespace ZHeap

/-- The chunks of a row are those that its first one reaches. -/
theorem Tiles.reaches {p : Nat} (hword : h.endChunk * unit.bytes < 2 ^ 32) (ht : h.Tiles c l)
    (hc : c < h.endChunk → h.Reaches c) (hp : p ∈ startsFrom c l) : h.Reaches p := by
  induction l generalizing c with
  | nil => exact absurd hp List.not_mem_nil
  | cons x l ih =>
    obtain ⟨hlt, hright⟩ := rightChunk_eq hword ht
    rw [startsFrom, List.mem_cons] at hp
    rcases hp with rfl | hp
    · exact hc hlt
    · refine ih ht.2.2 ?_ hp
      intro hnext
      rw [← hright] at hnext ⊢
      exact .right (hc hlt) hnext

/-- To the right of a chunk of the row is the next one, or the end. -/
theorem Tiles.right_mem {p : Nat} (hword : h.endChunk * unit.bytes < 2 ^ 32) (ht : h.Tiles c l)
    (hp : p ∈ startsFrom c l) (hlt : h.rightChunk p < h.endChunk) :
    h.rightChunk p ∈ startsFrom c l := by
  obtain ⟨pre, x, post, rfl, rfl⟩ := exists_of_mem_startsFrom hp
  have hsuffix := ht.suffix
  obtain ⟨-, hright⟩ := rightChunk_eq hword hsuffix
  have hend := hsuffix.2.2.end_eq
  rw [hright] at hlt ⊢
  cases post with
  | nil =>
    rw [extent] at hend
    omega
  | cons y post =>
    rw [startsFrom_append, startsFrom, startsFrom]
    exact List.mem_append_right _ (List.mem_cons_of_mem _ List.mem_cons_self)

end ZHeap

/-- What the readers of a heap do: the walk ends, it visits the chunks `cs`, which
are those of the heap, each once, and adds them up. -/
structure Walked (t : TiledHeap unit) (cs : List Nat) : Prop where
  nodup : cs.Nodup
  mem_iff : ∀ p, p ∈ cs ↔ t.heap.Reaches p
  order : ∀ fuel, cs.length ≤ fuel → visits t.heap fuel 0 = cs
  adds : ∀ fuel, memZephyrHeapUsedBytes unit fuel t.sysHeap =
    if (visits t.heap fuel 0).length < fuel then
      some ((visits t.heap fuel 0).foldl (addUsed unit t.heap) 0)
    else none
  returns : ∀ fuel, cs.length < fuel →
    memZephyrHeapUsedBytes unit fuel t.sysHeap = some (t.heap.unitsOf cs * unit.bytes)
  usedBytes : t.sysHeap.usedBytes unit = t.heap.unitsOf cs * unit.bytes
  right_eq : ∀ p ∈ cs, t.heap.rightChunk p = p + t.heap.chunkSize p
  chunk_lt : ∀ p ∈ cs, t.heap.chunkSize p * unit.bytes < 2 ^ 32
  total_lt : ∀ pre post, cs = pre ++ post → t.heap.unitsOf pre * unit.bytes < 2 ^ 32
  fixed_le : memZephyrHeapFixedBytes unit t.sysHeap ≤ t.sysHeap.usedBytes unit
  used_le : t.sysHeap.usedBytes unit ≤ t.heap.endChunk * unit.bytes
  end_le : t.heap.endChunk * unit.bytes ≤ memZephyrHeapRealArena t.sysHeap
  fixed_iff : t.sysHeap.usedBytes unit = memZephyrHeapFixedBytes unit t.sysHeap ↔
    ∀ p, t.heap.Reaches p → t.heap.chunkUsed p = true → p = 0

namespace TiledHeap

variable (t : TiledHeap unit)

/-- The chunks, in the order of the walk. -/
def chunks : List Nat := startsFrom 0 t.row

theorem end_lt : t.heap.endChunk * unit.bytes < 2 ^ 32 := Nat.lt_of_le_of_lt t.fits t.word

theorem extent_row : extent t.row = t.heap.endChunk := by
  have hend := t.tiles.end_eq
  omega

theorem length_row_le : t.row.length ≤ t.heap.endChunk :=
  (length_le_extent t.row).trans (Nat.le_of_eq t.extent_row)

theorem length_chunks : t.chunks.length = t.row.length := length_startsFrom 0 t.row

theorem unitsOf_chunks : t.heap.unitsOf t.chunks = usedUnits t.row := t.tiles.unitsOf_eq

/-- Chunk 0 is the first of the row. -/
theorem row_eq : ∃ x l, t.row = x :: l ∧ x.used = true ∧ t.heap.chunkSize 0 = x.size := by
  have ht := t.tiles
  cases hrow : t.row with
  | nil =>
    rw [hrow] at ht
    exact absurd t.end_pos (Nat.not_lt.mpr (Nat.le_of_eq (Eq.symm ht)))
  | cons x l =>
    rw [hrow] at ht
    exact ⟨x, l, rfl, ht.2.1.symm.trans t.header, ht.1⟩

theorem mem_chunks (p : Nat) : p ∈ t.chunks ↔ t.heap.Reaches p := by
  constructor
  · exact t.tiles.reaches t.end_lt .first
  · intro hp
    induction hp with
    | first hend =>
      obtain ⟨x, l, hrow, -, -⟩ := t.row_eq
      unfold chunks
      rw [hrow, startsFrom]
      exact List.mem_cons_self
    | right _ hlt ih => exact t.tiles.right_mem t.end_lt ih hlt

/-- A chunk of the heap ends within it. -/
theorem chunk_bounds {p : Nat} (hp : p ∈ t.chunks) :
    t.heap.rightChunk p = p + t.heap.chunkSize p ∧ p + t.heap.chunkSize p ≤ t.heap.endChunk := by
  obtain ⟨pre, x, post, hrow, rfl⟩ := exists_of_mem_startsFrom hp
  have hsuffix := (hrow ▸ t.tiles).suffix
  obtain ⟨-, hright⟩ := rightChunk_eq t.end_lt hsuffix
  have hend := hsuffix.2.2.end_eq
  rw [hsuffix.1]
  exact ⟨hright, by omega⟩

theorem used_le_end : usedUnits t.row * unit.bytes ≤ t.heap.endChunk * unit.bytes :=
  Nat.mul_le_mul_right _ ((usedUnits_le t.row).trans (Nat.le_of_eq t.extent_row))

theorem usedBytes_loop {fuel : Nat} (hfuel : t.row.length < fuel) :
    memZephyrHeapUsedBytes unit fuel t.sysHeap = some (usedUnits t.row * unit.bytes) := by
  have hsum : 0 + usedUnits t.row * unit.bytes < 2 ^ 32 := by
    rw [Nat.zero_add]
    exact t.used_le_end.trans_lt t.end_lt
  have hvisits : visits t.heap fuel 0 = t.chunks :=
    visits_eq t.end_lt t.tiles (Nat.le_of_lt hfuel)
  have hlen : (visits t.heap fuel 0).length < fuel := by
    rw [hvisits, length_chunks]
    exact hfuel
  have hfold : t.chunks.foldl (addUsed unit t.heap) 0 = 0 + usedUnits t.row * unit.bytes :=
    foldl_addUsed t.tiles hsum
  show usedLoop unit t.heap fuel 0 0 = _
  rw [usedLoop_visits, if_pos hlen, hvisits, hfold, Nat.zero_add]

theorem usedBytes_eq : t.sysHeap.usedBytes unit = usedUnits t.row * unit.bytes := by
  have hfuel : t.row.length < t.sysHeap.walkFuel := Nat.lt_succ_of_le t.length_row_le
  unfold SysHeap.usedBytes
  rw [t.usedBytes_loop hfuel, Option.getD_some]

theorem chunk_lt {p : Nat} (hp : p ∈ t.chunks) : t.heap.chunkSize p * unit.bytes < 2 ^ 32 := by
  obtain ⟨-, hle⟩ := t.chunk_bounds hp
  exact (Nat.mul_le_mul_right _ (by omega)).trans_lt t.end_lt

theorem fixedBytes_eq :
    memZephyrHeapFixedBytes unit t.sysHeap = t.heap.chunkSize 0 * unit.bytes :=
  sizeT_of_lt (t.chunk_lt ((t.mem_chunks 0).mpr (.first t.end_pos)))

theorem usedUnits_row : usedUnits t.row = t.heap.chunkSize 0 + usedUnits t.row.tail := by
  obtain ⟨x, l, hrow, hx, hsize⟩ := t.row_eq
  rw [hrow, usedUnits_cons_used hx, hsize, List.tail_cons]

theorem usedFrom_row :
    usedFrom 0 t.row = (0, t.heap.chunkSize 0) :: usedFrom (t.heap.chunkSize 0) t.row.tail := by
  obtain ⟨x, l, hrow, hx, hsize⟩ := t.row_eq
  rw [hrow, usedFrom_cons_used hx, hsize, Nat.zero_add, List.tail_cons]

/-- Besides chunk 0, the used chunks are those of the rest of the row. -/
theorem mem_used (p : Nat) : t.heap.Reaches p ∧ t.heap.chunkUsed p = true ↔
    p = 0 ∨ p ∈ (usedFrom (t.heap.chunkSize 0) t.row.tail).map Prod.fst := by
  have hiff : p ∈ (usedFrom 0 t.row).map Prod.fst ↔ p ∈ t.chunks ∧ t.heap.chunkUsed p = true :=
    t.tiles.mem_used
  rw [usedFrom_row, List.map_cons, List.mem_cons, t.mem_chunks p] at hiff
  exact hiff.symm

/-- Only chunk 0 is used exactly when it is all there is in use. -/
theorem usedUnits_eq_iff : usedUnits t.row = t.heap.chunkSize 0 ↔
    ∀ p, t.heap.Reaches p → t.heap.chunkUsed p = true → p = 0 := by
  constructor
  · intro heq p hp husedp
    have hzero : usedUnits t.row.tail = 0 := by
      rw [usedUnits_row] at heq
      omega
    rcases (t.mem_used p).mp ⟨hp, husedp⟩ with hfirst | hrest
    · exact hfirst
    · rw [usedFrom_eq_nil _ hzero] at hrest
      exact absurd hrest List.not_mem_nil
  · intro hall
    have hnodup := nodup_usedFrom 0 t.row
    rw [usedFrom_row, List.map_cons, List.nodup_cons] at hnodup
    have hnil : usedFrom (t.heap.chunkSize 0) t.row.tail = [] := by
      rw [List.eq_nil_iff_forall_not_mem]
      intro u hu
      have hfst : u.1 ∈ (usedFrom (t.heap.chunkSize 0) t.row.tail).map Prod.fst :=
        List.mem_map_of_mem hu
      obtain ⟨hreach, husedu⟩ := (t.mem_used u.1).mpr (Or.inr hfst)
      rw [hall u.1 hreach husedu] at hfst
      exact hnodup.1 hfst
    rw [usedUnits_row, ← sum_usedFrom (t.heap.chunkSize 0) t.row.tail, hnil, List.map_nil,
      List.sum_nil, Nat.add_zero]

/-- **The walk of a tiled heap** visits each of its chunks once and returns the
space of the used ones. -/
theorem walked : Walked t t.chunks where
  nodup := nodup_startsFrom 0 t.row
  mem_iff := t.mem_chunks
  order := by
    intro fuel hfuel
    rw [length_chunks] at hfuel
    exact visits_eq t.end_lt t.tiles hfuel
  adds := fun fuel => usedLoop_visits fuel 0 0
  returns := by
    intro fuel hfuel
    rw [length_chunks] at hfuel
    rw [t.usedBytes_loop hfuel, unitsOf_chunks]
  usedBytes := by rw [usedBytes_eq, unitsOf_chunks]
  right_eq := fun _ hp => (t.chunk_bounds hp).1
  chunk_lt := fun _ hp => t.chunk_lt hp
  total_lt := by
    intro pre post hsplit
    have hle : t.heap.unitsOf pre ≤ usedUnits t.row := by
      rw [← t.unitsOf_chunks, hsplit, ZHeap.unitsOf_append]
      exact Nat.le_add_right _ _
    exact (Nat.mul_le_mul_right _ hle).trans_lt (t.used_le_end.trans_lt t.end_lt)
  fixed_le := by
    rw [usedBytes_eq, fixedBytes_eq, usedUnits_row]
    exact Nat.mul_le_mul_right _ (Nat.le_add_right _ _)
  used_le := by
    rw [usedBytes_eq]
    exact t.used_le_end
  end_le := t.fits
  fixed_iff := by
    rw [usedBytes_eq, fixedBytes_eq, Nat.mul_left_inj (Nat.ne_of_gt unit.bytes_pos)]
    exact t.usedUnits_eq_iff

end TiledHeap

/-! ## 3. Calls -/

variable {layout : HeapLayout} {z z' : ZHeap} {l' : List Chunk} {live : List Nat} {mem bytes : Nat}

/-- The chunks that the pieces `live` were handed out for, each with its size. -/
def ZHeap.liveChunks (layout : HeapLayout) (mem : Nat) (z : ZHeap) (live : List Nat) :
    List (Nat × Nat) :=
  live.map fun a => (layout.chunkOf mem a, z.chunkSize (layout.chunkOf mem a))

/-- The chunks of the pieces out, with the sizes that the heap has for them. -/
def SysHeap.liveChunks (layout : HeapLayout) (heap : SysHeap) (live : List Nat) :
    List (Nat × Nat) :=
  match heap.heap with
  | none => []
  | some z => z.liveChunks layout heap.initMem live

theorem ZHeap.liveChunks_congr (hsize : ∀ a ∈ live,
    z'.chunkSize (layout.chunkOf mem a) = z.chunkSize (layout.chunkOf mem a)) :
    z'.liveChunks layout mem live = z.liveChunks layout mem live := by
  unfold ZHeap.liveChunks
  refine List.map_congr_left ?_
  intro a ha
  rw [hsize a ha]

/-- The heap `z`, laid out in the `bytes` bytes at `mem`, is tiled by `l`, and
its used chunks are chunk 0 and those of the pieces `live`. -/
structure HoldsLive (unit : ChunkUnit) (layout : HeapLayout) (mem bytes : Nat) (live : List Nat)
    (z : ZHeap) (l : List Chunk) : Prop where
  tiles : z.Tiles 0 l
  end_le : z.endChunk * unit.bytes ≤ bytes
  used : (usedFrom 0 l).Perm ((0, (layout.chunk0 mem bytes).size) :: z.liveChunks layout mem live)

namespace HoldsLive

variable (H : HoldsLive unit layout mem bytes live z l)
include H

theorem mem_used {a : Nat} (ha : a ∈ live) :
    (layout.chunkOf mem a, z.chunkSize (layout.chunkOf mem a)) ∈ usedFrom 0 l :=
  H.used.mem_iff.mpr (List.mem_cons_of_mem _ (List.mem_map_of_mem ha))

/-- No two pieces have one chunk, and none has chunk 0. -/
theorem nodup : (0 :: live.map (layout.chunkOf mem)).Nodup := by
  have hnodup := (H.used.map Prod.fst).nodup_iff.mp (nodup_usedFrom 0 l)
  rw [List.map_cons, ZHeap.liveChunks, List.map_map] at hnodup
  exact hnodup

theorem nodup_liveChunks : (z.liveChunks layout mem live).Nodup := by
  have hnodup := (List.nodup_cons.mp H.nodup).2
  refine List.Nodup.of_map Prod.fst ?_
  unfold ZHeap.liveChunks
  rw [List.map_map]
  exact hnodup

theorem chunkOf_pos {a : Nat} (ha : a ∈ live) : 0 < layout.chunkOf mem a := by
  have hnot := (List.nodup_cons.mp H.nodup).1
  rw [Nat.pos_iff_ne_zero]
  intro hzero
  exact hnot (hzero ▸ List.mem_map_of_mem ha)

/-- A row of the same length fits as well. -/
theorem end_le_of (ht : z'.Tiles 0 l') (hextent : extent l' = extent l) :
    z'.endChunk * unit.bytes ≤ bytes := by
  have hold := H.tiles.end_eq
  have hnew := ht.end_eq
  have hend : z'.endChunk = z.endChunk := by omega
  rw [hend]
  exact H.end_le

/-- An allocation adds the chunk that it hands out. -/
theorem granted {a : Nat} (ht : z'.Tiles 0 l') (halloc : Allocates (layout.chunkOf mem a) l l') :
    HoldsLive unit layout mem bytes (live ++ [a]) z' l' := by
  obtain ⟨n, hperm⟩ := halloc.usedFrom_perm
  have hsize : z'.chunkSize (layout.chunkOf mem a) = n :=
    (ht.of_mem_usedFrom (hperm.mem_iff.mpr List.mem_cons_self)).2
  have hkept : z'.liveChunks layout mem live = z.liveChunks layout mem live := by
    refine ZHeap.liveChunks_congr ?_
    intro b hb
    have hused := hperm.mem_iff.mpr (List.mem_cons_of_mem _ (H.mem_used hb))
    exact (ht.of_mem_usedFrom hused).2
  have hlive : z'.liveChunks layout mem (live ++ [a]) =
      z.liveChunks layout mem live ++ [(layout.chunkOf mem a, n)] := by
    rw [← hkept, ← hsize]
    exact List.map_append
  refine ⟨ht, ?_, ?_⟩
  · exact H.end_le_of ht halloc.extent_eq
  · rw [hlive]
    have hfirst := hperm.trans (H.used.cons (layout.chunkOf mem a, n))
    exact hfirst.trans (List.perm_append_singleton _ ((0, _) :: _)).symm

/-- A free takes its chunk back, and the other pieces keep theirs. -/
theorem freed {a k : Nat} (hk : live[k]? = some a) (ht : z'.Tiles 0 l')
    (hfree : Frees (layout.chunkOf mem a) l l') :
    HoldsLive unit layout mem bytes (live.eraseIdx k) z' l' ∧
      ∀ b ∈ live.eraseIdx k,
        z'.chunkSize (layout.chunkOf mem b) = z.chunkSize (layout.chunkOf mem b) := by
  obtain ⟨n, hperm⟩ := hfree.usedFrom_perm
  obtain ⟨hlt, rfl⟩ := List.getElem?_eq_some_iff.mp hk
  have hlive : (live[k] :: live.eraseIdx k).Perm live := List.getElem_cons_eraseIdx_perm hlt
  have hsize : z.chunkSize (layout.chunkOf mem live[k]) = n :=
    (H.tiles.of_mem_usedFrom (hperm.mem_iff.mpr List.mem_cons_self)).2
  have hused : (usedFrom 0 l').Perm
      ((0, (layout.chunk0 mem bytes).size) :: z.liveChunks layout mem (live.eraseIdx k)) := by
    have hchunks : (z.liveChunks layout mem live).Perm
        ((layout.chunkOf mem live[k], n) :: z.liveChunks layout mem (live.eraseIdx k)) := by
      rw [← hsize]
      exact (hlive.map _).symm
    have hall := hperm.symm.trans (H.used.trans (hchunks.cons _))
    exact (hall.trans (List.Perm.swap _ _ _)).cons_inv
  have hkept : ∀ b ∈ live.eraseIdx k,
      z'.chunkSize (layout.chunkOf mem b) = z.chunkSize (layout.chunkOf mem b) := by
    intro b hb
    have hstill := hused.mem_iff.mpr (List.mem_cons_of_mem _ (List.mem_map_of_mem hb))
    exact (ht.of_mem_usedFrom hstill).2
  refine ⟨⟨ht, ?_, ?_⟩, hkept⟩
  · exact H.end_le_of ht hfree.extent_eq
  · rw [ZHeap.liveChunks_congr hkept]
    exact hused

theorem chunk0_mem : (0, (layout.chunk0 mem bytes).size) ∈ usedFrom 0 l :=
  H.used.mem_iff.mpr List.mem_cons_self

theorem end_pos : 0 < z.endChunk := by
  obtain ⟨pre, x, post, rfl, -, -⟩ := exists_of_mem_usedFrom H.chunk0_mem
  have hend := H.tiles.end_eq
  have hpos := x.size_pos
  rw [extent_append, extent] at hend
  omega

/-- The heap that is held is one that the readers walk. -/
def tiledHeap (hword : bytes < 2 ^ 32) : TiledHeap unit where
  heap := z
  initMem := mem
  initBytes := bytes
  row := l
  tiles := H.tiles
  end_pos := H.end_pos
  header := (H.tiles.of_mem_usedFrom H.chunk0_mem).1
  fits := H.end_le
  word := hword

theorem usedUnits_eq : usedUnits l =
    (layout.chunk0 mem bytes).size + ((z.liveChunks layout mem live).map Prod.snd).sum := by
  have hsum := (H.used.map Prod.snd).sum_nat
  rw [sum_usedFrom, List.map_cons, List.sum_cons] at hsum
  exact hsum

/-- The adapters report the fixed space. -/
theorem fixedBytes_eq (hword : bytes < 2 ^ 32) :
    memZephyrHeapFixedBytes unit ⟨some z, mem, bytes⟩ =
      (layout.chunk0 mem bytes).size * unit.bytes := by
  have hfixed := (H.tiledHeap hword).fixedBytes_eq
  have hsize := (H.tiles.of_mem_usedFrom H.chunk0_mem).2
  rw [show (H.tiledHeap hword).heap.chunkSize 0 = _ from hsize] at hfixed
  exact hfixed

/-- The adapters report the fixed space and that of the pieces out. -/
theorem usedBytes_eq (hword : bytes < 2 ^ 32) :
    SysHeap.usedBytes unit ⟨some z, mem, bytes⟩ = ((layout.chunk0 mem bytes).size +
      ((z.liveChunks layout mem live).map Prod.snd).sum) * unit.bytes := by
  rw [← H.usedUnits_eq]
  exact (H.tiledHeap hword).usedBytes_eq

end HoldsLive

/-- A heap as it is laid out has chunk 0 used. -/
theorem holdsLive_initial (ht : z.Tiles 0 [layout.chunk0 mem bytes, layout.rest mem bytes])
    (hend : z.endChunk * unit.bytes ≤ bytes) :
    HoldsLive unit layout mem bytes [] z [layout.chunk0 mem bytes, layout.rest mem bytes] := by
  refine ⟨ht, hend, ?_⟩
  rw [usedFrom_cons_used (layout.chunk0_used mem bytes),
    usedFrom_cons_free (layout.rest_free mem bytes)]
  exact List.Perm.refl _

/-! ## 4. Runs -/

section Runs

variable {σ : Type}

/-- The caller after a create and calls that follow it. -/
inductive Adapter.Fresh (A : Adapter σ) (start : σ) : Client σ → Prop
  | run (x : SweepStep) (calls : List Call) :
    A.Fresh start (answers A.exec ⟨start, []⟩ (.createArena x :: calls)).2

/-- The caller frees pieces one after the other. -/
def Adapter.frees (A : Adapter σ) (c : Client σ) (ks : List Nat) : Client σ :=
  (answers A.exec c (ks.map .free)).2

/-- What a caller sees of a heap after a create and calls that follow it: the
heap is tiled, its used chunks are chunk 0 and those of the pieces out, and the
space in use follows from these alone. -/
structure ReportsLive (unit : ChunkUnit) (layout : HeapLayout) (heap : σ → SysHeap)
    (A : Adapter σ) (start : σ) : Prop where
  tiled : ∀ c, A.Fresh start c → ∃ t : TiledHeap unit, heap c.store = t.sysHeap ∧
    ∀ p, t.heap.Reaches p ∧ t.heap.chunkUsed p = true ↔
      p = 0 ∨ p ∈ c.live.map (layout.chunkOf (heap c.store).initMem)
  space : ∀ c, A.Fresh start c → A.usedBytes c.store = A.fixedBytes c.store +
    (((heap c.store).liveChunks layout c.live).map Prod.snd).sum * unit.bytes
  live_only : ∀ c c', A.Fresh start c → A.Fresh start c' →
    (∀ u, u ∈ (heap c.store).liveChunks layout c.live ↔
      u ∈ (heap c'.store).liveChunks layout c'.live) →
    A.usedBytes c.store = A.usedBytes c'.store
  free_order : ∀ c, A.Fresh start c → ∀ ks js,
    (∀ a, a ∈ (A.frees c ks).live ↔ a ∈ (A.frees c js).live) →
    A.usedBytes (A.frees c ks).store = A.usedBytes (A.frees c js).store
  emptied : ∀ c, A.Fresh start c → c.live = [] → A.usedBytes c.store = A.fixedBytes c.store

variable {heap : σ → SysHeap} {init : σ → Nat → Nat → σ} {alloc : σ → Nat → Ptr × σ}
  {free : σ → Ptr → σ} {createArena : Nat → σ → σ} {W : σ → Prop}

/-- An adapter whose heap functions keep their contract, and whose create lays
the heap out in the `bytes` bytes at `mem` whenever `W` holds. -/
structure HeapTest (unit : ChunkUnit) (layout : HeapLayout) (heap : σ → SysHeap)
    (init : σ → Nat → Nat → σ) (alloc : σ → Nat → Ptr × σ) (free : σ → Ptr → σ)
    (createArena : Nat → σ → σ) (W : σ → Prop) (mem bytes : Nat) : Prop where
  contract : HeapContract unit layout heap init alloc free
  large : memSizeOfS memSMax ≤ bytes
  word : bytes < 2 ^ 32
  createArena_eq : ∀ granularity st, W st → createArena granularity st = init st mem bytes
  keeps : ∀ st z, heap st = ⟨some z, mem, bytes⟩ → W st

/-- The caller holds the pieces of the heap. -/
def Holds (unit : ChunkUnit) (layout : HeapLayout) (heap : σ → SysHeap) (mem bytes : Nat)
    (c : Client σ) : Prop :=
  ∃ z l, heap c.store = ⟨some z, mem, bytes⟩ ∧ HoldsLive unit layout mem bytes c.live z l

/-- The pieces `live'` are among `live`, with the sizes that they had. -/
def Keeps (layout : HeapLayout) (mem : Nat) (live live' : List Nat) (z z' : ZHeap) : Prop :=
  ∀ a ∈ live', a ∈ live ∧ z'.chunkSize (layout.chunkOf mem a) = z.chunkSize (layout.chunkOf mem a)

namespace HeapTest

variable (T : HeapTest unit layout heap init alloc free createArena W mem bytes)

/-- The adapter. -/
abbrev adapter (_T : HeapTest unit layout heap init alloc free createArena W mem bytes) :
    Adapter σ :=
  heapAdapter unit heap createArena (fun n st => alloc st n) (fun a st => free st a)

include T

theorem createArena_holds {st : σ} (hW : W st) (granularity : Nat) :
    Holds unit layout heap mem bytes ⟨createArena granularity st, []⟩ := by
  rw [T.createArena_eq granularity st hW]
  obtain ⟨z, hheap, ht, hend⟩ := T.contract.init_lays_out st mem bytes T.large
  exact ⟨z, _, hheap, holdsLive_initial ht hend⟩

theorem alloc_holds {st : σ} {live : List Nat} (n : Nat)
    (hc : Holds unit layout heap mem bytes ⟨st, live⟩) :
    Holds unit layout heap mem bytes (T.adapter.exec ⟨st, live⟩ (.alloc n)).2 := by
  obtain ⟨z, l, hheap, H⟩ := hc
  cases hp : (alloc st n).1 with
  | none =>
    rw [Adapter.exec_alloc_none T.adapter hp]
    exact ⟨z, l, (T.contract.alloc_refused st n hp).trans hheap, H⟩
  | some a =>
    rw [Adapter.exec_alloc_some T.adapter hp]
    obtain ⟨z', l', hheap', ht, halloc⟩ :=
      T.contract.alloc_granted st z l mem bytes n a hheap H.tiles hp
    exact ⟨z', l', hheap', H.granted ht halloc⟩

/-- A free keeps the sizes of the pieces that stay out. -/
theorem free_holds (c : Client σ) (k : Nat) (hheap : heap c.store = ⟨some z, mem, bytes⟩)
    (H : HoldsLive unit layout mem bytes c.live z l) :
    ∃ z' l', heap (T.adapter.exec c (.free k)).2.store = ⟨some z', mem, bytes⟩ ∧
      HoldsLive unit layout mem bytes (T.adapter.exec c (.free k)).2.live z' l' ∧
      Keeps layout mem c.live (T.adapter.exec c (.free k)).2.live z z' := by
  obtain ⟨st, live⟩ := c
  cases hk : live[k]? with
  | none =>
    rw [Adapter.exec_free_none T.adapter hk]
    exact ⟨z, l, hheap, H, fun a ha => ⟨ha, rfl⟩⟩
  | some a =>
    rw [Adapter.exec_free_some T.adapter hk]
    have ha : a ∈ live := List.mem_of_getElem? hk
    obtain ⟨z', l', hheap', ht, hfree⟩ := T.contract.free_used st z l mem bytes a _ hheap H.tiles
      (H.chunkOf_pos ha) (H.mem_used ha)
    obtain ⟨H', hsize⟩ := H.freed hk ht hfree
    exact ⟨z', l', hheap', H', fun b hb => ⟨List.mem_of_mem_eraseIdx hb, hsize b hb⟩⟩

/-- Every call keeps the pieces of the heap with the caller. -/
theorem exec_holds (c : Client σ) (call : Call) (hc : Holds unit layout heap mem bytes c) :
    Holds unit layout heap mem bytes (T.adapter.exec c call).2 := by
  obtain ⟨st, live⟩ := c
  cases call with
  | createArena x =>
    obtain ⟨z, l, hheap, -⟩ := hc
    exact T.createArena_holds (T.keeps st z hheap) _
  | destroyArena => exact hc
  | trimStore => exact hc
  | alloc n => exact T.alloc_holds n hc
  | free k =>
    obtain ⟨z, l, hheap, H⟩ := hc
    obtain ⟨z', l', hheap', H', -⟩ := T.free_holds ⟨st, live⟩ k hheap H
    exact ⟨z', l', hheap', H'⟩

/-- A run of frees keeps the sizes of the pieces that stay out. -/
theorem frees_hold (c : Client σ) (ks : List Nat) (hheap : heap c.store = ⟨some z, mem, bytes⟩)
    (H : HoldsLive unit layout mem bytes c.live z l) :
    ∃ z' l', heap (T.adapter.frees c ks).store = ⟨some z', mem, bytes⟩ ∧
      HoldsLive unit layout mem bytes (T.adapter.frees c ks).live z' l' ∧
      Keeps layout mem c.live (T.adapter.frees c ks).live z z' := by
  induction ks generalizing c z l with
  | nil => exact ⟨z, l, hheap, H, fun a ha => ⟨ha, rfl⟩⟩
  | cons k ks ih =>
    obtain ⟨z₁, l₁, hheap₁, H₁, hkeeps⟩ := T.free_holds c k hheap H
    obtain ⟨z', l', hheap', H', hrest⟩ := ih _ hheap₁ H₁
    refine ⟨z', l', hheap', H', ?_⟩
    intro a ha
    obtain ⟨hmem₁, hsize₁⟩ := hrest a ha
    obtain ⟨hmem, hsize⟩ := hkeeps a hmem₁
    exact ⟨hmem, hsize₁.trans hsize⟩

theorem fresh_holds {start : σ} {c : Client σ} (hW : W start) (hc : T.adapter.Fresh start c) :
    Holds unit layout heap mem bytes c := by
  cases hc with
  | run x calls => exact answers_keeps T.exec_holds (T.createArena_holds hW _) calls

/-! What the readers report of a store whose heap is held. -/

section Held

variable {st st' : σ} (hheap : heap st = ⟨some z, mem, bytes⟩)
  (H : HoldsLive unit layout mem bytes live z l)
include hheap H

theorem usedBytes_eq : T.adapter.usedBytes st = ((layout.chunk0 mem bytes).size +
    ((z.liveChunks layout mem live).map Prod.snd).sum) * unit.bytes := by
  rw [← H.usedBytes_eq T.word, ← hheap]
  rfl

theorem fixedBytes_eq :
    T.adapter.fixedBytes st = (layout.chunk0 mem bytes).size * unit.bytes := by
  rw [← H.fixedBytes_eq T.word, ← hheap]
  rfl

/-- Two heaps with the same chunks out have the same space in use. -/
theorem usedBytes_congr {live' : List Nat} (hheap' : heap st' = ⟨some z', mem, bytes⟩)
    (H' : HoldsLive unit layout mem bytes live' z' l')
    (hlive : ∀ u, u ∈ z.liveChunks layout mem live ↔ u ∈ z'.liveChunks layout mem live') :
    T.adapter.usedBytes st = T.adapter.usedBytes st' := by
  have hperm : (z.liveChunks layout mem live).Perm (z'.liveChunks layout mem live') :=
    (List.perm_ext_iff_of_nodup H.nodup_liveChunks H'.nodup_liveChunks).mpr hlive
  rw [T.usedBytes_eq hheap H, T.usedBytes_eq hheap' H', (hperm.map Prod.snd).sum_nat]

end Held

/-- The used chunks of the heap are chunk 0 and those of the pieces out. -/
theorem tiled {start : σ} {c : Client σ} (hW : W start) (hc : T.adapter.Fresh start c) :
    ∃ t : TiledHeap unit, heap c.store = t.sysHeap ∧
      ∀ p, t.heap.Reaches p ∧ t.heap.chunkUsed p = true ↔
        p = 0 ∨ p ∈ c.live.map (layout.chunkOf (heap c.store).initMem) := by
  obtain ⟨z, l, hheap, H⟩ := T.fresh_holds hW hc
  rw [hheap]
  refine ⟨H.tiledHeap T.word, rfl, ?_⟩
  intro p
  have hused : p ∈ (usedFrom 0 l).map Prod.fst ↔ p = 0 ∨ p ∈ c.live.map (layout.chunkOf mem) := by
    rw [(H.used.map Prod.fst).mem_iff, List.map_cons, List.mem_cons, ZHeap.liveChunks,
      List.map_map]
    rfl
  rw [← (H.tiledHeap T.word).mem_chunks, ← hused]
  exact H.tiles.mem_used.symm

/-- Frees in any order that leave the same pieces out leave the same space in
use. -/
theorem free_order {start : σ} {c : Client σ} (hW : W start) (hc : T.adapter.Fresh start c)
    {ks js : List Nat}
    (hlive : ∀ a, a ∈ (T.adapter.frees c ks).live ↔ a ∈ (T.adapter.frees c js).live) :
    T.adapter.usedBytes (T.adapter.frees c ks).store =
      T.adapter.usedBytes (T.adapter.frees c js).store := by
  obtain ⟨z, l, hheap, H⟩ := T.fresh_holds hW hc
  obtain ⟨z₁, l₁, hheap₁, H₁, hkeeps₁⟩ := T.frees_hold c ks hheap H
  obtain ⟨z₂, l₂, hheap₂, H₂, hkeeps₂⟩ := T.frees_hold c js hheap H
  refine T.usedBytes_congr hheap₁ H₁ hheap₂ H₂ ?_
  intro u
  rw [ZHeap.liveChunks_congr fun a ha => (hkeeps₁ a ha).2,
    ZHeap.liveChunks_congr fun a ha => (hkeeps₂ a ha).2, ZHeap.liveChunks, ZHeap.liveChunks,
    List.mem_map, List.mem_map]
  exact exists_congr fun a => and_congr_left' (hlive a)

theorem reportsLive {start : σ} (hW : W start) : ReportsLive unit layout heap T.adapter start where
  tiled := fun c hc => T.tiled hW hc
  space := by
    intro c hc
    obtain ⟨z, l, hheap, H⟩ := T.fresh_holds hW hc
    rw [T.usedBytes_eq hheap H, T.fixedBytes_eq hheap H, Nat.add_mul, hheap]
    rfl
  live_only := by
    intro c c' hc hc' hlive
    obtain ⟨z, l, hheap, H⟩ := T.fresh_holds hW hc
    obtain ⟨z', l', hheap', H'⟩ := T.fresh_holds hW hc'
    rw [hheap, hheap'] at hlive
    exact T.usedBytes_congr hheap H hheap' H' hlive
  free_order := fun c hc ks js hlive => T.free_order hW hc hlive
  emptied := by
    intro c hc hnil
    obtain ⟨z, l, hheap, H⟩ := T.fresh_holds hW hc
    rw [T.usedBytes_eq hheap H, T.fixedBytes_eq hheap H, hnil]
    rfl

end HeapTest

end Runs

/-! ## 5. The adapters -/

variable (h : Harness) (arena : Nat)

theorem SysHeapTest.heapTest (api : SysHeapApi unit) :
    HeapTest unit api.layout id api.sysHeapInit api.sysHeapAlloc api.sysHeapFree
      (SysHeapTest.memAllocatorCreateArena h arena api) (fun _ => True) arena h.memArenaSize where
  contract := api.contract
  large := h.large
  word := h.word
  createArena_eq := fun _ _ _ => rfl
  keeps := fun _ _ _ => trivial

theorem KHeapTest.heapTest (api : KHeapApi unit) :
    HeapTest unit api.layout KHeap.heap api.kHeapInit (api.kHeapAlloc · · kNoWait) api.kHeapFree
      (KHeapTest.memAllocatorCreateArena h arena api) (fun _ => True) arena h.memArenaSize where
  contract := api.contract
  large := h.large
  word := h.word
  createArena_eq := fun _ _ _ => rfl
  keeps := fun _ _ _ => trivial

/-- The pool of the kernel is laid out anew where it is. -/
theorem KMallocTest.heapTest (api : KMallocApi unit) (pool : KMallocTest.Pool h) :
    HeapTest unit api.layout KHeap.heap api.kHeapInit api.kMalloc api.kFree
      (KMallocTest.memAllocatorCreateArena api)
      (fun st => st.heap.initMem = pool.systemHeap.heap.initMem ∧
        st.heap.initBytes = pool.systemHeap.heap.initBytes)
      pool.systemHeap.heap.initMem pool.systemHeap.heap.initBytes where
  contract := api.contract
  large := h.large.trans pool.large
  word := pool.word
  createArena_eq := by
    intro _ st hst
    unfold KMallocTest.memAllocatorCreateArena
    rw [hst.1, hst.2]
  keeps := by
    intro st z hheap
    rw [hheap]
    exact ⟨rfl, rfl⟩

/-- **The space in use of a kernel heap**: the walk of every tiled heap visits
each of its chunks once and returns the space of the used ones, and after a
create and any calls the three adapters report chunk 0 and the pieces out. -/
theorem heap_walks (unit : ChunkUnit) (h : Harness) (arena : Nat) :
    (∀ t : TiledHeap unit, Walked t t.chunks) ∧
    (∀ api : SysHeapApi unit, ReportsLive unit api.layout id (SysHeapTest.adapter h arena api)
      SysHeap.initial) ∧
    (∀ api : KHeapApi unit, ReportsLive unit api.layout KHeap.heap
      (KHeapTest.adapter h arena api) ⟨SysHeap.initial⟩) ∧
    ∀ (api : KMallocApi unit) (pool : KMallocTest.Pool h), ReportsLive unit api.layout KHeap.heap
      (KMallocTest.adapter api) pool.systemHeap := by
  refine ⟨TiledHeap.walked, fun api => ?_, fun api => ?_, fun api pool => ?_⟩
  · exact (SysHeapTest.heapTest h arena api).reportsLive trivial
  · exact (KHeapTest.heapTest h arena api).reportsLive trivial
  · exact (KMallocTest.heapTest h api pool).reportsLive ⟨rfl, rfl⟩

end ZephyrBench.Mem

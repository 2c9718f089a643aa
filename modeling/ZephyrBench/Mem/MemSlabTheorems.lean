/-
ZephyrBench.Mem.MemSlabTheorems — the slab adapter serves pieces of one size.

`memSlab_sound`: after every list of calls that begins with a create, whatever
the slab was before, the pieces out and those of the free list are the arena, cut
without rest into word-aligned pieces. The space in use is the fixed space and
that of the pieces out, and a request gets no piece if and only if all are out.

The invariant `CutAt` accounts for every piece: the pieces out and the free list
together are a permutation of all pieces, and `num_used` is the number of those
out. An allocation moves a piece from the second list to the first and a free
moves it back, so a law of the slab functions settles each call. `fixedSize` puts
the calls together; with it the adapter also follows `Cut`.

The first call has to be a create, since before it `test_slab` is a zeroed
object. `createArena_cutAt` needs nothing of the slab before, so a create in the
middle of a run is no special case.
-/
import ZephyrBench.Mem.MemSlab

namespace ZephyrBench.Mem

namespace MemSlab

variable {h : Harness} (image : MemSlabImage h) (api : KMemSlabApi)

/-- The slab is laid out for step `x`, and its pieces are those out and those
of its free list. -/
structure CutAt (x : SweepStep) (testSlab : KMemSlab) (live : List Nat) : Prop where
  info : testSlab.info = ⟨h.pieces x, x.granularity, live.length⟩
  pieces : (live ++ testSlab.freeList).Perm
    ((List.range (h.pieces x)).map (pieceAt image.arena x.granularity))

theorem msPieces_granularity (x : SweepStep) : msPieces h x.granularity = h.pieces x := by
  unfold msPieces sizeT
  rw [x.builtinCtz_granularity, Nat.shiftRight_eq_div_pow]
  exact Nat.mod_eq_of_lt (Nat.lt_of_le_of_lt (Nat.div_le_self _ _) h.word)

theorem granularity_aligned (x : SweepStep) : sizeofPtr ∣ x.granularity :=
  (Nat.dvd_of_mod_eq_zero memSMin_aligned).trans (Nat.pow_dvd_pow 2 x.min)

theorem createArena_cutAt (x : SweepStep) (testSlab : KMemSlab) :
    CutAt image x (memAllocatorCreateArena image api x.granularity testSlab) [] := by
  have harena : sizeofPtr ∣ image.arena := Dvd.dvd.trans ⟨16, rfl⟩ image.aligned
  obtain ⟨hinfo, hfree⟩ := api.init_aligned testSlab image.arena x.granularity
    (msPieces h x.granularity) harena (granularity_aligned x)
  rw [msPieces_granularity] at hinfo hfree
  unfold memAllocatorCreateArena
  rw [msPieces_granularity]
  exact ⟨hinfo, hfree⟩

namespace CutAt

variable {image} {x : SweepStep} {testSlab : KMemSlab} {live : List Nat}

theorem length_eq (hst : CutAt image x testSlab live) :
    live.length + testSlab.freeList.length = h.pieces x := by
  have := hst.pieces.length_eq
  rwa [List.length_append, List.length_map, List.length_range] at this

theorem length_le (hst : CutAt image x testSlab live) : live.length ≤ h.pieces x := by
  rw [← hst.length_eq]
  exact Nat.le_add_right _ _

theorem alloc_granted (hst : CutAt image x testSlab live) (hlt : live.length < h.pieces x)
    (bytes : Nat) : ∃ a, (memAllocatorAlloc api bytes testSlab).1 = some a ∧
      CutAt image x (memAllocatorAlloc api bytes testSlab).2 (live ++ [a]) := by
  have hne : testSlab.freeList ≠ [] := by
    intro hnil
    have := hst.length_eq
    rw [hnil, List.length_nil] at this
    omega
  obtain ⟨a, ha, hinfo, hfree⟩ := api.alloc_granted testSlab none hne
  refine ⟨a, ha, ?_, ?_⟩
  · change (api.kMemSlabAlloc testSlab none kNoWait).2.1.info = _
    rw [hinfo, hst.info, List.length_append, List.length_singleton]
  · rw [List.append_assoc]
    exact (hfree.symm.append_left live).trans hst.pieces

theorem alloc_refused (hst : CutAt image x testSlab live) (hle : h.pieces x ≤ live.length)
    (bytes : Nat) : (memAllocatorAlloc api bytes testSlab).1 = none ∧
      CutAt image x (memAllocatorAlloc api bytes testSlab).2 live := by
  have hnil : testSlab.freeList = [] := by
    have := hst.length_eq
    exact List.eq_nil_of_length_eq_zero (by omega)
  obtain ⟨hnone, hslab⟩ := api.alloc_refused testSlab hnil
  refine ⟨hnone, ?_⟩
  change CutAt image x (api.kMemSlabAlloc testSlab none kNoWait).2.1 live
  rw [hslab]
  exact hst

theorem free (hst : CutAt image x testSlab live) {k a : Nat} (hk : live[k]? = some a) :
    CutAt image x (memAllocatorFree api (some a) testSlab) (live.eraseIdx k) := by
  obtain ⟨hlt, ha⟩ := List.getElem?_eq_some_iff.mp hk
  have hlive : (a :: live.eraseIdx k).Perm live := by
    rw [← ha]
    exact List.getElem_cons_eraseIdx_perm hlt
  obtain ⟨hinfo, hfree⟩ := api.free_used testSlab a
  constructor
  · change (api.kMemSlabFree testSlab (some a)).info = _
    rw [hinfo, hst.info, List.length_eraseIdx, if_pos hlt]
  · change (live.eraseIdx k ++ (api.kMemSlabFree testSlab (some a)).freeList).Perm _
    calc live.eraseIdx k ++ (api.kMemSlabFree testSlab (some a)).freeList
      _ |>.Perm (live.eraseIdx k ++ a :: testSlab.freeList) := hfree.append_left _
      _ |>.Perm (a :: live.eraseIdx k ++ testSlab.freeList) := List.perm_middle
      _ |>.Perm (live ++ testSlab.freeList) := hlive.append_right _
      _ |>.Perm _ := hst.pieces

theorem arenaBytes (hst : CutAt image x testSlab live) :
    memAllocatorArenaBytes testSlab = h.memArenaSize := by
  unfold memAllocatorArenaBytes sizeT
  rw [hst.info]
  change h.pieces x * x.granularity % 2 ^ 32 = h.memArenaSize
  rw [h.pieces_mul, Nat.mod_eq_of_lt h.word]

theorem usedBytes (hst : CutAt image x testSlab live) :
    memAllocatorUsedBytes image testSlab =
      memAllocatorFixedBytes image testSlab + x.granularity * live.length := by
  have hfits := image.fits
  have hbytes : live.length * x.granularity ≤ h.memArenaSize := by
    rw [← h.pieces_mul x]
    exact Nat.mul_le_mul_right _ hst.length_le
  unfold memAllocatorUsedBytes memAllocatorFixedBytes sizeT
  rw [hst.info, Nat.mul_comm x.granularity]
  change (live.length * x.granularity + _) % 2 ^ 32 = _
  omega

/-- All pieces, out or free, are disjoint pieces of the arena. -/
theorem carved (hst : CutAt image x testSlab live) :
    Carved image.arena h.memArenaSize x.granularity (live ++ testSlab.freeList) := by
  rw [← h.pieces_mul x]
  exact carved_of_perm List.nodup_range (fun i hi => List.mem_range.mp hi) hst.pieces

theorem word_aligned (hst : CutAt image x testSlab live) {a : Nat}
    (ha : a ∈ live ++ testSlab.freeList) : sizeofPtr ∣ a := by
  rw [hst.pieces.mem_iff, List.mem_map] at ha
  obtain ⟨i, -, rfl⟩ := ha
  have harena : sizeofPtr ∣ image.arena := Dvd.dvd.trans ⟨16, rfl⟩ image.aligned
  exact Nat.dvd_add harena (Dvd.dvd.mul_left (granularity_aligned x) i)

end CutAt

/-- The adapter serves pieces of one size, from any state of the slab. -/
theorem fixedSize (image : MemSlabImage h) :
    FixedSize h (adapter image api) (fun _ => True) (CutAt image) where
  weaken _ := trivial
  createArena _ := createArena_cutAt image api _ _
  destroyArena hst := hst
  trimStore hst := hst
  granted hst hlt bytes := hst.alloc_granted api hlt bytes
  refused hst hle bytes := hst.alloc_refused api hle bytes
  free hst hk := hst.free api hk
  arenaBytes hst := hst.arenaBytes
  usedBytes hst := hst.usedBytes
  length_le hst := hst.length_le

/-! ## Whole runs -/

/-- What holds of the slab at step `x`, for a caller that holds the pieces
`c.live`: these and the free pieces are the arena, cut into pieces that can hold
the link of the free list; the space in use is that of the pieces out; and a
request is refused when all are out, which changes nothing. -/
structure Sound (x : SweepStep) (c : Client KMemSlab) : Prop where
  carved : Carved image.arena h.memArenaSize x.granularity (c.live ++ c.store.freeList)
  whole : x.granularity * (c.live ++ c.store.freeList).length = h.memArenaSize
  aligned : ∀ a ∈ c.live ++ c.store.freeList, sizeofPtr ∣ a
  usedBytes : memAllocatorUsedBytes image c.store =
    memAllocatorFixedBytes image c.store + x.granularity * c.live.length
  arenaBytes : memAllocatorArenaBytes c.store = h.memArenaSize
  alloc_null_iff : ∀ bytes,
    (memAllocatorAlloc api bytes c.store).1 = none ↔ c.live.length = h.pieces x
  refused : ∀ bytes, (memAllocatorAlloc api bytes c.store).1 = none →
    ((adapter image api).exec c (.alloc bytes)).2 = c

theorem CutAt.sound {x : SweepStep} {c : Client KMemSlab} (hc : CutAt image x c.store c.live) :
    Sound image api x c where
  carved := hc.carved
  whole := by
    rw [List.length_append, hc.length_eq, Nat.mul_comm]
    exact h.pieces_mul x
  aligned _ ha := hc.word_aligned ha
  usedBytes := hc.usedBytes
  arenaBytes := hc.arenaBytes
  alloc_null_iff := by
    intro bytes
    constructor
    · intro hnone
      by_contra hne
      obtain ⟨a, ha, -⟩ := hc.alloc_granted api (Nat.lt_of_le_of_ne hc.length_le hne) bytes
      rw [hnone] at ha
      exact absurd ha (by simp)
    · intro hfull
      exact (hc.alloc_refused api (Nat.le_of_eq hfull.symm) bytes).1
  refused := by
    intro bytes hnone
    have hnil : c.store.freeList = [] := by
      by_contra hne
      obtain ⟨a, ha, -⟩ := api.alloc_granted c.store none hne
      exact absurd (hnone.symm.trans ha) (by simp)
    obtain ⟨-, hslab⟩ := api.alloc_refused c.store hnil
    rw [Adapter.exec_alloc_none (adapter image api) hnone]
    show Client.mk (api.kMemSlabAlloc c.store none kNoWait).2.1 c.live = c
    rw [hslab]

/-- After every list of calls that begins with a create, whatever the slab was
before. -/
theorem memSlab_sound (image : MemSlabImage h) (api : KMemSlabApi) (before : Client KMemSlab)
    (x : SweepStep) (calls : List Call) :
    Sound image api (calls.foldl Call.stepAfter x)
      (answers (adapter image api).exec before (.createArena x :: calls)).2 := by
  obtain ⟨-, hcut, -⟩ := (fixedSize api image).answers_follow before trivial x calls
  rw [Cut.answers_step] at hcut
  exact hcut.sound image api

end MemSlab

end ZephyrBench.Mem

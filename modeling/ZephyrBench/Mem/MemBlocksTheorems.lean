/-
ZephyrBench.Mem.MemBlocksTheorems — whole runs of the `sys_mem_blocks` adapter.

`memBlocks_sound`: after every list of calls that begins with a create, batch
calls included, the pieces out are disjoint pieces of the arena, of the size of
the step. The space in use is the fixed space and that of the pieces out; a
request is refused if and only if fewer pieces are left than it asks for; one
that is granted adds as many pieces as it asks for, which stand in the array of
the caller, and one that is refused changes nothing.

## How the proof goes

`CutAt` is the invariant: every pool still has the shape it was declared with,
`test_live` is the pool of the step, and the pieces out are the addresses of the
set bits of that pool. The bitmaps of the other pools are free to hold anything,
since a create clears the bitmap it selects; it needs no more of the pools than
their shape (`createArena_cutAt`).

`takes` is what every allocation comes down to, of one piece or of several: bits
that were clear are set, and their pieces are added to those out. `free` is its
counterpart. The rest of the section on calls reads off the return codes, which
the adapter turns into a pointer or a truth value.

The sizes that the adapter reports are sums of 32-bit expressions; `fixedBytes`
shows that none of them wraps, since the arena and the bookkeeping of the largest
pool fit into the address space (`MemBlocksImage`).
-/
import ZephyrBench.Mem.MemBlocks
import Mathlib.Tactic.IntervalCases

namespace ZephyrBench.Mem

namespace MemBlocks

variable {h : Harness} (image : MemBlocksImage h) (api : SysMemBlocksApi)

/-! ## 1. The bundles of a bitmap -/

/-- After `k` passes the first `k` bundles are clear. -/
theorem clear_passes {n : Nat} (v : Vector (BitVec 32) n) (k j : Nat) :
    ((List.range k).foldl (fun v i => v.setIfInBounds i 0) v)[j]?.getD 0 =
      if j < k then 0 else v[j]?.getD 0 := by
  induction k with
  | zero => rfl
  | succ k ih =>
    rw [List.range_succ, List.foldl_append, List.foldl_cons, List.foldl_nil,
      Vector.getElem?_setIfInBounds]
    by_cases hk : k = j
    · subst hk
      by_cases hn : k < n <;> simp [hn]
    · rw [if_neg hk, ih]
      have hiff : j < k + 1 ↔ j < k := by omega
      simp only [hiff]

@[simp] theorem bundleBit_clearBundles {n : Nat} (v : Vector (BitVec 32) n) (i : Nat) :
    bundleBit (clearBundles v) i = false := by
  unfold bundleBit clearBundles
  rw [clear_passes]
  by_cases hi : i / 32 < n
  · simp [hi]
  · simp [hi]

/-! ## 2. The pools -/

/-- The shape that the pool of a step is declared with. -/
structure Declared (x : SweepStep) (p : SysMemBlocks) : Prop where
  numBlocks : p.info.numBlocks = h.pieces x
  blkSzShift : p.info.blkSzShift = x.s
  buffer : p.buffer = image.arena
  numBundles : p.bitmap.numBundles = bundlesFor (h.pieces x)

/-- Every pool has its shape. -/
def WellFormed (st : MemBlocksVars) : Prop :=
  ∀ x : SweepStep, Declared image x st.testPool[x.index]

theorem mbBlocksAt_eq (x : SweepStep) : mbBlocksAt h x.s = h.pieces x := by
  unfold mbBlocksAt Harness.pieces SweepStep.granularity memSizeOfS
  rw [Nat.shiftLeft_eq, Nat.one_mul]

theorem declared_define (x : SweepStep) :
    Declared image x (defineStaticWithExtBuf (memSizeOfS x.s) (mbBlocksAt h x.s) image.arena) where
  numBlocks := mbBlocksAt_eq x
  blkSzShift := Nat.log2_two_pow
  buffer := rfl
  numBundles := congrArg bundlesFor (mbBlocksAt_eq x)

theorem wellFormed_initial : WellFormed image (initial image) := by
  rintro ⟨s, hmin, hmax⟩
  have hdefine := declared_define image ⟨s, hmin, hmax⟩
  unfold memSMin at hmin
  unfold memSMax at hmax
  interval_cases s <;> exact hdefine

variable {image} {x : SweepStep} {p : SysMemBlocks} {st : MemBlocksVars} {live : List Nat}

namespace Declared

theorem setBundles (hp : Declared image x p) (b : Vector (BitVec 32) p.bitmap.numBundles) :
    Declared image x (p.setBundles b) :=
  ⟨hp.numBlocks, hp.blkSzShift, hp.buffer, hp.numBundles⟩

theorem block (hp : Declared image x p) : p.block = pieceAt image.arena x.granularity := by
  funext i
  unfold SysMemBlocks.block pieceAt SweepStep.granularity memSizeOfS
  rw [hp.buffer, hp.blkSzShift, Nat.shiftLeft_eq]

end Declared

@[simp] theorem store_live (b : Vector (BitVec 32) st.live.bitmap.numBundles) :
    (st.store b).live = st.live.setBundles b := by
  simp [MemBlocksVars.live, MemBlocksVars.store]

@[simp] theorem store_testLive (b : Vector (BitVec 32) st.live.bitmap.numBundles) :
    (st.store b).testLive = st.testLive := rfl

theorem WellFormed.store (hst : WellFormed image st)
    (b : Vector (BitVec 32) st.live.bitmap.numBundles) : WellFormed image (st.store b) := by
  intro y
  unfold MemBlocksVars.store
  by_cases hy : st.testLive = y.index
  · have hlive : Declared image y st.live := by
      unfold MemBlocksVars.live
      simp only [hy]
      exact hst y
    simpa [hy] using hlive.setBundles b
  · have hne : st.testLive.val ≠ y.s - memSMin := fun heq => hy (Fin.ext heq)
    simpa [Vector.getElem_set, hne] using hst y

/-! ## 3. The invariant -/

variable (image) in
/-- The arena is cut at step `x`, and `live` are the pieces out. -/
structure CutAt (x : SweepStep) (st : MemBlocksVars) (live : List Nat) : Prop where
  pools : WellFormed image st
  testLive : st.testLive = x.index
  pieces : live.Perm (st.live.taken.map st.live.block)

namespace CutAt

theorem declared (hst : CutAt image x st live) : Declared image x st.live := by
  have hpool := hst.pools x
  unfold MemBlocksVars.live
  simpa only [hst.testLive] using hpool

theorem length_eq (hst : CutAt image x st live) : live.length = st.live.taken.length := by
  rw [hst.pieces.length_eq, List.length_map]

theorem length_le (hst : CutAt image x st live) : live.length ≤ h.pieces x := by
  rw [hst.length_eq, ← hst.declared.numBlocks]
  exact occupied_length_le

theorem carved (hst : CutAt image x st live) :
    Carved image.arena h.memArenaSize x.granularity live := by
  have hperm := hst.pieces
  rw [hst.declared.block] at hperm
  rw [← h.pieces_mul x]
  refine carved_of_perm nodup_occupied ?_ hperm
  intro i hi
  rw [← hst.declared.numBlocks]
  exact (mem_occupied.mp hi).1

/-- What an allocation takes is added to the pieces out. -/
theorem takes (hst : CutAt image x st live) {b : Vector (BitVec 32) st.live.bitmap.numBundles}
    {out : List Ptr} (htakes : Takes st.live b out) :
    CutAt image x (st.store b) (live ++ out.reduceOption) := by
  obtain ⟨blocks, hnodup, hclear, hset, rfl⟩ := htakes
  have hout : (blocks.map fun i => some (st.live.block i)).reduceOption =
      blocks.map st.live.block := by
    unfold List.reduceOption
    rw [List.filterMap_map]
    exact congrFun List.filterMap_eq_map blocks
  have htaken : ((st.live.setBundles b).taken).Perm (st.live.taken ++ blocks) :=
    occupied_set hnodup hclear fun j _ => hset j
  refine ⟨hst.pools.store b, hst.testLive, ?_⟩
  rw [store_live, hout, SysMemBlocks.setBundles_block]
  calc live ++ blocks.map st.live.block
    _ |>.Perm (st.live.taken.map st.live.block ++ blocks.map st.live.block) :=
      hst.pieces.append_right _
    _ = (st.live.taken ++ blocks).map st.live.block := List.map_append.symm
    _ |>.Perm ((st.live.setBundles b).taken.map st.live.block) := (htaken.map _).symm

/-- Nothing changes where the bundles are written back as they were. -/
theorem unchanged (hst : CutAt image x st live) {b : Vector (BitVec 32) st.live.bitmap.numBundles}
    (hb : b = st.live.bitmap.bundles) : CutAt image x (st.store b) live := by
  subst hb
  refine ⟨hst.pools.store _, hst.testLive, ?_⟩
  rw [store_live]
  exact hst.pieces

/-- Clearing the bit of a live piece takes it out of the pieces out. -/
theorem free (hst : CutAt image x st live) {k a : Nat} (hk : live[k]? = some a) :
    CutAt image x (memAllocatorFree api (some a) st) (live.eraseIdx k) := by
  obtain ⟨hlt, ha⟩ := List.getElem?_eq_some_iff.mp hk
  have hlive : (a :: live.eraseIdx k).Perm live := by
    rw [← ha]
    exact List.getElem_cons_eraseIdx_perm hlt
  have hmem : a ∈ st.live.taken.map st.live.block :=
    (hlive.trans hst.pieces).mem_iff.mp List.mem_cons_self
  obtain ⟨i, hi, rfl⟩ := List.mem_map.mp hmem
  obtain ⟨hin, hbit⟩ := mem_occupied.mp hi
  have hclear := api.free_taken st.live i hin hbit
  have htaken : st.live.taken.Perm
      (i :: (st.live.setBundles
        (api.sysMemBlocksFree st.live 1 #v[some (st.live.block i)]).2).taken) :=
    occupied_clear hin hbit fun j _ => hclear j
  refine ⟨hst.pools.store _, hst.testLive, ?_⟩
  unfold memAllocatorFree
  rw [store_live, SysMemBlocks.setBundles_block]
  have hboth := (hlive.trans hst.pieces).trans (htaken.map st.live.block)
  rw [List.map_cons] at hboth
  exact hboth.cons_inv

end CutAt

theorem mbStepOf_granularity (x : SweepStep) : mbStepOf x.granularity = x.index.val := by
  have hmin : 3 ≤ x.s := x.min
  have hmax : x.s ≤ 10 := x.max
  unfold mbStepOf
  rw [x.index_val, x.builtinCtz_granularity, BitVec.toNat_sub, BitVec.toNat_ofNat,
    BitVec.toNat_ofNat]
  unfold memSMin
  omega

/-- A create clears the pool of its step, whatever any pool held before. -/
theorem createArena_cutAt (hst : WellFormed image st) (x : SweepStep) :
    CutAt image x (memAllocatorCreateArena x.granularity st) [] := by
  have hi : mbStepOf x.granularity < memSCount := by
    rw [mbStepOf_granularity]
    exact x.index.isLt
  have hindex : (⟨mbStepOf x.granularity, hi⟩ : Fin memSCount) = x.index :=
    Fin.ext (mbStepOf_granularity x)
  unfold memAllocatorCreateArena
  rw [dif_pos hi, hindex]
  have hselect : WellFormed image { st with testLive := x.index } := hst
  refine ⟨hselect.store _, rfl, ?_⟩
  rw [store_live]
  have htaken : ∀ p : SysMemBlocks,
      (p.setBundles (clearBundles p.bitmap.bundles)).taken = [] := by
    intro p
    exact occupied_none fun i _ => bundleBit_clearBundles p.bitmap.bundles i
  rw [htaken]
  exact .nil

/-! ## 4. The calls -/

namespace CutAt

/-- The first piece of an array of one pointer. -/
theorem alloc_one {out : Vector Ptr 1} {b : Vector (BitVec 32) st.live.bitmap.numBundles}
    (htakes : Takes st.live b out.toList) :
    ∃ a, out.get ⟨0, Nat.one_pos⟩ = some a ∧ out.toList.reduceOption = [a] := by
  obtain ⟨blocks, -, -, -, hout⟩ := htakes
  have hlen : blocks.length = 1 := by
    have := congrArg List.length hout
    simpa using this.symm
  obtain ⟨i, rfl⟩ := List.length_eq_one_iff.mp hlen
  refine ⟨st.live.block i, ?_, by rw [hout]; rfl⟩
  have hget : out.toList[0]? = some (some (st.live.block i)) := by rw [hout]; rfl
  simpa [Vector.get] using hget

theorem alloc_granted (hst : CutAt image x st live) (hlt : live.length < h.pieces x) (bytes : Nat) :
    ∃ a, (memAllocatorAlloc api bytes st).1 = some a ∧
      CutAt image x (memAllocatorAlloc api bytes st).2 (live ++ [a]) := by
  have hroom : 1 + st.live.taken.length ≤ st.live.info.numBlocks := by
    rw [← hst.length_eq, hst.declared.numBlocks]
    omega
  obtain ⟨-, htakes⟩ := api.alloc_granted st.live 1 #v[none] hroom
  obtain ⟨a, ha, hout⟩ := alloc_one htakes
  refine ⟨a, ha, ?_⟩
  rw [← hout]
  exact hst.takes htakes

theorem alloc_refused (hst : CutAt image x st live) (hle : h.pieces x ≤ live.length) (bytes : Nat) :
    (memAllocatorAlloc api bytes st).1 = none ∧
      CutAt image x (memAllocatorAlloc api bytes st).2 live := by
  have hfull : st.live.info.numBlocks ≤ st.live.taken.length := by
    rw [← hst.length_eq, hst.declared.numBlocks]
    exact hle
  obtain ⟨-, hbundles⟩ := api.alloc_refused st.live 1 #v[none] (by omega)
  have hout := api.alloc_refused_one st.live #v[none] hfull
  exact ⟨congrArg (fun v : Vector Ptr 1 => v[0]) hout, hst.unchanged hbundles⟩

theorem allocN_granted (hst : CutAt image x st live) {count : Nat}
    (hroom : count + live.length ≤ h.pieces x) (out : Vector Ptr count) :
    (memAllocatorAllocN api count out st).1 = true ∧
      CutAt image x (memAllocatorAllocN api count out st).2.2
        (live ++ (memAllocatorAllocN api count out st).2.1.toList.reduceOption) := by
  rw [hst.length_eq, ← hst.declared.numBlocks] at hroom
  obtain ⟨hret, htakes⟩ := api.alloc_granted st.live count out hroom
  exact ⟨beq_iff_eq.mpr hret, hst.takes htakes⟩

/-- A batch call that is granted writes `count` pieces, and no null, into the
array of the caller. -/
theorem allocN_pieces (hst : CutAt image x st live) {count : Nat}
    (hroom : count + live.length ≤ h.pieces x) (out : Vector Ptr count) :
    ∃ l : List Nat, l.length = count ∧
      (memAllocatorAllocN api count out st).2.1.toList = l.map some := by
  rw [hst.length_eq, ← hst.declared.numBlocks] at hroom
  obtain ⟨-, blocks, -, -, -, hout⟩ := api.alloc_granted st.live count out hroom
  have hlength : blocks.length = count := by
    have hvector := congrArg List.length hout
    rwa [Vector.length_toList, List.length_map, eq_comm] at hvector
  refine ⟨blocks.map st.live.block, by rw [List.length_map, hlength], ?_⟩
  rw [List.map_map]
  exact hout

theorem allocN_refused (hst : CutAt image x st live) {count : Nat}
    (hfull : h.pieces x < count + live.length) (out : Vector Ptr count) :
    (memAllocatorAllocN api count out st).1 = false ∧
      CutAt image x (memAllocatorAllocN api count out st).2.2 live := by
  rw [hst.length_eq, ← hst.declared.numBlocks] at hfull
  obtain ⟨hret, hbundles⟩ := api.alloc_refused st.live count out hfull
  exact ⟨beq_eq_false_iff_ne.mpr hret, hst.unchanged hbundles⟩

/-- A batch call is granted if and only if there is room for it. -/
theorem allocN_true_iff (hst : CutAt image x st live) {count : Nat} (out : Vector Ptr count) :
    (memAllocatorAllocN api count out st).1 = true ↔ count + live.length ≤ h.pieces x := by
  constructor
  · intro htrue
    by_contra hfew
    have hfalse := (hst.allocN_refused api (Nat.lt_of_not_le hfew) out).1
    rw [htrue] at hfalse
    exact absurd hfalse (by simp)
  · intro hroom
    exact (hst.allocN_granted api hroom out).1

/-! ### What the adapter reports -/

theorem arenaBytes (hst : CutAt image x st live) : memAllocatorArenaBytes st = h.memArenaSize := by
  unfold memAllocatorArenaBytes sizeT
  rw [hst.declared.numBlocks, hst.declared.blkSzShift, Nat.shiftLeft_eq]
  change h.pieces x * x.granularity % 2 ^ 32 = h.memArenaSize
  rw [h.pieces_mul, Nat.mod_eq_of_lt h.word]

theorem numBundles_le (hst : CutAt image x st live) :
    st.live.bitmap.numBundles ≤ bundlesFor (mbBlocksAt h memSMin) := by
  rw [hst.declared.numBundles]
  apply bundlesFor_mono
  unfold Harness.pieces mbBlocksAt
  rw [Nat.shiftLeft_eq, Nat.one_mul]
  exact Nat.div_le_div_left (Nat.pow_le_pow_right (by decide) x.min) (Nat.two_pow_pos _)

/-- The bookkeeping and the pieces together are shorter than the address space. -/
theorem fixedBytes (hst : CutAt image x st live) :
    memAllocatorFixedBytes image st =
        image.sizeofSysMemBlocks + image.sizeofSysBitarray + st.live.bitmap.numBundles * 4 ∧
      h.memArenaSize + memAllocatorFixedBytes image st < 2 ^ 32 := by
  have hfits := image.fits
  have hle := hst.numBundles_le
  have heq : memAllocatorFixedBytes image st =
      image.sizeofSysMemBlocks + image.sizeofSysBitarray + st.live.bitmap.numBundles * 4 := by
    unfold memAllocatorFixedBytes sizeT
    apply Nat.mod_eq_of_lt
    omega
  refine ⟨heq, ?_⟩
  rw [heq]
  omega

theorem usedBytes (hst : CutAt image x st live) :
    memAllocatorUsedBytes image api st =
      memAllocatorFixedBytes image st + x.granularity * live.length := by
  have hpos : 0 < st.live.info.numBlocks := by
    rw [hst.declared.numBlocks]
    exact h.pieces_pos x
  have hcount := api.popcountRegion_inside st.live.bitmap _ 0 hpos st.live.covered
  have hbytes : live.length * x.granularity ≤ h.memArenaSize := by
    rw [← h.pieces_mul x]
    exact Nat.mul_le_mul_right _ hst.length_le
  have hfits := hst.fixedBytes.2
  unfold memAllocatorUsedBytes
  rw [hcount]
  change sizeT (st.live.taken.length <<< st.live.info.blkSzShift + _) = _
  rw [← hst.length_eq, hst.declared.blkSzShift, Nat.shiftLeft_eq, Nat.mul_comm x.granularity]
  change sizeT (live.length * x.granularity + _) = _
  unfold sizeT
  rw [Nat.mod_eq_of_lt (by omega), Nat.add_comm]

end CutAt

/-- The adapter serves pieces of one size. -/
theorem fixedSize (image : MemBlocksImage h) :
    FixedSize h (adapter image api) (WellFormed image) (CutAt image) where
  weaken hst := hst.pools
  createArena hst := createArena_cutAt hst _
  destroyArena hst := hst
  trimStore hst := hst
  granted hst hlt bytes := hst.alloc_granted api hlt bytes
  refused hst hle bytes := hst.alloc_refused api hle bytes
  free hst hk := hst.free api hk
  arenaBytes hst := hst.arenaBytes
  usedBytes hst := hst.usedBytes api
  length_le hst := hst.length_le

/-! ## 5. Whole runs -/

theorem execBatch_cutAt (x : SweepStep) (c : Client MemBlocksVars) (call : BatchCall)
    (hc : CutAt image x c.store c.live) :
    CutAt image (call.stepAfter x) ((adapter image api).execBatch c call).2.store
      ((adapter image api).execBatch c call).2.live := by
  cases call with
  | call call =>
    have hfollows := ((fixedSize api image).exec_follows c ⟨x, c.live.length⟩ call ⟨hc, rfl⟩).2.1
    rw [Cut.exec_step] at hfollows
    exact hfollows
  | allocN count out =>
    by_cases hroom : count + c.live.length ≤ h.pieces x
    · obtain ⟨hret, hnext⟩ := hc.allocN_granted api hroom out
      simp only [Adapter.execBatch, adapter, BatchCall.stepAfter]
      split
      · rename_i heq
        simpa [heq] using hnext
      · rename_i heq
        simp [heq] at hret
    · obtain ⟨hret, hnext⟩ := hc.allocN_refused api (Nat.lt_of_not_le hroom) out
      simp only [Adapter.execBatch, adapter, BatchCall.stepAfter]
      split
      · rename_i heq
        simp [heq] at hret
      · rename_i heq
        simpa [heq] using hnext

theorem run_cutAt (x : SweepStep) (c : Client MemBlocksVars) (calls : List BatchCall)
    (hc : CutAt image x c.store c.live) :
    CutAt image (calls.foldl BatchCall.stepAfter x)
      (answers (adapter image api).execBatch c calls).2.store
      (answers (adapter image api).execBatch c calls).2.live :=
  answers_invariant (P := fun x (c : Client MemBlocksVars) => CutAt image x c.store c.live)
    (execBatch_cutAt api) hc calls

variable (image) in
/-- What is claimed of the adapter at a step, for a caller that holds the
pieces `c.live`. -/
structure Sound (x : SweepStep) (c : Client MemBlocksVars) : Prop where
  carved : Carved image.arena h.memArenaSize x.granularity c.live
  usedBytes : memAllocatorUsedBytes image api c.store =
    memAllocatorFixedBytes image c.store + x.granularity * c.live.length
  created : ∀ y : SweepStep,
    memAllocatorUsedBytes image api (memAllocatorCreateArena y.granularity c.store) =
      memAllocatorFixedBytes image (memAllocatorCreateArena y.granularity c.store)
  arenaBytes : memAllocatorArenaBytes c.store = h.memArenaSize
  alloc_null_iff : ∀ bytes,
    (memAllocatorAlloc api bytes c.store).1 = none ↔ c.live.length = h.pieces x
  allocN_false_iff : ∀ count out,
    (memAllocatorAllocN api count out c.store).1 = false ↔
      h.pieces x - c.live.length < count
  allocN_granted : ∀ count out, (memAllocatorAllocN api count out c.store).1 = true →
    ∃ l : List Nat, l.length = count ∧
      (memAllocatorAllocN api count out c.store).2.1.toList = l.map some ∧
      ((adapter image api).execBatch c (.allocN count out)).2.live = c.live ++ l
  refused : ∀ call, ((adapter image api).execBatch c call).1 = .refused →
    ((adapter image api).execBatch c call).2.live = c.live ∧
      memAllocatorUsedBytes image api ((adapter image api).execBatch c call).2.store =
        memAllocatorUsedBytes image api c.store

theorem refused_live (A : Adapter MemBlocksVars) (c : Client MemBlocksVars) (call : BatchCall)
    (href : (A.execBatch c call).1 = .refused) :
    (A.execBatch c call).2.live = c.live ∧ call.stepAfter x = x := by
  cases call with
  | call call =>
    cases call <;> simp only [Adapter.execBatch, Adapter.exec, BatchCall.stepAfter,
      Call.stepAfter] at href ⊢
    case alloc => split at href <;> simp_all
    all_goals (try split at href) <;> simp at href
  | allocN count out =>
    simp only [Adapter.execBatch, BatchCall.stepAfter] at href ⊢
    split at href <;> simp_all

theorem CutAt.sound {c : Client MemBlocksVars} (hc : CutAt image x c.store c.live) :
    Sound image api x c where
  carved := hc.carved
  usedBytes := hc.usedBytes api
  created y := (createArena_cutAt hc.pools y).usedBytes api
  arenaBytes := hc.arenaBytes
  alloc_null_iff := by
    intro bytes
    constructor
    · intro hnone
      by_contra hne
      obtain ⟨a, ha, -⟩ := hc.alloc_granted api (Nat.lt_of_le_of_ne hc.length_le hne) bytes
      rw [hnone] at ha
      exact absurd ha (by simp)
    · intro hfull
      exact (hc.alloc_refused api (Nat.le_of_eq hfull.symm) bytes).1
  allocN_false_iff := by
    intro count out
    have hle := hc.length_le
    rw [← Bool.not_eq_true, hc.allocN_true_iff api out]
    omega
  allocN_granted := by
    intro count out htrue
    obtain ⟨l, hlength, hout⟩ := hc.allocN_pieces api ((hc.allocN_true_iff api out).mp htrue) out
    refine ⟨l, hlength, hout, ?_⟩
    have hexec := (adapter image api).execBatch_allocN_true (c := c) htrue
    have hpieces : (l.map some).reduceOption = l := by
      unfold List.reduceOption
      rw [List.filterMap_map]
      exact List.filterMap_some
    rw [hexec]
    show c.live ++ (memAllocatorAllocN api count out c.store).2.1.toList.reduceOption = c.live ++ l
    rw [hout, hpieces]
  refused := by
    intro call href
    have hnext := execBatch_cutAt api x c call hc
    obtain ⟨hlive, hstep⟩ := refused_live (x := x) (adapter image api) c call href
    rw [hlive, hstep] at hnext
    refine ⟨hlive, ?_⟩
    rw [hnext.usedBytes api, hc.usedBytes api]
    unfold memAllocatorFixedBytes
    rw [hnext.declared.numBundles, hc.declared.numBundles]

/-- **The adapter over whole runs.** After every list of calls that begins with
a create, the pieces that are still out are disjoint pieces of the arena, the
reported space is theirs, and requests are refused when too few are free. -/
theorem memBlocks_sound (image : MemBlocksImage h) (api : SysMemBlocksApi) (x : SweepStep)
    (calls : List BatchCall) :
    Sound image api (calls.foldl BatchCall.stepAfter x)
      (answers (adapter image api).execBatch ⟨initial image, []⟩
        (.call (.createArena x) :: calls)).2 := by
  have hcreate : CutAt image x (memAllocatorCreateArena x.granularity (initial image)) [] :=
    createArena_cutAt (wellFormed_initial image) x
  exact (run_cutAt api x ⟨memAllocatorCreateArena x.granularity (initial image), []⟩ calls
    hcreate).sound api

end MemBlocks

end ZephyrBench.Mem

/-
ZephyrBench.Mem.Pieces — an arena cut into pieces of one size, and the set bits
of a bitmap.

Nothing here names an allocator: `occupied` lists the set bits below a bound,
`pieceAt` is the address of a piece, and `Carved` says that a list of addresses
is a list of disjoint pieces of the arena.

  * `occupied_set`, `occupied_clear` — setting clear bits adds them to the list,
    clearing a set bit removes it.
  * `carved_of_perm` — the pieces of different indices are carved, in any order.

The slab keeps its free pieces in a list and the pool marks those taken in a
bitmap; both come down to a list of indices without repetition, which is what
`carved_of_perm` asks for.
-/
import Mathlib.Data.List.Perm.Basic
import Mathlib.Data.List.Range
import Mathlib.Order.CompletePartialOrder
import Mathlib.Order.Interval.Set.Disjoint
import Mathlib.Algebra.Order.Ring.Nat

namespace ZephyrBench.Mem

/-! ## 1. Set bits -/

section Occupied

variable {bit bit' : Nat → Bool} {n i : Nat}

/-- The set bits below `n`, in ascending order. -/
def occupied (bit : Nat → Bool) (n : Nat) : List Nat :=
  (List.range n).filter bit

@[simp] theorem mem_occupied : i ∈ occupied bit n ↔ i < n ∧ bit i = true := by
  simp [occupied]

theorem nodup_occupied : (occupied bit n).Nodup :=
  List.nodup_range.filter _

theorem occupied_length_le : (occupied bit n).length ≤ n := by
  have h := List.length_filter_le bit (List.range n)
  rwa [List.length_range] at h

theorem occupied_none (h : ∀ i < n, bit i = false) : occupied bit n = [] := by
  unfold occupied
  rw [List.filter_eq_nil_iff]
  intro i hi
  simp [h i (List.mem_range.mp hi)]

/-- A list without repetition that holds the set bits is a permutation of
`occupied`. -/
theorem occupied_perm {l : List Nat} (hl : l.Nodup)
    (h : ∀ i, i ∈ l ↔ i < n ∧ bit i = true) : (occupied bit n).Perm l := by
  rw [List.perm_ext_iff_of_nodup nodup_occupied hl]
  intro i
  rw [mem_occupied, h]

/-- Setting clear bits adds them. -/
theorem occupied_set {l : List Nat} (hl : l.Nodup) (hclear : ∀ i ∈ l, i < n ∧ bit i = false)
    (hset : ∀ j < n, bit' j = (bit j || decide (j ∈ l))) :
    (occupied bit' n).Perm (occupied bit n ++ l) := by
  apply occupied_perm
  · rw [List.nodup_append]
    refine ⟨nodup_occupied, hl, ?_⟩
    rintro a ha b hb rfl
    simp [(hclear a hb).2] at ha
  · intro i
    rw [List.mem_append, mem_occupied]
    by_cases hi : i < n
    · simp [hi, hset i hi]
    · have hnot : i ∉ l := fun h => hi (hclear i h).1
      simp [hi, hnot]

/-- Clearing a set bit removes it. -/
theorem occupied_clear (hi : i < n) (hset : bit i = true)
    (hclear : ∀ j < n, bit' j = (bit j && decide (j ≠ i))) :
    (occupied bit n).Perm (i :: occupied bit' n) := by
  apply occupied_perm
  · rw [List.nodup_cons]
    exact ⟨by simp [hclear i hi], nodup_occupied⟩
  · intro j
    rw [List.mem_cons, mem_occupied]
    by_cases hj : j = i
    · simp [hj, hi, hset]
    · constructor
      · rintro (rfl | ⟨hlt, hbit⟩)
        · exact absurd rfl hj
        · exact ⟨hlt, by simpa [hclear j hlt, hj] using hbit⟩
      · rintro ⟨hlt, hbit⟩
        exact .inr ⟨hlt, by simp [hclear j hlt, hj, hbit]⟩

end Occupied

/-! ## 2. Pieces -/

section Pieces

variable {base size n i j : Nat}

/-- The first byte of piece `i`. -/
def pieceAt (base size i : Nat) : Nat := base + i * size

theorem pieceAt_disjoint (h : i ≠ j) :
    Disjoint (Set.Ico (pieceAt base size i) (pieceAt base size i + size))
      (Set.Ico (pieceAt base size j) (pieceAt base size j + size)) := by
  have key : ∀ {i j : Nat}, i < j → pieceAt base size i + size ≤ pieceAt base size j := by
    intro i j hij
    have := Nat.mul_le_mul_right size hij
    rw [Nat.succ_mul] at this
    unfold pieceAt
    omega
  rw [Set.Ico_disjoint_Ico]
  rcases Nat.lt_or_gt_of_ne h with hij | hij
  · have := key hij
    omega
  · have := key hij
    omega

theorem pieceAt_inside (h : i < n) :
    Set.Ico (pieceAt base size i) (pieceAt base size i + size) ⊆
      Set.Ico base (base + n * size) := by
  have := Nat.mul_le_mul_right size (show i + 1 ≤ n from h)
  rw [Nat.succ_mul] at this
  apply Set.Ico_subset_Ico <;> unfold pieceAt <;> omega

/-- `live` is a list of disjoint pieces of the `bytes` bytes from `base`. -/
structure Carved (base bytes size : Nat) (live : List Nat) : Prop where
  inside : ∀ a ∈ live, Set.Ico a (a + size) ⊆ Set.Ico base (base + bytes)
  disjoint : live.Pairwise fun a b => Disjoint (Set.Ico a (a + size)) (Set.Ico b (b + size))

/-- The pieces of different indices are carved, in any order. -/
theorem carved_of_perm {live indices : List Nat} (hnodup : indices.Nodup)
    (hlt : ∀ i ∈ indices, i < n) (h : live.Perm (indices.map (pieceAt base size))) :
    Carved base (n * size) size live where
  inside := by
    intro a ha
    rw [h.mem_iff, List.mem_map] at ha
    obtain ⟨i, hi, rfl⟩ := ha
    exact pieceAt_inside (hlt i hi)
  disjoint := by
    rw [h.pairwise_iff fun hab => hab.symm, List.pairwise_map]
    exact hnodup.imp pieceAt_disjoint

end Pieces

end ZephyrBench.Mem

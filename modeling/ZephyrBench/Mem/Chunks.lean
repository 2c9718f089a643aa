/-
ZephyrBench.Mem.Chunks — an arena tiled by chunks.

A heap keeps its arena as a row of chunks, each used or free. An allocation
splits free chunks and marks one of them used (`Allocates`), a free marks a used
one free and merges free neighbours (`Frees`). Which chunk is taken and how far
neighbours are merged is left open, so any policy of a heap fits.

  * `Refines.usedFrom_eq` — splits and merges leave the used chunks alone.
  * `Allocates.usedFrom_perm`, `Frees.usedFrom_perm` — so the used chunks change
    by the one that is handed out or handed back.
  * `Allocates.extent_eq`, `Frees.extent_eq` — and the row keeps its length.

A merge is a split read backwards, so `Frees` uses the same relation as
`Allocates` from the other side, and no lemma is needed twice.
-/
import Mathlib.Algebra.Ring.Nat
import Mathlib.Data.List.Perm.Basic
import Mathlib.Data.List.Nodup
import Mathlib.Logic.Relation

namespace ZephyrBench.Mem

/-! ## 1. Rows of chunks -/

structure Chunk where
  size : Nat
  used : Bool
  size_pos : 0 < size
  deriving DecidableEq

def Chunk.mark (x : Chunk) (used : Bool) : Chunk := { x with used }

@[simp] theorem Chunk.mark_size (x : Chunk) (b : Bool) : (x.mark b).size = x.size := rfl

@[simp] theorem Chunk.mark_used (x : Chunk) (b : Bool) : (x.mark b).used = b := rfl

/-- The length of a row. -/
def extent : List Chunk → Nat
  | [] => 0
  | x :: l => x.size + extent l

/-- Where the chunks of a row begin that itself begins at `c`. -/
def startsFrom (c : Nat) : List Chunk → List Nat
  | [] => []
  | x :: l => c :: startsFrom (c + x.size) l

/-- The used chunks of the row, each with its start and its size. -/
def usedFrom (c : Nat) : List Chunk → List (Nat × Nat)
  | [] => []
  | x :: l => if x.used then (c, x.size) :: usedFrom (c + x.size) l else usedFrom (c + x.size) l

/-- The length of the used chunks. -/
def usedUnits : List Chunk → Nat
  | [] => 0
  | x :: l => if x.used then x.size + usedUnits l else usedUnits l

variable {c n : Nat} {l l' pre post : List Chunk} {x : Chunk}

theorem extent_append (l l' : List Chunk) : extent (l ++ l') = extent l + extent l' := by
  induction l with
  | nil => rw [List.nil_append, extent, Nat.zero_add]
  | cons x l ih => rw [List.cons_append, extent, extent, ih, Nat.add_assoc]

theorem length_le_extent (l : List Chunk) : l.length ≤ extent l := by
  induction l with
  | nil => exact Nat.le_refl 0
  | cons x l ih =>
    have hpos := x.size_pos
    rw [List.length_cons, extent]
    omega

theorem usedFrom_append (c : Nat) (l l' : List Chunk) :
    usedFrom c (l ++ l') = usedFrom c l ++ usedFrom (c + extent l) l' := by
  induction l generalizing c with
  | nil => rfl
  | cons x l ih =>
    rw [List.cons_append, usedFrom, usedFrom, ih, extent, Nat.add_assoc]
    split <;> rfl

theorem usedFrom_cons_used (h : x.used = true) :
    usedFrom c (x :: l) = (c, x.size) :: usedFrom (c + x.size) l := by
  rw [usedFrom, if_pos h]

theorem usedFrom_cons_free (h : x.used = false) :
    usedFrom c (x :: l) = usedFrom (c + x.size) l := by
  rw [usedFrom, if_neg (by rw [h]; exact Bool.false_ne_true)]

/-- A used chunk is somewhere in the row. -/
theorem exists_of_mem_usedFrom {u : Nat × Nat} (h : u ∈ usedFrom c l) :
    ∃ pre x post, l = pre ++ x :: post ∧ x.used = true ∧ u = (c + extent pre, x.size) := by
  induction l generalizing c with
  | nil => exact absurd h List.not_mem_nil
  | cons y l ih =>
    have hrest : u ∈ usedFrom (c + y.size) l →
        ∃ pre x post, y :: l = pre ++ x :: post ∧ x.used = true ∧ u = (c + extent pre, x.size) := by
      intro hu
      obtain ⟨pre, x, post, rfl, hx, rfl⟩ := ih hu
      exact ⟨y :: pre, x, post, rfl, hx, by rw [extent, Nat.add_assoc]⟩
    cases hy : y.used with
    | false => exact hrest (usedFrom_cons_free hy ▸ h)
    | true =>
      rw [usedFrom_cons_used hy, List.mem_cons] at h
      rcases h with rfl | h
      · exact ⟨[], y, l, rfl, hy, rfl⟩
      · exact hrest h

theorem exists_of_mem_startsFrom {p : Nat} (h : p ∈ startsFrom c l) :
    ∃ pre x post, l = pre ++ x :: post ∧ p = c + extent pre := by
  induction l generalizing c with
  | nil => exact absurd h List.not_mem_nil
  | cons y l ih =>
    rw [startsFrom, List.mem_cons] at h
    rcases h with rfl | h
    · exact ⟨[], y, l, rfl, rfl⟩
    · obtain ⟨pre, x, post, rfl, rfl⟩ := ih h
      exact ⟨y :: pre, x, post, rfl, by rw [extent, Nat.add_assoc]⟩

theorem le_of_mem_startsFrom {p : Nat} (h : p ∈ startsFrom c l) : c ≤ p := by
  induction l generalizing c with
  | nil => exact absurd h List.not_mem_nil
  | cons x l ih =>
    rw [startsFrom, List.mem_cons] at h
    rcases h with rfl | h
    · exact Nat.le_refl p
    · have hle := ih h
      omega

theorem startsFrom_append (c : Nat) (l l' : List Chunk) :
    startsFrom c (l ++ l') = startsFrom c l ++ startsFrom (c + extent l) l' := by
  induction l generalizing c with
  | nil => rfl
  | cons x l ih => rw [List.cons_append, startsFrom, startsFrom, ih, extent, Nat.add_assoc,
      List.cons_append]

theorem length_startsFrom (c : Nat) (l : List Chunk) : (startsFrom c l).length = l.length := by
  induction l generalizing c with
  | nil => rfl
  | cons x l ih => rw [startsFrom, List.length_cons, List.length_cons, ih]

/-- No two chunks begin at the same place. -/
theorem nodup_startsFrom (c : Nat) (l : List Chunk) : (startsFrom c l).Nodup := by
  induction l generalizing c with
  | nil => exact List.nodup_nil
  | cons x l ih =>
    rw [startsFrom, List.nodup_cons]
    refine ⟨?_, ih _⟩
    intro h
    have hle := le_of_mem_startsFrom h
    have hpos := x.size_pos
    omega

theorem usedFrom_sublist (c : Nat) (l : List Chunk) :
    ((usedFrom c l).map Prod.fst).Sublist (startsFrom c l) := by
  induction l generalizing c with
  | nil => exact List.Sublist.refl []
  | cons x l ih =>
    cases hx : x.used with
    | false =>
      rw [usedFrom_cons_free hx]
      exact (ih _).cons c
    | true =>
      rw [usedFrom_cons_used hx]
      exact (ih _).cons_cons c

theorem nodup_usedFrom (c : Nat) (l : List Chunk) : ((usedFrom c l).map Prod.fst).Nodup :=
  (nodup_startsFrom c l).sublist (usedFrom_sublist c l)

theorem usedUnits_cons_used (h : x.used = true) : usedUnits (x :: l) = x.size + usedUnits l := by
  rw [usedUnits, if_pos h]

theorem usedUnits_cons_free (h : x.used = false) : usedUnits (x :: l) = usedUnits l := by
  rw [usedUnits, if_neg (by rw [h]; exact Bool.false_ne_true)]

theorem sum_usedFrom (c : Nat) (l : List Chunk) :
    ((usedFrom c l).map Prod.snd).sum = usedUnits l := by
  induction l generalizing c with
  | nil => rfl
  | cons x l ih =>
    cases hx : x.used with
    | false => rw [usedFrom_cons_free hx, usedUnits_cons_free hx, ih]
    | true => rw [usedFrom_cons_used hx, usedUnits_cons_used hx, List.map_cons, List.sum_cons, ih]

/-- Chunks are not empty, so used ones have a length. -/
theorem usedFrom_eq_nil (c : Nat) (h : usedUnits l = 0) : usedFrom c l = [] := by
  induction l generalizing c with
  | nil => rfl
  | cons x l ih =>
    cases hx : x.used with
    | false =>
      rw [usedUnits_cons_free hx] at h
      rw [usedFrom_cons_free hx, ih _ h]
    | true =>
      rw [usedUnits_cons_used hx] at h
      have hpos := x.size_pos
      omega

/-- The used chunks are no longer than the row. -/
theorem usedUnits_le (l : List Chunk) : usedUnits l ≤ extent l := by
  induction l with
  | nil => exact Nat.le_refl 0
  | cons x l ih =>
    rw [extent]
    cases hx : x.used with
    | false =>
      rw [usedUnits_cons_free hx]
      omega
    | true =>
      rw [usedUnits_cons_used hx]
      omega

/-! ## 2. Splits and merges -/

/-- A free chunk is cut in two. -/
inductive Splits : List Chunk → List Chunk → Prop
  | split (pre post : List Chunk) {x y z : Chunk} (hx : x.used = false) (hy : y.used = false)
      (hz : z.used = false) (hsize : x.size + y.size = z.size) :
      Splits (pre ++ z :: post) (pre ++ x :: y :: post)

theorem Splits.usedFrom_eq (h : Splits l l') (c : Nat) : usedFrom c l' = usedFrom c l := by
  cases h with
  | split pre post hx hy hz hsize =>
    rw [usedFrom_append, usedFrom_append, usedFrom_cons_free hx, usedFrom_cons_free hy,
      usedFrom_cons_free hz, Nat.add_assoc, hsize]

theorem Splits.extent_eq (h : Splits l l') : extent l' = extent l := by
  cases h with
  | split pre post hx hy hz hsize =>
    rw [extent_append, extent_append, extent, extent, extent, ← Nat.add_assoc _ _ (extent post),
      hsize]

/-- The row `l'` is `l` with free chunks split. -/
abbrev Refines : List Chunk → List Chunk → Prop := Relation.ReflTransGen Splits

theorem Refines.usedFrom_eq (h : Refines l l') (c : Nat) : usedFrom c l' = usedFrom c l := by
  induction h with
  | refl => rfl
  | tail _ hlast ih => rw [hlast.usedFrom_eq, ih]

theorem Refines.extent_eq (h : Refines l l') : extent l' = extent l := by
  induction h with
  | refl => rfl
  | tail _ hlast ih => rw [hlast.extent_eq, ih]

/-! ## 3. Allocations and frees -/

/-- Free chunks are split, and the one that then begins at `c` is marked used. -/
inductive Allocates (c : Nat) (l : List Chunk) : List Chunk → Prop
  | mark (pre post : List Chunk) {x : Chunk} (hsplit : Refines l (pre ++ x :: post))
      (hx : x.used = false) (hc : extent pre = c) : Allocates c l (pre ++ x.mark true :: post)

/-- The used chunk that begins at `c` is marked free, and free neighbours are
merged. -/
inductive Frees (c : Nat) : List Chunk → List Chunk → Prop
  | mark (pre post : List Chunk) {x : Chunk} (hx : x.used = true) (hc : extent pre = c)
      {l' : List Chunk} (hmerge : Refines l' (pre ++ x.mark false :: post)) :
      Frees c (pre ++ x :: post) l'

/-- Marking a chunk used adds it to the used chunks. -/
theorem usedFrom_mark (x : Chunk) (pre post : List Chunk) :
    (usedFrom 0 (pre ++ x.mark true :: post)).Perm
      ((extent pre, x.size) :: usedFrom 0 (pre ++ x.mark false :: post)) := by
  rw [usedFrom_append, usedFrom_append, usedFrom_cons_used rfl, usedFrom_cons_free rfl,
    Nat.zero_add]
  exact List.perm_middle

theorem extent_mark (x : Chunk) (b : Bool) (pre post : List Chunk) :
    extent (pre ++ x.mark b :: post) = extent (pre ++ x :: post) := by
  rw [extent_append, extent_append]
  rfl

theorem mark_eq_self {b : Bool} (h : x.used = b) : x.mark b = x := by
  subst h
  rfl

theorem Allocates.usedFrom_perm (h : Allocates c l l') :
    ∃ n, (usedFrom 0 l').Perm ((c, n) :: usedFrom 0 l) := by
  cases h with
  | mark pre post hsplit hx hc =>
    rename_i x
    have hmark := usedFrom_mark x pre post
    rw [mark_eq_self hx, hsplit.usedFrom_eq, hc] at hmark
    exact ⟨_, hmark⟩

theorem Allocates.extent_eq (h : Allocates c l l') : extent l' = extent l := by
  cases h with
  | mark pre post hsplit hx hc => rw [extent_mark, hsplit.extent_eq]

theorem Frees.usedFrom_perm (h : Frees c l l') :
    ∃ n, (usedFrom 0 l).Perm ((c, n) :: usedFrom 0 l') := by
  cases h with
  | mark pre post hx hc hmerge =>
    rename_i x
    have hmark := usedFrom_mark x pre post
    rw [mark_eq_self hx, hmerge.usedFrom_eq, hc] at hmark
    exact ⟨_, hmark⟩

theorem Frees.extent_eq (h : Frees c l l') : extent l' = extent l := by
  cases h with
  | mark pre post hx hc hmerge =>
    have hmark := hmerge.extent_eq
    rw [extent_mark] at hmark
    exact hmark.symm

end ZephyrBench.Mem

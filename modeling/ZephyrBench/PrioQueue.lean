/-
ZephyrBench.PrioQueue — lists kept in priority order.

A kernel keeps its ready queue and every wait queue as a list sorted by
priority, first come first served among equals; a lower number is a higher
priority. `insertPrio` is the insertion into such a list, `enqueueAll` that of
several threads one after the other, and `sortPrio` the queue that this makes
of an empty one.

What is proved:

  * `insertPrio_append_of_le`, `insertPrio_of_lt`, `insertPrio_between` — where
    an insertion lands when the priorities of the neighbours are known. The
    condition is `≤` in front and `<` behind: a thread goes behind its equals.
  * `SortedPrio.insertPrio` — a sorted list stays sorted.
  * `insertPrio_perm`, `sortPrio_perm` — nothing is lost and nothing doubled.
  * `enqueueAll_sorted` — a sorted list inserted between a front of higher or
    equal and a back of lower priority keeps its order.
  * `sortPrio_eq_self` — so a group that queues up in priority order stays in
    the order of its arrival.

The priorities are a function on the threads and not a field of a list item, so
a list of threads means what it says whatever else is known of them.
-/
import Mathlib.Data.List.Basic
import Mathlib.Data.List.Induction
import Mathlib.Data.List.Perm.Basic

namespace ZephyrBench

variable {T : Type*} (prio : T → Nat)

/-- Insert `t` behind every entry of the same or a higher priority. -/
def insertPrio (t : T) : List T → List T
  | [] => [t]
  | u :: q => if prio u ≤ prio t then u :: insertPrio t q else t :: u :: q

/-- The list is in priority order. -/
def SortedPrio (l : List T) : Prop :=
  l.Pairwise fun a b => prio a ≤ prio b

@[simp] theorem insertPrio_nil (t : T) : insertPrio prio t [] = [t] := rfl

variable {prio}

theorem insertPrio_append_of_le {t : T} {a : List T} (b : List T)
    (h : ∀ u ∈ a, prio u ≤ prio t) :
    insertPrio prio t (a ++ b) = a ++ insertPrio prio t b := by
  induction a with
  | nil => rfl
  | cons u a ih =>
    have hu : prio u ≤ prio t := h u (by simp)
    simp only [List.cons_append, insertPrio, if_pos hu]
    rw [ih fun v hv => h v (by simp [hv])]

theorem insertPrio_of_le {t : T} {a : List T} (h : ∀ u ∈ a, prio u ≤ prio t) :
    insertPrio prio t a = a ++ [t] := by
  simpa using insertPrio_append_of_le [] h

theorem insertPrio_of_lt {t : T} {l : List T} (h : ∀ u ∈ l, prio t < prio u) :
    insertPrio prio t l = t :: l := by
  cases l with
  | nil => rfl
  | cons u q =>
    have hu : ¬ prio u ≤ prio t := Nat.not_le.mpr (h u (by simp))
    simp only [insertPrio, if_neg hu]

theorem insertPrio_append_of_lt {t : T} {a b : List T} (h : ∀ u ∈ b, prio t < prio u) :
    insertPrio prio t (a ++ b) = insertPrio prio t a ++ b := by
  induction a with
  | nil => exact insertPrio_of_lt h
  | cons u a ih =>
    simp only [List.cons_append, insertPrio, ih]
    split <;> rfl

/-- Between a front of higher or equal and a back of lower priority. -/
theorem insertPrio_between {t : T} {a b : List T} (ha : ∀ u ∈ a, prio u ≤ prio t)
    (hb : ∀ u ∈ b, prio t < prio u) : insertPrio prio t (a ++ b) = a ++ t :: b := by
  rw [insertPrio_append_of_le b ha, insertPrio_of_lt hb]

theorem insertPrio_perm (t : T) (l : List T) : (insertPrio prio t l).Perm (t :: l) := by
  induction l with
  | nil => exact List.Perm.refl _
  | cons u q ih =>
    simp only [insertPrio]
    split
    · exact (ih.cons u).trans (List.Perm.swap t u q)
    · exact List.Perm.refl _

theorem mem_insertPrio {t u : T} {l : List T} : u ∈ insertPrio prio t l ↔ u = t ∨ u ∈ l := by
  rw [(insertPrio_perm t l).mem_iff, List.mem_cons]

theorem SortedPrio.of_cons {t : T} {l : List T} (h : SortedPrio prio (t :: l)) :
    SortedPrio prio l :=
  (List.pairwise_cons.mp h).2

theorem SortedPrio.insertPrio {t : T} {l : List T} (h : SortedPrio prio l) :
    SortedPrio prio (insertPrio prio t l) := by
  induction l with
  | nil => exact List.pairwise_singleton _ _
  | cons u q ih =>
    obtain ⟨hu, hq⟩ := List.pairwise_cons.mp h
    simp only [ZephyrBench.insertPrio]
    split
    · rename_i hle
      refine List.pairwise_cons.mpr ⟨fun v hv => ?_, ih hq⟩
      rcases mem_insertPrio.mp hv with rfl | hv
      · exact hle
      · exact hu v hv
    · rename_i hlt
      refine List.pairwise_cons.mpr ⟨fun v hv => ?_, h⟩
      rcases List.mem_cons.mp hv with rfl | hv
      · omega
      · have := hu v hv
        omega

/-- The insertion looks only at the priorities of the items at hand. -/
theorem insertPrio_map {α : Type*} {p : α → Nat} {f : α → T} {x : α} {l : List α}
    (h : ∀ y ∈ x :: l, prio (f y) = p y) :
    insertPrio prio (f x) (l.map f) = (ZephyrBench.insertPrio p x l).map f := by
  induction l with
  | nil => rfl
  | cons y l ih =>
    have hx : prio (f x) = p x := h x (by simp)
    have hy : prio (f y) = p y := h y (by simp)
    have ih := ih fun z hz => h z (by
      rcases List.mem_cons.mp hz with rfl | hz
      · simp
      · simp [hz])
    simp only [List.map_cons, insertPrio, hx, hy, ih]
    split <;> rfl

/-! ## Several insertions -/

variable (prio) in
/-- Insert the threads of `l`, one after the other. -/
def enqueueAll : List T → List T → List T
  | [], q => q
  | t :: l, q => enqueueAll l (insertPrio prio t q)

@[simp] theorem enqueueAll_nil (q : List T) : enqueueAll prio [] q = q := rfl

@[simp] theorem enqueueAll_cons (t : T) (l q : List T) :
    enqueueAll prio (t :: l) q = enqueueAll prio l (insertPrio prio t q) := rfl

theorem enqueueAll_append (a b q : List T) :
    enqueueAll prio (a ++ b) q = enqueueAll prio b (enqueueAll prio a q) := by
  induction a generalizing q with
  | nil => rfl
  | cons t a ih => exact ih (insertPrio prio t q)

/-- A sorted list inserted between a front of higher or equal and a back of
lower priority keeps its order. -/
theorem enqueueAll_sorted {a l b : List T} (hl : SortedPrio prio l)
    (ha : ∀ u ∈ a, ∀ t ∈ l, prio u ≤ prio t) (hb : ∀ t ∈ l, ∀ u ∈ b, prio t < prio u) :
    enqueueAll prio l (a ++ b) = a ++ l ++ b := by
  induction l generalizing a with
  | nil => simp
  | cons x l ih =>
    obtain ⟨hx, hl⟩ := List.pairwise_cons.mp hl
    rw [enqueueAll_cons, insertPrio_between (fun u hu => ha u hu x (by simp)) (hb x (by simp))]
    have hax : ∀ u ∈ a ++ [x], ∀ t ∈ l, prio u ≤ prio t := by
      intro u hu t ht
      rcases List.mem_append.mp hu with hu | hu
      · exact ha u hu t (by simp [ht])
      · exact List.mem_singleton.mp hu ▸ hx t ht
    have := ih hl hax fun t ht => hb t (by simp [ht])
    simpa using this

/-! ## The order in which a group of threads queues up -/

variable (prio) in
/-- The queue that results from inserting the threads of `l`, in that order. -/
def sortPrio (l : List T) : List T := enqueueAll prio l []

theorem sortPrio_append_singleton (l : List T) (t : T) :
    sortPrio prio (l ++ [t]) = insertPrio prio t (sortPrio prio l) := by
  simp [sortPrio, enqueueAll_append]

theorem sortPrio_sorted (l : List T) : SortedPrio prio (sortPrio prio l) := by
  induction l using List.reverseRecOn with
  | nil => exact List.Pairwise.nil
  | append_singleton l t ih =>
    rw [sortPrio_append_singleton]
    exact ih.insertPrio

/-- A group that queues up in priority order keeps its order. -/
theorem sortPrio_eq_self {l : List T} (h : SortedPrio prio l) : sortPrio prio l = l := by
  have := enqueueAll_sorted (a := []) (b := []) h (by simp) (by simp)
  simpa [sortPrio] using this

theorem sortPrio_perm (l : List T) : (sortPrio prio l).Perm l := by
  induction l using List.reverseRecOn with
  | nil => exact List.Perm.refl _
  | append_singleton l t ih =>
    rw [sortPrio_append_singleton]
    exact (insertPrio_perm _ _).trans ((ih.cons t).trans (List.perm_append_singleton t l).symm)

theorem mem_sortPrio {t : T} {l : List T} : t ∈ sortPrio prio l ↔ t ∈ l :=
  (sortPrio_perm l).mem_iff

theorem sortPrio_nodup {l : List T} (h : l.Nodup) : (sortPrio prio l).Nodup :=
  (sortPrio_perm l).nodup_iff.mpr h

end ZephyrBench

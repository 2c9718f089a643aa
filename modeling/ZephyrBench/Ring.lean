/-
ZephyrBench.Ring — transfers through a ring buffer.

A ring copies `len` items from its current offset on, up to its end, and what is
left from its start. The offset stays where the transfer ended, also when the
ring is empty. `Crosses` says that a transfer meets the end of the ring, and
`crosses_iff` that it does if and only if `size < offset + len`: a transfer that
ends exactly at the end is in one piece.

The second part is about a sweep: `N` transfers of each of the sizes `min`,
`2 * min`, `4 * min`, …, through one ring that is as large as the largest.

  * `stepOffset_eq`, `transferOffset_eq` — where a step and a transfer begin.
    The steps before step `s` have moved the offset by `min * N * (2 ^ s - 1)`.
  * `not_sweepCrosses` — if `2 ^ s` divides `N`, no transfer of step `s` is
    split.
  * `existsUnique_sweepCrosses` — if it does not, one of every round of the
    ring is, whichever transfer the round is counted from.
  * `exists_sweepCrosses_iff` — so a step with as many transfers as a round has
    a split if and only if `2 ^ s` does not divide `N`.

The last needs the round: a step with fewer transfers than a round may end
before it gets to the one that is split. The size of the ring does not enter
into the condition, because it is a multiple of the size of every step.
-/
import Mathlib.Data.Nat.ModEq
import Mathlib.Logic.Function.Iterate
import Mathlib.Tactic.Ring

namespace ZephyrBench.Ring

/-! ## 1. Transfers -/

/-- The offset after a transfer of `len` items. -/
def advance (size len offset : Nat) : Nat := (offset + len) % size

/-- What a transfer copies, each piece as an offset and a length. -/
def pieces (size offset len : Nat) : List (Nat × Nat) :=
  if offset + len ≤ size then [(offset, len)]
  else [(offset, size - offset), (0, len - (size - offset))]

/-- The transfer is split at the end of the ring. -/
def Crosses (size offset len : Nat) : Prop := (pieces size offset len).length = 2

theorem crosses_iff {size offset len : Nat} : Crosses size offset len ↔ size < offset + len := by
  unfold Crosses pieces
  split
  · rename_i hle
    exact iff_of_false (by simp) (Nat.not_lt.mpr hle)
  · rename_i hgt
    exact iff_of_true rfl (Nat.not_le.mp hgt)

instance (size offset len : Nat) : Decidable (Crosses size offset len) :=
  decidable_of_iff _ crosses_iff.symm

theorem iterate_advance {size offset : Nat} (h : offset < size) (len i : Nat) :
    (advance size len)^[i] offset = (offset + i * len) % size := by
  induction i with
  | zero => rw [Nat.zero_mul, Nat.add_zero, Nat.mod_eq_of_lt h, Function.iterate_zero_apply]
  | succ i ih =>
    rw [Function.iterate_succ_apply', ih, advance, Nat.mod_add_mod, Nat.succ_mul, Nat.add_assoc]

/-! ## 2. Sweeps -/

variable (min N S : Nat)

/-- The size of the last step. -/
def sweepSize : Nat := min <<< (S - 1)

/-- The offset at the start of a step. -/
def stepOffset : Nat → Nat
  | 0 => 0
  | s + 1 => (advance (sweepSize min S) (min <<< s))^[N] (stepOffset s)

/-- The offset at the start of transfer `i` of step `s`. -/
def transferOffset (s i : Nat) : Nat :=
  (advance (sweepSize min S) (min <<< s))^[i] (stepOffset min N S s)

/-- Transfer `i` of step `s` is split. -/
abbrev SweepCrosses (s i : Nat) : Prop :=
  Crosses (sweepSize min S) (transferOffset min N S s i) (min <<< s)

variable {min N S} {s i : Nat}

theorem sweepSize_eq : sweepSize min S = min * 2 ^ (S - 1) := Nat.shiftLeft_eq ..

theorem sweepSize_pos (hmin : 0 < min) : 0 < sweepSize min S := by
  rw [sweepSize_eq]
  exact Nat.mul_pos hmin (Nat.two_pow_pos _)

theorem stepOffset_lt (hmin : 0 < min) : stepOffset min N S s < sweepSize min S := by
  induction s with
  | zero => exact sweepSize_pos hmin
  | succ s ih =>
    rw [stepOffset, iterate_advance ih]
    exact Nat.mod_lt _ (sweepSize_pos hmin)

/-- The steps before step `s` have passed `2 ^ s - 1` times the smallest size,
`N` times. -/
theorem stepOffset_eq (hmin : 0 < min) :
    stepOffset min N S s = min * N * (2 ^ s - 1) % sweepSize min S := by
  induction s with
  | zero => rw [stepOffset, Nat.pow_zero, Nat.sub_self, Nat.mul_zero, Nat.zero_mod]
  | succ s ih =>
    have hpos := Nat.two_pow_pos s
    have hsum : 2 ^ (s + 1) - 1 = 2 ^ s - 1 + 2 ^ s := by rw [Nat.pow_succ]; omega
    rw [stepOffset, iterate_advance (stepOffset_lt hmin), ih, Nat.mod_add_mod, Nat.shiftLeft_eq,
      hsum]
    congr 1
    ring

theorem transferOffset_eq (hmin : 0 < min) :
    transferOffset min N S s i = min * ((N * (2 ^ s - 1) + i * 2 ^ s) % 2 ^ (S - 1)) := by
  rw [transferOffset, iterate_advance (stepOffset_lt hmin), stepOffset_eq hmin, Nat.mod_add_mod,
    Nat.shiftLeft_eq, sweepSize_eq, ← Nat.mul_mod_mul_left]
  congr 1
  ring

theorem transferOffset_lt (hmin : 0 < min) :
    transferOffset min N S s i < sweepSize min S := by
  rw [transferOffset_eq hmin, sweepSize_eq]
  exact Nat.mul_lt_mul_of_pos_left (Nat.mod_lt _ (Nat.two_pow_pos _)) hmin

theorem transferOffset_succ :
    transferOffset min N S s (i + 1) =
      advance (sweepSize min S) (min <<< s) (transferOffset min N S s i) :=
  Function.iterate_succ_apply' ..

theorem transferOffset_last : transferOffset min N S s N = transferOffset min N S (s + 1) 0 := rfl

/-- What a step is away from the multiples of its size. -/
theorem dvd_mul_pred_iff {w : Nat} (hw : 0 < w) : w ∣ N * (w - 1) ↔ w ∣ N := by
  have hsum : N * (w - 1) + N = N * w := by
    rw [← Nat.mul_succ, Nat.succ_eq_add_one, Nat.sub_add_cancel hw]
  have hdvd : w ∣ N * (w - 1) + N := hsum ▸ Nat.dvd_mul_left w N
  constructor
  · intro h
    exact (Nat.dvd_add_right h).mp hdvd
  · intro h
    exact (Nat.dvd_add_left h).mp hdvd

/-- A transfer is split if the step is off the multiples of its size and the
transfer is the last of its round. -/
theorem sweepCrosses_iff (hmin : 0 < min) (hs : s < S) :
    SweepCrosses min N S s i ↔
      ¬ 2 ^ s ∣ N ∧
        (N * (2 ^ s - 1) / 2 ^ s + i) % 2 ^ (S - 1 - s) = 2 ^ (S - 1 - s) - 1 := by
  have hpow : 2 ^ (S - 1) = 2 ^ s * 2 ^ (S - 1 - s) := by
    rw [← Nat.pow_add]
    congr 1
    omega
  have hw := Nat.two_pow_pos s
  have hround := Nat.two_pow_pos (S - 1 - s)
  rw [← dvd_mul_pred_iff hw, Nat.dvd_iff_mod_eq_zero, SweepCrosses, crosses_iff,
    transferOffset_eq hmin, sweepSize_eq, Nat.shiftLeft_eq, ← Nat.mul_add,
    Nat.mul_lt_mul_left hmin, hpow, Nat.mod_mul, Nat.add_mul_mod_self_right,
    Nat.add_mul_div_right _ _ hw]
  generalize 2 ^ s = w at *
  generalize 2 ^ (S - 1 - s) = rounds at *
  have hr := Nat.mod_lt (N * (w - 1)) hw
  have hq := Nat.mod_lt (N * (w - 1) / w + i) hround
  generalize N * (w - 1) % w = r at *
  generalize (N * (w - 1) / w + i) % rounds = q at *
  constructor
  · intro hlt
    have hlast : q = rounds - 1 := by
      by_contra hne
      have hle := Nat.mul_le_mul_left w (show q + 2 ≤ rounds by omega)
      rw [Nat.mul_add] at hle
      omega
    refine ⟨?_, hlast⟩
    rintro rfl
    have hle := Nat.mul_le_mul_left w (show q + 1 ≤ rounds by omega)
    rw [Nat.mul_add] at hle
    omega
  · rintro ⟨hne, hlast⟩
    have heq : w * (q + 1) = w * rounds := by rw [show q + 1 = rounds by omega]
    rw [Nat.mul_add] at heq
    omega

/-- Numbers of a round that have the same residue are the same. -/
theorem eq_of_residue_eq {q n a b : Nat} (hle : a ≤ b) (hlt : b < a + n)
    (h : (q + a) % n = (q + b) % n) : a = b := by
  have hmod : a ≡ b [MOD n] := Nat.ModEq.add_left_cancel' q h
  have hdvd := (Nat.modEq_iff_dvd' hle).mp hmod
  have hzero := Nat.eq_zero_of_dvd_of_lt hdvd (by omega)
  omega

/-- A round has each residue once. -/
theorem existsUnique_residue (q i : Nat) {n r : Nat} (hr : r < n) :
    ∃! j, (i ≤ j ∧ j < i + n) ∧ (q + j) % n = r := by
  have hn : 0 < n := Nat.lt_of_le_of_lt (Nat.zero_le r) hr
  have hlt := Nat.mod_lt (q + i) hn
  have hmod := Nat.mod_lt (r + n - (q + i) % n) hn
  have hresidue : (q + (i + (r + n - (q + i) % n) % n)) % n = r := by
    have hdiv := Nat.mod_add_div (q + i) n
    have hsum : q + i + (r + n - (q + i) % n) = r + n * ((q + i) / n + 1) := by
      rw [Nat.mul_add]
      omega
    rw [← Nat.add_assoc, Nat.add_mod_mod, hsum, Nat.add_mul_mod_self_left, Nat.mod_eq_of_lt hr]
  refine ⟨i + (r + n - (q + i) % n) % n, ⟨⟨Nat.le_add_right _ _, by omega⟩, hresidue⟩, ?_⟩
  rintro j ⟨⟨hle, hlt'⟩, hj⟩
  have hsame := hj.trans hresidue.symm
  rcases Nat.le_total j (i + (r + n - (q + i) % n) % n) with hj' | hj'
  · exact eq_of_residue_eq hj' (by omega) hsame
  · exact (eq_of_residue_eq hj' (by omega) hsame.symm).symm

/-! ## 3. The law -/

/-- If the size of a step divides the transfers, none of the step is split. -/
theorem not_sweepCrosses (hmin : 0 < min) (hs : s < S) (hdvd : 2 ^ s ∣ N) (i : Nat) :
    ¬ SweepCrosses min N S s i := by
  rw [sweepCrosses_iff hmin hs]
  exact fun h => h.1 hdvd

/-- If it does not, one of every round is. -/
theorem existsUnique_sweepCrosses (hmin : 0 < min) (hs : s < S) (hdvd : ¬ 2 ^ s ∣ N) (i : Nat) :
    ∃! j, (i ≤ j ∧ j < i + 2 ^ (S - 1 - s)) ∧ SweepCrosses min N S s j := by
  have hround := Nat.two_pow_pos (S - 1 - s)
  have hlast : 2 ^ (S - 1 - s) - 1 < 2 ^ (S - 1 - s) := by omega
  simp only [sweepCrosses_iff hmin hs, hdvd, not_false_eq_true, true_and]
  exact existsUnique_residue _ i hlast

/-- So a step of a round or more has a split if and only if its size does not
divide the transfers. -/
theorem exists_sweepCrosses_iff (hmin : 0 < min) (hs : s < S) (hN : 2 ^ (S - 1 - s) ≤ N) :
    (∃ i < N, SweepCrosses min N S s i) ↔ ¬ 2 ^ s ∣ N := by
  constructor
  · rintro ⟨i, -, hi⟩ hdvd
    exact not_sweepCrosses hmin hs hdvd i hi
  · intro hdvd
    obtain ⟨j, ⟨⟨-, hlt⟩, hj⟩, -⟩ := existsUnique_sweepCrosses hmin hs hdvd 0
    exact ⟨j, by omega, hj⟩

end ZephyrBench.Ring

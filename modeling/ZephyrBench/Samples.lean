/-
ZephyrBench.Samples — what a measurement series has been fed with.

`Fed l s` tells which time differences the operations of the measurement
package have put into the series `s`, the latest first. The laws of the package
give their number and nothing else, so it is defined by the operations that a
series has been through and not by what the package keeps.

When every iteration inside an open window finds the two markers at the distance
`d m` (`Timed`), the series `m` of a run is at all times fed with copies of
`d m`:

  * `timed_of_windows` — a statement that says what lay between the markers of
    a sample also says how far apart they are: a marker holds the length of the
    history, so the distance is the length of the window.
  * `Timed.next` — a step of a timed state keeps uniform series.
  * `Timed.run`  — so the series of a run of timed states are uniform at all
    times, which is an induction on the run.

The last section is for programs whose series are many. `Mem.Still` says that a
series has only samples of one length as long as it has no more than it had, so
along a stretch of a run whose number of samples is known to be the same at both
ends the series stay uniform (`Leads.uniformOn`), whatever was executed in
between. A sample is never taken back (`Prim.count_le`), which is why the two
ends are enough.
-/
import ZephyrBench.Rtos.Residual
import ZephyrBench.Verdict

namespace ZephyrBench

open Rtos Rtos.Exec

/-! ## 1. Series -/

section Series

variable {B : Bmth}

/-- The series has been fed with the time differences `l`, the latest first. -/
inductive Fed : List Nat → B.Series → Prop
  | initialized (w) : Fed [] (B.mseriesInitialize w)
  | windowOpen {l s} (h : Fed l s) : Fed l (B.mwindowOpen s)
  | windowClose {l s} (h : Fed l s) : Fed l (B.mwindowClose s)
  | iterate {l s start stop} (h : Fed l s) (hopen : B.isOpen s = true) :
    Fed ((stop - start) :: l) (B.mseriesIterate s start stop).1
  | ignored {l s start stop} (h : Fed l s) (hclosed : B.isOpen s = false) :
    Fed l (B.mseriesIterate s start stop).1

variable {l : List Nat} {s : B.Series}

theorem Fed.length (h : Fed l s) : B.iterationCount s = l.length := by
  induction h with
  | initialized w => exact B.iterationCount_mseriesInitialize w
  | windowOpen h ih => rw [B.iterationCount_mwindowOpen, ih]
  | windowClose h ih => rw [B.iterationCount_mwindowClose, ih]
  | iterate h hopen ih =>
    rw [B.iterationCount_mseriesIterate_open _ _ _ hopen, ih, List.length_cons]
  | ignored h hclosed ih => rw [B.iterationCount_mseriesIterate_closed _ _ _ hclosed, ih]

/-- All samples of the series have the length `d`. -/
def Uniform (d : Nat) (s : B.Series) : Prop := Fed (List.replicate (B.iterationCount s) d) s

theorem Fed.uniform {n d : Nat} (h : Fed (List.replicate n d) s) : Uniform d s := by
  have hlength := h.length
  rw [List.length_replicate] at hlength
  rw [Uniform, hlength]
  exact h

theorem Uniform.windowOpen {d : Nat} (h : Uniform d s) : Uniform d (B.mwindowOpen s) :=
  Fed.uniform (.windowOpen h)

theorem Uniform.windowClose {d : Nat} (h : Uniform d s) : Uniform d (B.mwindowClose s) :=
  Fed.uniform (.windowClose h)

/-- An iteration whose markers have the distance `d`, or outside of the window. -/
theorem Uniform.iterate {d start stop : Nat} (h : Uniform d s)
    (htime : B.isOpen s = true → stop = start + d) :
    Uniform d (B.mseriesIterate s start stop).1 := by
  cases hopen : B.isOpen s with
  | false => exact (Fed.ignored h hopen).uniform
  | true =>
    have hsub : stop - start = d := by
      rw [htime hopen]
      exact Nat.add_sub_cancel_left ..
    have hfed : Fed ((stop - start) :: List.replicate (B.iterationCount s) d)
        (B.mseriesIterate s start stop).1 := .iterate h hopen
    rw [hsub] at hfed
    exact Fed.uniform (n := B.iterationCount s + 1) hfed

end Series

/-! ## 2. Runs -/

variable {T O A F M X V W : Type} [DecidableEq T] [DecidableEq O] [DecidableEq A]
  [DecidableEq M] [DecidableEq X] {B : Bmth} {p : Prog T O A F (Prim M X W) (Mem B M X V)}
  {set : W → Option A → Mem B M X V → Mem B M X V} {s : BenchState B T O A F M X V W}

/-- An iteration that is executed next, inside the window, finds the markers of
series `m` at the distance `d m`. -/
def Timed (d : M → Nat) (s : BenchState B T O A F M X V W) : Prop :=
  (s.kern.irq.pending && s.kern.irq.enabled) = false →
  s.AtStmt fun _ (st : BenchStmt B T O A F M X V W) =>
    match st with
    | .prim (.mseriesIterate m start stop _) =>
      s.mem.isOpen m = true → s.mem.time stop = s.mem.time start + d m
    | _ => True

omit [DecidableEq T] [DecidableEq O] [DecidableEq A] [DecidableEq M] [DecidableEq X] in
/-- The markers of a window are as far apart as it is long. -/
theorem Rtos.State.Window.distance {P : Type} {s : DocState T O A F P (Mem B M X V)}
    {start stop : X} {w : List (Entry T O A F P)} (h : s.Window start stop w) :
    s.mem.time stop = s.mem.time start + w.tail.length := by
  obtain ⟨before, -, hstart, hstop⟩ := h
  rw [hstart, hstop, List.length_append, Nat.add_comm]

omit [DecidableEq T] [DecidableEq O] [DecidableEq A] [DecidableEq M] [DecidableEq X] in
/-- An iteration inside the window of a series that ends a window of the length
`d` gives is timed. -/
theorem timed_of_windows {φ : T → BenchStmt B T O A F M X V W → Prop} {d : M → Nat}
    (h : (s.kern.irq.pending && s.kern.irq.enabled) = false → s.AtStmt φ)
    (hφ : ∀ t m start stop sig, φ t (.prim (.mseriesIterate m start stop sig)) →
      s.mem.isOpen m = true → ∃ w, s.Window start stop w ∧ w.tail.length = d m) : Timed d s := by
  refine fun hirq => (h hirq).mono fun t st hst => ?_
  cases st with
  | prim q =>
    cases q with
    | mseriesIterate m start stop sig =>
      intro hopen
      obtain ⟨w, hw, hlength⟩ := hφ t m start stop sig hst hopen
      rw [hw.distance, hlength]
    | _ => trivial
  | _ => trivial

/-- The primitive iterates no series. -/
def Prim.Idle (q : Prim M X W) : Prop := ∀ m start stop sig, q ≠ .mseriesIterate m start stop sig

/-- All samples of every series have the length that `d` gives. -/
def Mem.Uniform (d : M → Nat) (mem : Mem B M X V) : Prop :=
  ∀ m, ZephyrBench.Uniform (d m) (mem.series m)

omit [DecidableEq M] [DecidableEq X] in
theorem Mem.Uniform.fed {d : M → Nat} {mem : Mem B M X V} (h : mem.Uniform d) {m : M} {n : Nat}
    (hcount : mem.count m = n) : Fed (List.replicate n (d m)) (mem.series m) :=
  hcount ▸ h m

omit [DecidableEq M] [DecidableEq X] in
theorem Mem.Uniform.initial (d : M → Nat) (window : M → ReadWindow) (vars : V) :
    (Mem.initial window vars : Mem B M X V).Uniform d :=
  fun m => Fed.uniform (n := 0) (.initialized (window m))

section Step

variable {d : M → Nat} (hset : ∀ w ret mem, (set w ret mem).series = mem.series)
include hset

omit [DecidableEq A] in
/-- A primitive keeps uniform series, if it times its iteration. -/
theorem Prim.uniform {mem : Mem B M X V} (h : mem.Uniform d) {q : Prim M X W} (now : Nat)
    (ret : Option A)
    (hq : ∀ m start stop sig, q = .mseriesIterate m start stop sig →
      mem.isOpen m = true → mem.time stop = mem.time start + d m) :
    (q.run set now ret mem).Uniform d := by
  intro m
  have hm := h m
  cases q with
  | resetCounter => exact hm
  | getStartCnt x => exact hm
  | getStopCnt x => exact hm
  | signalizeMseriesStop ok => exact hm
  | assign w => simpa [Prim.run, hset] using hm
  | mwindowOpen m' =>
    by_cases heq : m = m'
    · subst heq
      simpa [Prim.run] using Fed.uniform (.windowOpen hm)
    · simpa [Prim.run, heq] using hm
  | mwindowClose m' =>
    by_cases heq : m = m'
    · subst heq
      simpa [Prim.run] using Fed.uniform (.windowClose hm)
    · simpa [Prim.run, heq] using hm
  | mseriesIterate m' start stop sig =>
    by_cases heq : m = m'
    · subst heq
      simpa [Prim.run] using hm.iterate (hq m start stop sig rfl)
    · simpa [Prim.run, heq] using hm

variable (hp : ∀ q now ret mem, p.prim q now ret mem = q.run set now ret mem)
  (hisr : ∀ q, .prim q ∈ p.isr → q.Idle)
include hp hisr

/-- A step of a timed state keeps uniform series. -/
theorem Timed.next (h : Timed d s) (hmem : s.mem.Uniform d) : (p.next s).mem.Uniform d := by
  rcases next_cases p s with ⟨-, hnext⟩ | ⟨t, st, rest, hst, hnext⟩ | hnext
  · rw [hnext]
    refine takeIrq_mem (fun q hq now mem h => ?_) hmem
    rw [hp]
    refine Prim.uniform hset h now none fun m start stop sig heq => ?_
    exact absurd heq (hisr q hq m start stop sig)
  · rw [hnext]
    refine exec_mem (fun q hq => ?_) hmem
    subst hq
    rw [hp]
    refine Prim.uniform hset hmem _ _ fun m start stop sig heq => ?_
    subst heq
    have hstmt := h hst.irq
    unfold State.AtStmt at hstmt
    simpa only [hst.current, hst.code] using hstmt
  · rw [hnext]
    exact hmem

/-- All samples of a run of timed states have the length that `d` gives. -/
theorem Timed.run {r : Nat → BenchState B T O A F M X V W} (hr : ∀ n, r (n + 1) = p.next (r n))
    (hbegin : (r 0).mem.Uniform d) (htimed : ∀ n, Timed d (r n)) (n : Nat) :
    (r n).mem.Uniform d := by
  induction n with
  | zero => exact hbegin
  | succ n ih =>
    rw [hr]
    exact (htimed n).next hset hp hisr ih

end Step

/-! ## 3. Stretches without samples -/

/-- The series that `R` names have only samples of the length that `d` gives. -/
def UniformOn (R : M → Prop) (d : M → Nat) (σ : M → B.Series) : Prop :=
  ∀ m, R m → Uniform (d m) (σ m)

omit [DecidableEq T] [DecidableEq O] [DecidableEq A] [DecidableEq X] in
theorem UniformOn.update {R : M → Prop} {d : M → Nat} {σ : M → B.Series}
    (h : UniformOn R d σ) {m : M} {v : B.Series} (hv : R m → Uniform (d m) v) :
    UniformOn R d (Function.update σ m v) := by
  intro m' hm'
  by_cases heq : m' = m
  · subst heq
    rw [Function.update_self]
    exact hv hm'
  · rw [Function.update_of_ne heq]
    exact h m' hm'

section Stretch

variable {m : M} {c d : Nat} (hset : ∀ w ret mem, (set w ret mem).series = mem.series)
include hset

omit [DecidableEq A] in
/-- A primitive takes no sample back. -/
theorem Prim.count_le (mem : Mem B M X V) (q : Prim M X W) (now : Nat) (ret : Option A) :
    mem.count m ≤ (q.run set now ret mem).count m := by
  cases q with
  | mwindowOpen m' => by_cases heq : m = m' <;> simp [Prim.run, heq]
  | mwindowClose m' => by_cases heq : m = m' <;> simp [Prim.run, heq]
  | mseriesIterate m' start stop sig =>
    by_cases heq : m = m'
    · subst heq
      cases hopen : B.isOpen (mem.series m) <;> simp [Prim.run, hopen]
    · simp [Prim.run, heq]
  | _ => simp [Prim.run, hset]

omit [DecidableEq A] in
/-- A primitive that adds no sample to a uniform series leaves it uniform. -/
theorem Prim.uniform_of_count {mem : Mem B M X V} (h : Uniform d (mem.series m)) {q : Prim M X W}
    (now : Nat) (ret : Option A) (hcount : (q.run set now ret mem).count m = mem.count m) :
    Uniform d ((q.run set now ret mem).series m) := by
  cases q with
  | mwindowOpen m' =>
    by_cases heq : m = m'
    · subst heq
      simpa [Prim.run] using h.windowOpen
    · simpa [Prim.run, heq] using h
  | mwindowClose m' =>
    by_cases heq : m = m'
    · subst heq
      simpa [Prim.run] using h.windowClose
    · simpa [Prim.run, heq] using h
  | mseriesIterate m' start stop sig =>
    by_cases heq : m = m'
    · subst heq
      cases hopen : B.isOpen (mem.series m) with
      | false => simpa [Prim.run] using h.iterate (by simp [hopen])
      | true => simp [Prim.run, hopen] at hcount
    · simpa [Prim.run, heq] using h
  | assign w => simpa [Prim.run, hset] using h
  | _ => simpa [Prim.run] using h

/-- The series `m` has at least `c` samples, and only such of the length `d` as
long as there are no more. -/
def Mem.Still (m : M) (c d : Nat) (mem : Mem B M X V) : Prop :=
  c ≤ mem.count m ∧ (mem.count m = c → ZephyrBench.Uniform d (mem.series m))

omit [DecidableEq A] in
theorem Prim.still {mem : Mem B M X V} (h : mem.Still m c d) (q : Prim M X W) (now : Nat)
    (ret : Option A) : (q.run set now ret mem).Still m c d := by
  obtain ⟨hle, huniform⟩ := h
  have hgrows := q.count_le hset mem now ret (m := m)
  refine ⟨Nat.le_trans hle hgrows, fun hcount => ?_⟩
  have hsame : mem.count m = c := Nat.le_antisymm (hcount ▸ hgrows) hle
  exact Prim.uniform_of_count hset (huniform hsame) now ret (hcount.trans hsame.symm)

variable (hp : ∀ q now ret mem, p.prim q now ret mem = q.run set now ret mem)
include hp

omit hset in
/-- What primitives keep, a step keeps. -/
theorem next_mem {I : Mem B M X V → Prop}
    (hI : ∀ (q : Prim M X W) now ret mem, I mem → I (q.run set now ret mem)) (h : I s.mem) :
    I (p.next s).mem := by
  rcases next_cases p s with ⟨-, hnext⟩ | ⟨t, st, rest, -, hnext⟩ | hnext
  · rw [hnext]
    refine takeIrq_mem (fun q _ now mem h => ?_) h
    rw [hp]
    exact hI q now none mem h
  · rw [hnext]
    refine exec_mem (fun q _ => ?_) h
    rw [hp]
    exact hI q _ _ _ h
  · rw [hnext]
    exact h

theorem next_count_le (s : BenchState B T O A F M X V W) (m : M) :
    s.mem.count m ≤ (p.next s).mem.count m := by
  refine next_mem hp (I := fun mem => s.mem.count m ≤ mem.count m) ?_ (Nat.le_refl _)
  exact fun q now ret mem h => Nat.le_trans h (q.count_le hset mem now ret)

variable {P Q : BenchState B T O A F M X V W → Prop} {t : BenchState B T O A F M X V W}

theorem Steps.count_le (h : Steps p.next P s t) (m : M) : s.mem.count m ≤ t.mem.count m := by
  induction h with
  | refl s => exact Nat.le_refl _
  | head _ _ ih => exact Nat.le_trans (next_count_le hset hp _ m) ih

variable {R : M → Prop} {len : M → Nat}

/-- Along a stretch of a run that adds no samples the series stay uniform. -/
theorem Steps.uniformOn (h : Steps p.next P s t) (hs : UniformOn R len s.mem.series)
    (ht : ∀ m, R m → t.mem.count m = s.mem.count m) :
    Steps p.next (fun u => UniformOn R len u.mem.series) s t ∧ UniformOn R len t.mem.series := by
  induction h with
  | refl s => exact ⟨.refl s, hs⟩
  | @head s t _ hrest ih =>
    have hcount : ∀ m, R m → (p.next s).mem.count m = s.mem.count m := by
      intro m hm
      have hup := next_count_le hset hp s m
      have hdown := hrest.count_le hset hp m
      rw [ht m hm] at hdown
      exact Nat.le_antisymm hdown hup
    have hnext : UniformOn R len (p.next s).mem.series := by
      intro m hm
      have hstill : (p.next s).mem.Still m (s.mem.count m) (len m) :=
        next_mem hp (fun q now ret mem h => Prim.still hset h q now ret)
          ⟨Nat.le_refl _, fun _ => hs m hm⟩
      exact hstill.2 (hcount m hm)
    obtain ⟨hsteps, hlast⟩ := ih hnext fun m hm => (ht m hm).trans (hcount m hm).symm
    exact ⟨.head hs hsteps, hlast⟩

theorem Leads.uniformOn (h : Leads p.next P s Q) (hs : UniformOn R len s.mem.series)
    (hQ : ∀ t, Q t → ∀ m, R m → t.mem.count m = s.mem.count m) :
    Leads p.next (fun u => UniformOn R len u.mem.series) s fun t =>
      Q t ∧ UniformOn R len t.mem.series := by
  obtain ⟨t, hsteps, ht⟩ := h
  obtain ⟨huniform, hlast⟩ := hsteps.uniformOn hset hp hs (hQ t ht)
  exact ⟨t, huniform, ht, hlast⟩

end Stretch

end ZephyrBench

/-
ZephyrBench.VerdictTheorems — what the control task signals.

The last loop of a control task is the only code that signals a verdict. From
the moment at which the control task gets there nothing changes any more but
what has been signalled (`Judging.frozen`), so a verdict that is signalled at
any time is the one on the final series, and all of them are complete by then.
`Announces` is this as a property of a run: before the series are complete
nothing is signalled, and then the one verdict again and again.

## How the proof goes

A program is quiet up to its last loop if a set of states without a signal is
left for the last loop only (`Hushed`). `Hushed.or_judging` runs that set along:
every state of the run is in it, or the control task is judging. From the ending
of the run it follows that the control task gets to the loop, and
`Judging.signals` that it then signals within two steps, which gives "again and
again".

`announces_of_endsIn` is the form for a program whose control task ends in the
loop and whose other code signals nothing: both are read off the text of the
program (`EndsIn`). `announces_of_hushed` is the general one, for a control task
that does something with the series right before the loop.

`StopFree` is the one side condition: the condition of the loop must not depend
on what has been signalled, or the second verdict could differ from the first.
-/
import ZephyrBench.Rtos.Residual
import ZephyrBench.Verdict

namespace ZephyrBench

open Rtos Rtos.Exec

variable {T O A F M X V W : Type} [DecidableEq T] [DecidableEq O] [DecidableEq A]
  [DecidableEq M] [DecidableEq X] {B : Bmth}

/-! ## 1. The last loop -/

/-- The primitive signals no verdict. -/
def Prim.Silent (q : Prim M X W) : Prop := ∀ ok, q ≠ .signalizeMseriesStop ok

/-- No verdict has been signalled. -/
def Mem.Open (mem : Mem B M X V) : Prop := mem.mseriesStop = none

/-- The condition of the last loop does not depend on what was signalled. -/
def StopFree (outliers : Mem B M X V → Bool) : Prop :=
  ∀ (mem : Mem B M X V) stop, outliers { mem with mseriesStop := stop } = outliers mem

/-- The control task `idle` is in its last loop, and what it has signalled and
is about to signal is right. -/
structure Judging (idle : T) (outliers : Mem B M X V → Bool)
    (s : BenchState B T O A F M X V W) : Prop where
  irq : (s.kern.irq.pending && s.kern.irq.enabled) = false
  current : s.kern.current = some idle
  code : VerdictCode outliers (s.code idle)
  signal : ∀ ok rest, s.code idle = .prim (.signalizeMseriesStop ok) :: rest →
    ok = !outliers s.mem
  stop : s.mem.mseriesStop = none ∨ s.mem.mseriesStop = some (!outliers s.mem)

/-- `t` is `s` but for what has been signalled, which is not withdrawn. -/
def Frozen (s t : BenchState B T O A F M X V W) : Prop :=
  t.kern = s.kern ∧ ∃ stop, t.mem = { s.mem with mseriesStop := stop } ∧
    (s.mem.mseriesStop ≠ none → stop ≠ none)

variable {idle : T} {main : F} {outliers : Mem B M X V → Bool}
  {s t u : BenchState B T O A F M X V W} {p : Prog T O A F (Prim M X W) (Mem B M X V)}
  {set : W → Option A → Mem B M X V → Mem B M X V}

omit [DecidableEq T] [DecidableEq O] [DecidableEq A] [DecidableEq M] [DecidableEq X] in
theorem Settled.imp {R R' : Kernel T O A → (M → B.Series) → Prop} (h : Settled idle outliers R s)
    (hR : ∀ k σ, R k σ → R' k σ) : Settled idle outliers R' s :=
  { h with rest := hR _ _ h.rest }

omit [DecidableEq T] [DecidableEq O] [DecidableEq A] [DecidableEq M] [DecidableEq X] in
theorem Frozen.refl (s : BenchState B T O A F M X V W) : Frozen s s :=
  ⟨rfl, s.mem.mseriesStop, rfl, id⟩

omit [DecidableEq T] [DecidableEq O] [DecidableEq A] [DecidableEq M] [DecidableEq X] in
theorem Frozen.trans (h : Frozen s t) (h' : Frozen t u) : Frozen s u := by
  obtain ⟨hkern, stop, hmem, hne⟩ := h
  obtain ⟨hkern', stop', hmem', hne'⟩ := h'
  rw [hmem] at hmem' hne'
  exact ⟨hkern'.trans hkern, stop', hmem', fun h => hne' (hne h)⟩

section Step

variable (hp : ∀ q now ret mem, p.prim q now ret mem = q.run set now ret mem)
include hp

/-- A pass of the last loop: the condition is read, then its verdict is
signalled. -/
theorem Judging.next (hout : StopFree outliers) (h : Judging idle outliers s) :
    Judging idle outliers (p.next s) ∧ Frozen s (p.next s) := by
  obtain ⟨hirq, hcur, hcode, hsignal, hstop⟩ := h
  generalize hc : s.code idle = c at hcode
  cases hcode with
  | head =>
    refine ⟨⟨by simp [*, verdictLoop], by simp [*, verdictLoop], ?_, ?_, ?_⟩, ?_⟩
    · simpa [*, verdictLoop] using VerdictCode.body
    · simp [*, verdictLoop, verdictBody]
    · simp [*, verdictLoop]
    · exact ⟨by simp [*, verdictLoop], s.mem.mseriesStop, by simp [*, verdictLoop], id⟩
  | body =>
    refine ⟨⟨by simp [*, verdictBody], by simp [*, verdictBody], ?_, ?_, ?_⟩, ?_⟩
    · cases ho : outliers s.mem
      · simpa [*, verdictBody] using VerdictCode.signal true
      · simpa [*, verdictBody] using VerdictCode.signal false
    · cases ho : outliers s.mem <;> simp [*, verdictBody]
    · simp [*, verdictBody]
    · exact ⟨by simp [*, verdictBody], s.mem.mseriesStop, by simp [*, verdictBody], id⟩
  | signal ok =>
    have hok : ok = !outliers s.mem := hsignal ok _ hc
    have hfree := hout s.mem (some ok)
    refine ⟨⟨by simp [*], by simp [*], ?_, ?_, ?_⟩, ?_⟩
    · simpa [*] using VerdictCode.head
    · simp [*, verdictLoop]
    · right
      simpa [hirq, hcur, hc, hp, hok] using hfree.symm
    · exact ⟨by simp [*], some ok, by simp [*], fun _ => Option.some_ne_none ok⟩

omit hp [DecidableEq M] [DecidableEq X] in
/-- The first step of the last loop. -/
theorem Judging.enter (hlast : AtLast idle (verdictLoop outliers) s) (hopen : s.mem.Open) :
    Judging idle outliers (p.next s) := by
  obtain ⟨hirq, hcur, hcode⟩ := hlast
  unfold Mem.Open at hopen
  refine ⟨by simp [*, verdictLoop], by simp [*, verdictLoop], ?_, ?_, ?_⟩
  · simpa [*, verdictLoop] using VerdictCode.body
  · simp [*, verdictLoop, verdictBody]
  · simp [*, verdictLoop]

/-- Within two steps the control task is about to signal. -/
theorem Judging.signals (hout : StopFree outliers) (h : Judging idle outliers s) :
    ∃ k, (p.next^[k] s).code idle =
      .prim (.signalizeMseriesStop (!outliers (p.next^[k] s).mem)) :: verdictLoop outliers := by
  have hhead : ∀ t, Judging idle outliers t → t.code idle = verdictBody outliers ++
      verdictLoop outliers → (p.next t).code idle =
        .prim (.signalizeMseriesStop (!outliers (p.next t).mem)) :: verdictLoop outliers := by
    intro t ht hc
    obtain ⟨hirq, hcur, -, -, -⟩ := ht
    cases ho : outliers t.mem <;> simp [*, verdictBody]
  have hcode := h.code
  generalize hc : s.code idle = c at hcode
  cases hcode with
  | head =>
    have hnext : (p.next s).code idle = verdictBody outliers ++ verdictLoop outliers := by
      obtain ⟨hirq, hcur, -, -, -⟩ := h
      simp [*, verdictLoop]
    exact ⟨2, hhead _ (h.next hp hout).1 hnext⟩
  | body => exact ⟨1, hhead s h hc⟩
  | signal ok =>
    refine ⟨0, ?_⟩
    rw [Function.iterate_zero_apply, hc, h.signal ok _ hc]

end Step

/-! ## 2. Runs -/

/-- What the control task makes of a run: before all is as `R` has it nothing
is signalled, then the verdict on the final series is signalled again and
again, and no other. -/
structure Announces (idle : T) (outliers : Mem B M X V → Bool)
    (R : Kernel T O A → (M → B.Series) → Prop) (r : Nat → BenchState B T O A F M X V W) : Prop where
  silent : ∀ n, (r n).mem.mseriesStop ≠ none → R (r n).kern (r n).mem.series
  right : ∀ n ok, (r n).mem.mseriesStop = some ok → ok = !outliers (r n).mem
  final : ∃ ok, Ends r (fun s => s.mem.mseriesStop = some ok)
  again : ∀ n, ∃ m, n ≤ m ∧ (r (m + 1)).log =
    .exec idle (.prim (.signalizeMseriesStop (!outliers (r m).mem))) :: (r m).log

section Run

variable {R : Kernel T O A → (M → B.Series) → Prop} {r : Nat → BenchState B T O A F M X V W}
  (hp : ∀ q now ret mem, p.prim q now ret mem = q.run set now ret mem)
  (hr : ∀ n, r (n + 1) = p.next (r n)) (hout : StopFree outliers)
include hp hr

omit hp [DecidableEq M] [DecidableEq X] in
theorem run_add (n k : Nat) : r (n + k) = p.next^[k] (r n) := by
  induction k with
  | zero => rfl
  | succ k ih => rw [Nat.add_succ, hr, ih, ← Function.iterate_succ_apply' p.next]

include hout

theorem Judging.later {n : Nat} (h : Judging idle outliers (r n)) (k : Nat) :
    Judging idle outliers (r (n + k)) ∧ Frozen (r n) (r (n + k)) := by
  induction k with
  | zero => exact ⟨h, .refl _⟩
  | succ k ih =>
    obtain ⟨hnext, hfrozen⟩ := ih.1.next hp hout
    rw [Nat.add_succ, hr]
    exact ⟨hnext, ih.2.trans hfrozen⟩

/-- A run that is silent up to its last loop, gets there, and ends there as it
should. -/
theorem announces_of_judging (hsilent : ∀ n, (r n).mem.Open ∨ Judging idle outliers (r n))
    (hlate : ∃ n, Judging idle outliers (r n)) (hends : Ends r (Settled idle outliers R)) :
    Announces idle outliers R r := by
  obtain ⟨k, hk⟩ := hlate
  obtain ⟨N, hN⟩ := hends
  -- the pass after state `n`, up to its signal
  have hpass : ∀ n, ∃ m, n ≤ m ∧ Judging idle outliers (r m) ∧ (r m).code idle =
      .prim (.signalizeMseriesStop (!outliers (r m).mem)) :: verdictLoop outliers := by
    intro n
    have hn := (hk.later hp hr hout n).1
    obtain ⟨j, hj⟩ := hn.signals hp hout
    rw [← run_add hr] at hj
    have hkn := (hn.later hp hr hout j).1
    exact ⟨k + n + j, by omega, hkn, hj⟩
  have hsignal : ∀ m, Judging idle outliers (r m) → (r m).code idle =
      .prim (.signalizeMseriesStop (!outliers (r m).mem)) :: verdictLoop outliers →
      (r (m + 1)).mem.mseriesStop = some (!outliers (r m).mem) ∧ (r (m + 1)).log =
        .exec idle (.prim (.signalizeMseriesStop (!outliers (r m).mem))) :: (r m).log := by
    intro m hm hc
    obtain ⟨hirq, hcur, -, -, -⟩ := hm
    rw [hr]
    simp [hirq, hcur, hc, hp]
  refine ⟨?_, ?_, ?_, ?_⟩
  · intro n hn
    have hjudging : Judging idle outliers (r n) := (hsilent n).resolve_left hn
    obtain ⟨-, hkern, stop, hmem, -⟩ := hjudging.later hp hr hout N
    have hrest := (hN (n + N) (Nat.le_add_left N n)).rest
    rw [hkern, hmem] at hrest
    exact hrest
  · intro n ok hok
    have hne : ¬ (r n).mem.Open := by simp [Mem.Open, hok]
    rcases ((hsilent n).resolve_left hne).stop with hstop | hstop
    · rw [hok] at hstop
      cases hstop
    · rw [hok] at hstop
      exact Option.some.inj hstop
  · obtain ⟨m, -, hm, hc⟩ := hpass 0
    have hnext := (hm.later hp hr hout 1).1
    have hstop : (r (m + 1)).mem.mseriesStop ≠ none := by simp [(hsignal m hm hc).1]
    refine ⟨!outliers (r (m + 1)).mem, m + 1, fun n hn => ?_⟩
    obtain ⟨j, rfl⟩ := Nat.exists_eq_add_of_le hn
    obtain ⟨hj, -, stop, hmem, hne⟩ := hnext.later hp hr hout j
    have houtliers : outliers (r (m + 1 + j)).mem = outliers (r (m + 1)).mem := by
      rw [hmem]
      exact hout _ stop
    have hsome : (r (m + 1 + j)).mem.mseriesStop ≠ none := by
      rw [hmem]
      exact hne hstop
    rw [← houtliers]
    exact hj.stop.resolve_left hsome
  · intro n
    obtain ⟨m, hnm, hm, hc⟩ := hpass n
    exact ⟨m, hnm, (hsignal m hm hc).2⟩

end Run

/-! ## 3. Programs whose control task ends in the last loop -/

/-- A set of states without a signal that a run leaves only for the last loop,
with `E` of the variables. -/
structure Hushed (idle : T) (outliers : Mem B M X V → Bool)
    (p : Prog T O A F (Prim M X W) (Mem B M X V)) (Q : BenchState B T O A F M X V W → Prop)
    (E : Mem B M X V → Prop) : Prop where
  silent : ∀ s, Q s → s.mem.Open
  code : ∀ s, Q s → ∀ ok, s.code idle ≠ .prim (.signalizeMseriesStop ok) :: verdictLoop outliers
  next : ∀ s, Q s → Q (p.next s) ∨ Judging idle outliers (p.next s) ∧ E (p.next s).mem

section Program

variable {R : Kernel T O A → (M → B.Series) → Prop} {Q : BenchState B T O A F M X V W → Prop}
  {E : Mem B M X V → Prop} {r : Nat → BenchState B T O A F M X V W}
  (hp : ∀ q now ret mem, p.prim q now ret mem = q.run set now ret mem)
include hp

/-- A settled state has a signal ahead. -/
theorem Settled.signals (h : Settled idle outliers R s) : ∃ k ok, (p.next^[k] s).code idle =
    .prim (.signalizeMseriesStop ok) :: verdictLoop outliers := by
  have hhead : ∀ t, Settled idle outliers R t → t.code idle = verdictBody outliers ++
      verdictLoop outliers → ∃ ok, (p.next t).code idle =
        .prim (.signalizeMseriesStop ok) :: verdictLoop outliers := by
    intro t ht hc
    obtain ⟨hcur, hirq, -, -⟩ := ht
    cases ho : outliers t.mem
    · exact ⟨true, by simp [*, verdictBody]⟩
    · exact ⟨false, by simp [*, verdictBody]⟩
  have hcode := h.code
  generalize hc : s.code idle = c at hcode
  cases hcode with
  | head =>
    have hnext : (p.next s).code idle = verdictBody outliers ++ verdictLoop outliers := by
      obtain ⟨hcur, hirq, -, -⟩ := h
      simp [*, verdictLoop]
    exact ⟨2, hhead _ (h.next hp) hnext⟩
  | body => exact ⟨1, hhead s h hc⟩
  | signal ok => exact ⟨0, ok, hc⟩

/-- A run that begins in a hushed set. -/
theorem Hushed.or_judging (hr : ∀ n, r (n + 1) = p.next (r n)) (hout : StopFree outliers)
    (hE : ∀ mem stop, E mem → E { mem with mseriesStop := stop })
    (hQ : Hushed idle outliers p Q E) (hbegin : Q (r 0)) (n : Nat) :
    Q (r n) ∨ Judging idle outliers (r n) ∧ E (r n).mem := by
  induction n with
  | zero => exact .inl hbegin
  | succ n ih =>
    rw [hr]
    rcases ih with hn | ⟨hn, hmem⟩
    · exact hQ.next _ hn
    · obtain ⟨hnext, -, stop, hstop, -⟩ := hn.next hp hout
      rw [hstop]
      exact .inr ⟨hnext, hE _ stop hmem⟩

/-- A run that begins in a hushed set and ends in the last loop. -/
theorem announces_of_hushed (hr : ∀ n, r (n + 1) = p.next (r n)) (hout : StopFree outliers)
    (hE : ∀ mem stop, E mem → E { mem with mseriesStop := stop })
    (hQ : Hushed idle outliers p Q E) (hbegin : Q (r 0))
    (hends : Ends r (Settled idle outliers R)) : Announces idle outliers R r := by
  have hall : ∀ n, Q (r n) ∨ Judging idle outliers (r n) :=
    fun n => (hQ.or_judging hp hr hout hE hbegin n).imp_right And.left
  have hsilent : ∀ n, (r n).mem.Open ∨ Judging idle outliers (r n) :=
    fun n => (hall n).imp_left (hQ.silent _)
  refine announces_of_judging hp hr hout hsilent ?_ hends
  obtain ⟨N, hN⟩ := hends
  obtain ⟨k, ok, hc⟩ := (hN N (Nat.le_refl N)).signals hp
  rw [← run_add hr] at hc
  exact ⟨N + k, (hall (N + k)).resolve_left fun h => hQ.code _ h ok hc⟩

omit [DecidableEq T] [DecidableEq O] [DecidableEq A] in
/-- A primitive that signals nothing, where no assignment does. -/
theorem Prim.Silent.keeps {q : Prim M X W} (h : q.Silent)
    (hset : ∀ w ret mem, (set w ret mem).mseriesStop = mem.mseriesStop) {now : Nat}
    {ret : Option A} {mem : Mem B M X V} (hopen : mem.Open) : (p.prim q now ret mem).Open := by
  unfold Mem.Open at *
  rw [hp]
  cases q with
  | signalizeMseriesStop ok => exact absurd rfl (h ok)
  | assign w => exact (hset w ret mem).trans hopen
  | _ => exact hopen

omit hp [DecidableEq M] [DecidableEq X] in
/-- Before a control task is in the last loop, its program signals nothing. -/
theorem hushed_of_endsIn (hends : EndsIn p idle main Prim.Silent Mem.Open (verdictLoop outliers)) :
    Hushed idle outliers p (Before idle main Prim.Silent Mem.Open (verdictLoop outliers))
      fun _ => True where
  silent _ hs := hs.mem
  code s hs ok hc := by
    obtain ⟨first, hfirst, hconfined⟩ := hs.control
    have hcancel : first = [.prim (.signalizeMseriesStop ok)] :=
      List.append_cancel_right (hfirst.symm.trans hc)
    subst hcancel
    exact (confined_prim.mp hconfined).1 ok rfl
  next s hs := (hs.next hends).imp_right fun h => ⟨.enter h hs.mem, trivial⟩

/-- A program whose control task ends in the last loop announces, over any
documented kernel. -/
theorem announces_of_endsIn {K : Type} (Z : Zephyr K T O A F) {prio : Nat} {data : Data T A}
    {mem : Mem B M X V} (hout : StopFree outliers) (hopen : mem.Open)
    (hlast : EndsIn p idle main Prim.Silent Mem.Open (verdictLoop outliers))
    (hends : Ends (fun n => (p.run Z idle prio main data mem n).view Z)
      (Settled idle outliers R)) :
    Announces idle outliers R fun n => (p.run Z idle prio main data mem n).view Z := by
  refine announces_of_hushed hp (fun n => run_view_succ Z ..) hout (fun _ _ _ => trivial)
    (hushed_of_endsIn hlast) ?_ hends
  rw [run_view]
  exact hlast.before_run hopen

end Program

end ZephyrBench

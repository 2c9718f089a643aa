/-
ZephyrBench.Rtos.Counts — how often a thread makes a call.

The log of a run says what has been executed, and the code of a thread what it
has still to execute. Where the text of the code settles how often it makes a
call (`Makes`), the calls made and those to be made always add up to the same
number, however the threads are scheduled.

What is proved:

  * `Makes.forUp` — a counted loop makes the calls of its passes.
  * `Makes.left`  — executing a statement takes off the call it makes, and
    nothing else.
  * `CallsCounted.run` — in every state of every run, a thread that is created
    once, by the control thread, has either not been created yet and made no
    call, or has made as many as its remaining code leaves.
  * `CallsCounted.calls_eq` — so once its remaining code does not make the call
    any more, it has made it exactly as often as its entry function says.

The induction is on the run. A created thread starts at the top of its entry
function again, so the count would go wrong if the thread were created twice.
`CreatesOnce` excludes that for the control thread; for the other threads it
follows from their code being steady, and that the control thread creates
neither itself nor a second copy of itself is part of `Controlled`.
-/
import Mathlib.Algebra.BigOperators.Intervals
import ZephyrBench.Rtos.Lifetimes

namespace ZephyrBench.Rtos

variable {T O A F P G : Type}

/-! ## 1. Code -/

/-- The call is another one than `c`, whatever its arguments evaluate to. -/
def Differs (c : Call T O A F) (c' : G → Call T O A F) : Prop := ∀ mem, c' mem ≠ c

/-- Code that does not make the call `c`. -/
abbrev Omits (c : Call T O A F) (code : List (Stmt T O A F P G)) : Prop :=
  Confined (Differs c) (fun _ => True) code

/-- The code makes the call `c` exactly `n` times. -/
inductive Makes (c : Call T O A F) : Nat → List (Stmt T O A F P G) → Prop
  | none {code} (h : Omits c code) : Makes c 0 code
  | here {n c' rest} (hc : ∀ mem, c' mem = c) (hrest : Makes c n rest) :
    Makes c (n + 1) (.call c' :: rest)
  | call {n c' rest} (hc : Differs c c') (hrest : Makes c n rest) : Makes c n (.call c' :: rest)
  | prim {n q rest} (hrest : Makes c n rest) : Makes c n (.prim q :: rest)
  | pass {n i cond body rest} (hi : cond i = true)
    (h : Makes c n (body i ++ .forUp (i + 1) cond body :: rest)) :
    Makes c n (.forUp i cond body :: rest)
  | done {n i cond body rest} (hi : cond i = false) (h : Makes c n rest) :
    Makes c n (.forUp i cond body :: rest)

variable {c : Call T O A F} {n : Nat} {st : Stmt T O A F P G} {rest code : List (Stmt T O A F P G)}

/-- A counted loop: pass `j` makes the call `k j` times. -/
theorem Makes.forUp (k : Nat → Nat) (m : Nat) {i : Nat} {cond : Nat → Bool}
    {body : Nat → List (Stmt T O A F P G)} (hcond : ∀ j, cond j = decide (j < m)) (hi : i ≤ m)
    (hpass : ∀ j < m, ∀ l code, Makes c l code → Makes c (k j + l) (body j ++ code))
    (hrest : Makes c n rest) :
    Makes c ((∑ j ∈ Finset.Ico i m, k j) + n) (.forUp i cond body :: rest) := by
  obtain ⟨d, rfl⟩ := Nat.exists_eq_add_of_le hi
  induction d generalizing i with
  | zero =>
    refine .done (by simp [hcond]) ?_
    simpa using hrest
  | succ d ih =>
    have hlt : i < i + (d + 1) := by omega
    have hend : i + (d + 1) = i + 1 + d := by omega
    rw [Finset.sum_eq_sum_Ico_succ_bot hlt, Nat.add_assoc]
    refine .pass (by simp [hcond]) (hpass i hlt _ _ ?_)
    rw [hend] at hcond hpass ⊢
    exact ih hcond (by omega) hpass

/-- Code that does not make the call makes it no time. -/
theorem Makes.eq_zero (mem : G) (h : Makes c n code) (hcode : Omits c code) : n = 0 := by
  induction h with
  | none => rfl
  | here hc _ _ => exact absurd (hc mem) ((confined_call.mp hcode).1 mem)
  | call _ _ ih => exact ih (confined_call.mp hcode).2
  | prim _ ih => exact ih (confined_prim.mp hcode).2
  | pass hi _ ih =>
    have hleft : Omits c (Stmt.left mem (.forUp _ _ _) ++ _) := hcode.left
    rw [Stmt.left, if_pos hi, List.append_assoc] at hleft
    exact ih hleft
  | done _ _ ih => exact ih (confined_forUp.mp hcode).2

section Steps

variable [DecidableEq T] [DecidableEq O] [DecidableEq A] [DecidableEq F]

/-- How often the statement makes the call at once. -/
def Stmt.makes (c : Call T O A F) (mem : G) : Stmt T O A F P G → Nat
  | .call c' => if c' mem = c then 1 else 0
  | _ => 0

/-- A statement takes off the call it makes. -/
theorem Makes.left (mem : G) (h : Makes c n (st :: rest)) :
    ∃ k, Makes c k (st.left mem ++ rest) ∧ st.makes c mem + k = n := by
  cases h with
  | none h =>
    refine ⟨0, .none h.left, ?_⟩
    cases st with
    | call c' => simpa [Stmt.makes] using (confined_call.mp h).1 mem
    | _ => rfl
  | here hc hrest => exact ⟨_, hrest, by simp [Stmt.makes, hc mem, Nat.add_comm]⟩
  | call hc hrest => exact ⟨n, hrest, by simp [Stmt.makes, hc mem]⟩
  | prim hrest => exact ⟨n, hrest, by simp [Stmt.makes]⟩
  | pass hi h => exact ⟨n, by simpa [Stmt.left, hi] using h, by simp [Stmt.makes]⟩
  | done hi h => exact ⟨n, by simpa [Stmt.left, hi] using h, by simp [Stmt.makes]⟩

/-! ## 2. The log -/

variable [DecidableEq P] {p : Prog T O A F P G} {s : DocState T O A F P G} {t u : T}

/-- How often `t` has made the call. -/
def State.calls (s : DocState T O A F P G) (t : T) (c : Call T O A F) : Nat :=
  s.log.count (.exec t (.call c))

/-- A change of the running thread is no call. -/
theorem count_logSwitch (old new : Option T) (l : List (Entry T O A F P)) :
    (logSwitch old new l).count (.exec t (.call c)) = l.count (.exec t (.call c)) := by
  unfold logSwitch
  split
  · rfl
  · rw [List.count_cons_of_ne (by simp)]

/-- What the handler calls, no thread calls. -/
theorem takeIrq_calls : (p.takeIrq .documented s).calls t c = s.calls t c := by
  have hfold : ∀ (l : List (Act T O A F P)) (u : DocState T O A F P G),
      (l.foldl (p.isrAct .documented) u).calls t c = u.calls t c := by
    intro l
    induction l with
    | nil => exact fun _ => rfl
    | cons x l ih =>
      intro u
      rw [List.foldl_cons, ih]
      cases x <;> exact List.count_cons_of_ne (by simp)
  exact (count_logSwitch ..).trans (hfold p.isr _)

theorem exec_calls : (p.exec .documented u st rest s).calls t c =
    s.calls t c + if u = t then st.makes c s.mem else 0 := by
  cases st with
  | call c' =>
    refine (count_logSwitch ..).trans ?_
    rw [List.count_cons]
    by_cases hu : u = t <;> simp [State.calls, Stmt.makes, hu]
  | prim q =>
    refine (List.count_cons_of_ne (by simp)).trans ?_
    simp [State.calls, Stmt.makes]
  | _ => simp [Prog.exec, State.calls, Stmt.makes]

/-! ## 3. Runs -/

/-- The code creates `t` exactly once, with the entry function `entry`. -/
def CreatesOnce (t : T) (entry : F) (code : List (Stmt T O A F P G)) : Prop :=
  ∃ prio rest, Confined (Leaves t) (fun _ => True) rest ∧
    ConfinedUntil (Leaves t) (fun _ => True)
      (.call (fun _ => .kThreadCreate t entry prio) :: rest) code

/-- The calls made by `t` and those to be made add up to `n`, once `t` has been
created. -/
inductive CallsCounted (idle t : T) (entry : F) (c : Call T O A F) (n : Nat)
    (s : DocState T O A F P G) : Prop
  | before (hcode : CreatesOnce t entry (s.code idle)) (ht : s.code t = [])
    (hcalls : s.calls t c = 0)
  | after {k} (hcode : Confined (Leaves t) (fun _ => True) (s.code idle))
    (ht : Makes c k (s.code t)) (hcalls : s.calls t c + k = n)

variable {idle : T} {main entry : F} {Φ : (T → Bool) → Prop}

/-- A step that touches neither the code of the two threads nor the calls. -/
theorem CallsCounted.of_eq {s' : DocState T O A F P G} (h : CallsCounted idle t entry c n s)
    (hidle : s'.code idle = s.code idle) (ht : s'.code t = s.code t)
    (hcalls : s'.calls t c = s.calls t c) : CallsCounted idle t entry c n s' := by
  cases h with
  | before hcode hnil hzero =>
    exact .before (hidle ▸ hcode) (ht.trans hnil) (hcalls.trans hzero)
  | after hcode hmakes hsum => exact .after (hidle ▸ hcode) (ht ▸ hmakes) (hcalls ▸ hsum)

omit [DecidableEq O] [DecidableEq A] [DecidableEq F] [DecidableEq P] in
/-- A statement of the control thread does not create that thread. -/
theorem Controlled.leaves_idle (h : Controlled idle main Φ s) (hst : s.Executes idle st rest)
    (c' : G → Call T O A F) (hcall : st = .call c') : Leaves idle c' := by
  subst hcall
  have horderly := h.control
  rw [hst.code] at horderly
  intro mem entry prio hc
  have hadmissible := (horderly.of_call mem).1
  rw [hc] at hadmissible
  exact hadmissible.1 rfl

omit [DecidableEq O] [DecidableEq A] [DecidableEq F] [DecidableEq P] in
/-- A statement of another thread creates none. -/
theorem Controlled.leaves (h : Controlled idle main Φ s) (hu : u ≠ idle)
    (hst : s.Executes u st rest) (c' : G → Call T O A F) (hcall : st = .call c') :
    Leaves t c' := by
  subst hcall
  have hsteady := h.others u hu
  rw [hst.code] at hsteady
  exact (confined_call.mp hsteady).1.leaves

/-- A statement of the control thread: it creates `t`, or has nothing to do with
it. -/
theorem CallsCounted.exec_control (hcontrol : Controlled idle main Φ s) (ht : t ≠ idle)
    (hentry : Makes c n (p.body entry)) (h : CallsCounted idle t entry c n s)
    (hst : s.Executes idle st rest) :
    CallsCounted idle t entry c n (p.exec .documented idle st rest s) := by
  have hidle : (p.exec .documented idle st rest s).code idle = st.left s.mem ++ rest := by
    rw [exec_code_of_leaves (hcontrol.leaves_idle hst), if_pos rfl]
  have hsame : (p.exec .documented idle st rest s).calls t c = s.calls t c := by
    rw [exec_calls, if_neg ht.symm, Nat.add_zero]
  -- a statement that does not create `t` leaves its code alone
  have hother : Confined (Leaves t) (fun _ => True) [st] →
      (p.exec .documented idle st rest s).code t = s.code t := by
    intro hleaves
    rw [exec_code_of_leaves, if_neg ht]
    rintro c' rfl
    exact (confined_call.mp hleaves).1
  cases h with
  | before hcode hnil hcalls =>
    obtain ⟨prio, rest', hrest', first, hfirst, hleaves⟩ := hcode
    cases first with
    | nil =>
      have heq : st :: rest = .call (fun _ => .kThreadCreate t entry prio) :: rest' :=
        hst.code.symm.trans hfirst
      obtain ⟨rfl, rfl⟩ := List.cons.inj heq
      refine .after (hidle ▸ hrest') ?_ (by rw [hsame, hcalls, Nat.zero_add])
      have hbody : (p.exec .documented idle (.call fun _ => .kThreadCreate t entry prio) rest
          s).code t = p.body entry := by
        simp [Prog.exec, Prog.install]
      exact hbody ▸ hentry
    | cons st' first =>
      have heq : st :: rest =
          st' :: (first ++ .call (fun _ => .kThreadCreate t entry prio) :: rest') :=
        hst.code.symm.trans hfirst
      obtain ⟨rfl, rfl⟩ := List.cons.inj heq
      refine .before ⟨prio, rest', hrest', st.left s.mem ++ first, ?_, hleaves.left⟩ ?_ ?_
      · rw [hidle, List.append_assoc]
      · rw [hother hleaves.head, hnil]
      · rw [hsame, hcalls]
  | after hcode hmakes hcalls =>
    rw [hst.code] at hcode
    exact .after (hidle ▸ hcode.left) (hother hcode.head ▸ hmakes) (hsame ▸ hcalls)

/-- A statement of another thread: of `t`, which makes the call or does not, or
of a third one. -/
theorem CallsCounted.exec_others (hcontrol : Controlled idle main Φ s) (hu : u ≠ idle)
    (h : CallsCounted idle t entry c n s) (hst : s.Executes u st rest) :
    CallsCounted idle t entry c n (p.exec .documented u st rest s) := by
  have hidle : (p.exec .documented u st rest s).code idle = s.code idle := by
    rw [exec_code_of_leaves (hcontrol.leaves hu hst), if_neg hu.symm]
  have hcode : (p.exec .documented u st rest s).code t =
      if t = u then st.left s.mem ++ rest else s.code t :=
    exec_code_of_leaves (hcontrol.leaves hu hst)
  by_cases hut : u = t
  · subst hut
    rw [if_pos rfl] at hcode
    cases h with
    | before _ hnil _ =>
      rw [hst.code] at hnil
      exact absurd hnil (List.cons_ne_nil st rest)
    | after hafter hmakes hcalls =>
      rw [hst.code] at hmakes
      obtain ⟨k, hleft, hk⟩ := hmakes.left s.mem
      refine .after (hidle ▸ hafter) (hcode ▸ hleft) ?_
      rw [exec_calls, if_pos rfl]
      omega
  · rw [if_neg fun heq => hut heq.symm] at hcode
    have hsame : (p.exec .documented u st rest s).calls t c = s.calls t c := by
      rw [exec_calls, if_neg hut, Nat.add_zero]
    exact h.of_eq hidle hcode hsame

theorem CallsCounted.next (hcontrol : Controlled idle main Φ s) (ht : t ≠ idle)
    (hentry : Makes c n (p.body entry)) (h : CallsCounted idle t entry c n s) :
    CallsCounted idle t entry c n (p.next s) := by
  rcases next_cases p s with ⟨-, hnext⟩ | ⟨u, st, rest, hst, hnext⟩ | hnext
  · rw [hnext]
    have hcode : (p.takeIrq .documented s).code = s.code := takeIrq_code
    exact h.of_eq (congrFun hcode idle) (congrFun hcode t) takeIrq_calls
  · rw [hnext]
    by_cases hu : u = idle
    · subst hu
      exact h.exec_control hcontrol ht hentry hst
    · exact h.exec_others hcontrol hu hst
  · rw [hnext]
    exact h

/-- Every run counts the calls of a thread that its control thread creates
once. -/
theorem CallsCounted.run {K : Type} (Z : Zephyr K T O A F) (hp : ControlledBy p main)
    (horderly : Orderly idle main Φ (among [idle]) (p.body main)) (hΦ : Φ (among [idle]))
    (hcreates : CreatesOnce t entry (p.body main)) (ht : t ≠ idle)
    (hentry : Makes c n (p.body entry)) (prio : Nat) (data : Data T A) (mem : G) (m : Nat) :
    CallsCounted idle t entry c n ((p.run Z idle prio main data mem m).view Z) := by
  induction m with
  | zero =>
    rw [run_view]
    refine .before ?_ ?_ rfl
    · show CreatesOnce t entry (if idle = idle then p.body main else [])
      rwa [if_pos rfl]
    · exact if_neg ht
  | succ m ih =>
    rw [run_view_succ]
    exact ih.next (Controlled.run Z hp horderly hΦ prio data mem m) ht hentry

/-- What is left of the code does not make the call any more: all calls have been
made. -/
theorem CallsCounted.calls_eq (h : CallsCounted idle t entry c n s) (hne : s.code t ≠ [])
    (hcode : Omits c (s.code t)) : s.calls t c = n := by
  cases h with
  | before _ hnil _ => exact absurd hnil hne
  | after _ hmakes hcalls =>
    rw [hmakes.eq_zero s.mem hcode, Nat.add_zero] at hcalls
    exact hcalls

end Steps

end ZephyrBench.Rtos

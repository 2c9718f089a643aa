/-
ZephyrBench.Rtos.Lifetimes — which threads live while a program runs.

When one control thread alone creates and removes threads, its own code settles
who lives at each of its statements, however the threads are scheduled.
`Orderly` walks through the code with the set of living threads and looks at
every call: a thread is created only while it is dead, removed only while it
lives, and an object is initialised only while nobody could use it.

What is proved:

  * `Orderly.forUp`, `Orderly.create`, `Orderly.abort`, `Orderly.straight` — the
    rules by which the code of a control thread is walked through. A counted
    loop may change the set of living threads in each pass.
  * `Controlled.next` — a step keeps the control thread at orderly code.
  * `Controlled.run`  — so in every state of every run each call finds alive
    what it should, and the living threads satisfy what the walk has shown of
    them (`Φ`).

The other threads and the handler have to be steady: their calls create no
thread, remove none and initialise no object. That is read off the text
(`ControlledBy`), and with it the living threads are a function of the place
that the control thread has reached. A loop that never ends is allowed only at
the end of the walk and only without calls (`Orderly.last`), which is how the
control threads of the tests end.
-/
import ZephyrBench.Bench
import ZephyrBench.Rtos.CallTheorems
import ZephyrBench.Rtos.Residual

namespace ZephyrBench.Rtos

variable {T O A F P G : Type}

/-! ## 1. Calls -/

/-- The call initialises a kernel object. -/
def Call.isInit : Call T O A F → Bool
  | .kSemInit .. | .kEventInit _ | .kFifoInit _ | .kLifoInit _ | .kStackInit .. | .kMsgqInit ..
  | .kPipeInit .. | .kMboxInit _ => true
  | _ => false

/-- The call creates no thread, removes none and initialises no object. -/
def Call.Steady : Call T O A F → Prop
  | .kThreadCreate .. | .kThreadAbort _ => False
  | c => c.isInit = false

/-- What the control thread `idle` has to find alive for a call. `main` is its
own entry function. -/
def Call.Admissible (idle : T) (main : F) (alive : T → Bool) : Call T O A F → Prop
  | .kThreadCreate t entry _ => t ≠ idle ∧ entry ≠ main ∧ alive t = false
  | .kThreadAbort t => t ≠ idle ∧ alive t = true
  | .kThreadResume t => alive t = true
  | c => c.isInit = true → ∀ t, alive t = true → t = idle

variable [DecidableEq T]

theorem Call.Steady.aliveAfter {c : Call T O A F} (h : c.Steady) (alive : T → Bool) :
    Kernel.aliveAfter alive c = alive := by
  cases c with
  | kThreadCreate t entry prio => exact h.elim
  | kThreadAbort t => exact h.elim
  | _ => rfl

/-! ## 2. The code of the control thread -/

/-- The call is steady whatever its arguments evaluate to. -/
def SteadyCall (c : G → Call T O A F) : Prop := ∀ mem, (c mem).Steady

/-- Code that leaves the living threads alone, of any thread. -/
abbrev SteadyCode (code : List (Stmt T O A F P G)) : Prop :=
  Confined SteadyCall (fun _ => True) code

omit [DecidableEq T] in
theorem SteadyCall.spares {idle : T} {main : F} {c : G → Call T O A F} (h : SteadyCall c) :
    Spares idle main c := by
  intro mem t entry prio hc
  have hsteady := h mem
  rw [hc] at hsteady
  exact hsteady.elim

omit [DecidableEq T] in
theorem SteadyCall.leaves {t : T} {c : G → Call T O A F} (h : SteadyCall c) : Leaves t c := by
  intro mem entry prio hc
  have hsteady := h mem
  rw [hc] at hsteady
  exact hsteady

section Background

variable {ψ : P → Prop} {code : List (Stmt T O A F P G)}

omit [DecidableEq T] in
/-- Steady code creates no control thread, -/
theorem Confined.spares {idle : T} {main : F} (h : Confined SteadyCall ψ code) :
    Confined (Spares idle main) ψ code :=
  h.mono (fun _ hc => hc.spares) fun _ hq => hq

omit [DecidableEq T] in
/-- and is steady whatever is known of its primitives. -/
theorem Confined.steadyCode (h : Confined SteadyCall ψ code) : SteadyCode code :=
  h.mono (fun _ hc => hc) fun _ _ => trivial

end Background

/-- Every call of the code is admissible when `alive` are the threads that live
before it, and of the living threads it keeps `Φ`. -/
inductive Orderly (idle : T) (main : F) (Φ : (T → Bool) → Prop) :
    (T → Bool) → List (Stmt T O A F P G) → Prop
  | call {alive c rest} (h : ∀ mem, (c mem).Admissible idle main alive)
    (hΦ : ∀ mem, Φ alive → Φ (Kernel.aliveAfter alive (c mem)))
    (hrest : ∀ mem, Orderly idle main Φ (Kernel.aliveAfter alive (c mem)) rest) :
    Orderly idle main Φ alive (.call c :: rest)
  | prim {alive q rest} (hrest : Orderly idle main Φ alive rest) :
    Orderly idle main Φ alive (.prim q :: rest)
  | pass {alive i cond body rest} (hi : cond i = true)
    (h : Orderly idle main Φ alive (body i ++ .forUp (i + 1) cond body :: rest)) :
    Orderly idle main Φ alive (.forUp i cond body :: rest)
  | done {alive i cond body rest} (hi : cond i = false) (h : Orderly idle main Φ alive rest) :
    Orderly idle main Φ alive (.forUp i cond body :: rest)
  | ite {alive cond yes no rest} (hyes : Orderly idle main Φ alive (yes ++ rest))
    (hno : Orderly idle main Φ alive (no ++ rest)) :
    Orderly idle main Φ alive (.ite cond yes no :: rest)
  | last {alive code} (h : Confined (fun _ => False) (fun _ => True) code) :
    Orderly idle main Φ alive code

variable {idle t : T} {main : F} {Φ : (T → Bool) → Prop} {alive : T → Bool}
  {st : Stmt T O A F P G} {rest : List (Stmt T O A F P G)}

/-- A counted loop whose passes take `S i` to `S (i + 1)`. -/
theorem Orderly.forUp (S : Nat → T → Bool) (n : Nat) {i : Nat} {cond : Nat → Bool}
    {body : Nat → List (Stmt T O A F P G)} (hcond : ∀ j, cond j = decide (j < n)) (hi : i ≤ n)
    (hpass : ∀ j < n, ∀ code, Orderly idle main Φ (S (j + 1)) code →
      Orderly idle main Φ (S j) (body j ++ code)) (hrest : Orderly idle main Φ (S n) rest) :
    Orderly idle main Φ (S i) (.forUp i cond body :: rest) := by
  obtain ⟨k, rfl⟩ := Nat.exists_eq_add_of_le hi
  induction k generalizing i with
  | zero => exact .done (by simp [hcond]) hrest
  | succ k ih =>
    refine .pass (by simp [hcond]) (hpass i (by omega) _ ?_)
    have hn : i + (k + 1) = i + 1 + k := by omega
    rw [hn] at hcond hpass hrest
    exact ih hcond (by omega) hpass hrest

/-- A call that leaves the living threads alone. -/
theorem Orderly.keep {c : G → Call T O A F}
    (halive : ∀ mem, Kernel.aliveAfter alive (c mem) = alive)
    (h : ∀ mem, (c mem).Admissible idle main alive) (hrest : Orderly idle main Φ alive rest) :
    Orderly idle main Φ alive (.call c :: rest) := by
  refine .call h (fun mem hΦ => ?_) fun mem => ?_
  · rw [halive mem]
    exact hΦ
  · rw [halive mem]
    exact hrest

/-- The statement leaves the living threads `alive` alone, and is neither a loop
nor a conditional. -/
def Stmt.Keeps (idle : T) (main : F) (alive : T → Bool) : Stmt T O A F P G → Prop
  | .call c => ∀ mem, Kernel.aliveAfter alive (c mem) = alive ∧ (c mem).Admissible idle main alive
  | .prim _ => True
  | _ => False

theorem Orderly.straight {code : List (Stmt T O A F P G)}
    (h : ∀ st ∈ code, st.Keeps idle main alive) (hrest : Orderly idle main Φ alive rest) :
    Orderly idle main Φ alive (code ++ rest) := by
  induction code with
  | nil => exact hrest
  | cons st code ih =>
    obtain ⟨hst, hcode⟩ := List.forall_mem_cons.mp h
    cases st with
    | call c => exact .keep (fun mem => (hst mem).1) (fun mem => (hst mem).2) (ih hcode)
    | prim q => exact .prim (ih hcode)
    | _ => exact hst.elim

/-- The threads of the list live. -/
def among (l : List T) (t : T) : Bool := decide (t ∈ l)

@[simp] theorem among_eq_true {l : List T} : among l t = true ↔ t ∈ l := decide_eq_true_iff

@[simp] theorem among_eq_false {l : List T} : among l t = false ↔ t ∉ l := decide_eq_false_iff_not

theorem Orderly.create {entry : F} {prio : Nat} {l : List T} (l' : List T) (ht : t ≠ idle)
    (hentry : entry ≠ main) (hdead : t ∉ l) (hl : ∀ u, u ∈ l' ↔ u = t ∨ u ∈ l)
    (hΦ : Φ (among l')) (hrest : Orderly idle main Φ (among l') rest) :
    Orderly idle main Φ (among l) (.call (fun _ => .kThreadCreate t entry prio) :: rest) := by
  have halive : Function.update (among l) t true = among l' := by
    funext u
    by_cases hu : u = t
    · subst hu
      simp [among, hl]
    · simp [among, hl, hu]
  refine .call (fun _ => ⟨ht, hentry, by simpa using hdead⟩) (fun _ _ => ?_) fun _ => ?_
  · simpa only [Kernel.aliveAfter, halive] using hΦ
  · simpa only [Kernel.aliveAfter, halive] using hrest

theorem Orderly.abort {l : List T} (l' : List T) (ht : t ≠ idle) (hlives : t ∈ l)
    (hl : ∀ u, u ∈ l' ↔ u ≠ t ∧ u ∈ l) (hΦ : Φ (among l'))
    (hrest : Orderly idle main Φ (among l') rest) :
    Orderly idle main Φ (among l) (.call (fun _ => .kThreadAbort t) :: rest) := by
  have halive : Function.update (among l) t false = among l' := by
    funext u
    by_cases hu : u = t
    · subst hu
      simp [among, hl]
    · simp [among, hl, hu]
  refine .call (fun _ => ⟨ht, by simpa using hlives⟩) (fun _ _ => ?_) fun _ => ?_
  · simpa only [Kernel.aliveAfter, halive] using hΦ
  · simpa only [Kernel.aliveAfter, halive] using hrest

/-- What a statement other than a call leaves to do. -/
theorem Orderly.left {mem : G} (h : Orderly idle main Φ alive (st :: rest))
    (hst : ∀ c, st ≠ .call c) : Orderly idle main Φ alive (st.left mem ++ rest) := by
  cases h with
  | call h hΦ hrest => exact absurd rfl (hst _)
  | prim hrest => exact hrest
  | pass hi h => simpa [Stmt.left, hi] using h
  | done hi h => simpa [Stmt.left, hi] using h
  | ite hyes hno =>
    rename_i cond yes no
    cases hc : cond mem with
    | false => simpa [Stmt.left, hc] using hno
    | true => simpa [Stmt.left, hc] using hyes
  | last h => exact .last h.left

/-- What a call finds, and leaves to do. -/
theorem Orderly.of_call {c : G → Call T O A F} (h : Orderly idle main Φ alive (.call c :: rest))
    (mem : G) : (c mem).Admissible idle main alive ∧
      (Φ alive → Φ (Kernel.aliveAfter alive (c mem))) ∧
      Orderly idle main Φ (Kernel.aliveAfter alive (c mem)) rest := by
  cases h with
  | call h hΦ hrest => exact ⟨h mem, hΦ mem, hrest mem⟩
  | last h => exact (confined_call.mp h).1.elim

/-! ## 3. Runs -/

variable [DecidableEq O] [DecidableEq A] {p : Prog T O A F P G} {s : DocState T O A F P G}

/-- What `t` finds when it is about to execute a statement. -/
def LifeStmt (idle : T) (main : F) (s : DocState T O A F P G) (t : T) : Stmt T O A F P G → Prop
  | .call c =>
    (t = idle → (c s.mem).Admissible idle main s.kern.alive) ∧ (t ≠ idle → (c s.mem).Steady)
  | _ => True

/-- Only the entry function `main` has calls that are not steady. -/
structure ControlledBy (p : Prog T O A F P G) (main : F) : Prop where
  others : ∀ f, f ≠ main → SteadyCode (p.body f)
  isr : ∀ c, .call c ∈ p.isr → c.Steady

/-- The thread `idle` is at orderly code, the others have steady code. -/
structure Controlled (idle : T) (main : F) (Φ : (T → Bool) → Prop) (s : DocState T O A F P G) :
    Prop where
  control : Orderly idle main Φ s.kern.alive (s.code idle)
  others : ∀ t, t ≠ idle → SteadyCode (s.code t)
  lives : Φ s.kern.alive

omit [DecidableEq T] [DecidableEq O] [DecidableEq A] in
theorem State.AtStmt.of_executes {φ : T → Stmt T O A F P G → Prop}
    (h : ∀ t st rest, s.kern.current = some t → s.code t = st :: rest → φ t st) : s.AtStmt φ := by
  unfold State.AtStmt
  split
  · trivial
  · rename_i t hcurrent
    split
    · trivial
    · rename_i st rest hcode
      exact h t st rest hcurrent hcode

omit [DecidableEq O] [DecidableEq A] in
theorem Controlled.atStmt (h : Controlled idle main Φ s) : s.AtStmt (LifeStmt idle main s) := by
  refine .of_executes fun t st rest _ hcode => ?_
  cases st with
  | call c =>
    refine ⟨fun ht => ?_, fun ht => ?_⟩
    · subst ht
      have horderly := h.control
      rw [hcode] at horderly
      exact (horderly.of_call s.mem).1
    · have hsteady := h.others t ht
      rw [hcode] at hsteady
      exact (confined_call.mp hsteady).1 s.mem
  | _ => trivial

/-- The handler, with steady calls, leaves the living threads alone. -/
theorem takeIrq_alive (hisr : ∀ c, .call c ∈ p.isr → c.Steady) :
    (p.takeIrq .documented s).kern.alive = s.kern.alive := by
  have hfold : ∀ (l : List (Act T O A F P)) (u : DocState T O A F P G),
      (∀ x ∈ l, x ∈ p.isr) → (l.foldl (p.isrAct .documented) u).kern.alive = u.kern.alive := by
    intro l
    induction l with
    | nil => exact fun _ _ => rfl
    | cons x l ih =>
      intro u hl
      rw [List.foldl_cons, ih _ fun y hy => hl y (List.mem_cons_of_mem x hy)]
      cases x with
      | prim q => rfl
      | call c =>
        have hsteady := hisr c (hl _ List.mem_cons_self)
        show (u.kern.call c).alive = u.kern.alive
        rw [Kernel.call_alive, hsteady.aliveAfter]
        exact ite_self _
  have hisr := hfold p.isr { s with kern := s.kern.isrEnter } fun x hx => hx
  have hexit : ∀ (k : Kernel T O A) b, (k.isrExit b).alive = k.alive := by
    intro k b
    cases b <;> rfl
  show (Kernel.isrExit _ _).alive = s.kern.alive
  rw [hexit]
  exact hisr

/-- Only a call changes the kernel. -/
theorem exec_kern_of_ne_call (hst : ∀ c, st ≠ .call c) :
    (p.exec .documented t st rest s).kern = s.kern := by
  cases st with
  | call c => exact absurd rfl (hst c)
  | _ => rfl

/-- A statement of the control thread. -/
theorem Controlled.exec_control (hp : ControlledBy p main) (h : Controlled idle main Φ s)
    (hst : s.Executes idle st rest) :
    Controlled idle main Φ (p.exec .documented idle st rest s) := by
  have horderly := h.control
  rw [hst.code] at horderly
  by_cases hcall : ∃ c, st = .call c
  · obtain ⟨c, rfl⟩ := hcall
    obtain ⟨hadmissible, hΦ, hrest⟩ := horderly.of_call s.mem
    have halive : (p.exec .documented idle (.call c) rest s).kern.alive =
        Kernel.aliveAfter s.kern.alive (c s.mem) := by
      show (s.kern.call (c s.mem)).alive = _
      rw [Kernel.call_alive, hst.current, if_neg (Option.some_ne_none idle)]
    -- a thread that is created is another one, with another entry function
    have hcode := exec_code p s idle (.call c) rest
    refine ⟨?_, fun u hu => ?_, halive ▸ hΦ h.lives⟩
    · rw [halive]
      rcases hcode idle with ⟨c', entry, prio, heq, hcreate, -⟩ | hcode
      · obtain rfl := Stmt.call.inj heq
        rw [hcreate] at hadmissible
        exact absurd rfl hadmissible.1
      · rw [hcode, if_pos rfl]
        exact hrest
    · rcases hcode u with ⟨c', entry, prio, heq, hcreate, hbody⟩ | hcode
      · obtain rfl := Stmt.call.inj heq
        rw [hcreate] at hadmissible
        rw [hbody]
        exact hp.others entry hadmissible.2.1
      · rw [hcode, if_neg hu]
        exact h.others u hu
  · have hne : ∀ c, st ≠ .call c := fun c heq => hcall ⟨c, heq⟩
    have hcode : ∀ u, (p.exec .documented idle st rest s).code u =
        if u = idle then st.left s.mem ++ rest else s.code u := by
      intro u
      rcases exec_code p s idle st rest u with ⟨c, entry, prio, heq, -⟩ | hcode
      · exact absurd heq (hne c)
      · exact hcode
    have hkern : (p.exec .documented idle st rest s).kern = s.kern := exec_kern_of_ne_call hne
    refine ⟨?_, fun u hu => ?_, hkern ▸ h.lives⟩
    · rw [hkern, hcode, if_pos rfl]
      exact horderly.left hne
    · rw [hcode, if_neg hu]
      exact h.others u hu

/-- A statement of another thread. -/
theorem Controlled.exec_others (h : Controlled idle main Φ s) (ht : t ≠ idle)
    (hst : s.Executes t st rest) : Controlled idle main Φ (p.exec .documented t st rest s) := by
  have hsteady := h.others t ht
  rw [hst.code] at hsteady
  have hcode : ∀ u, (p.exec .documented t st rest s).code u =
      if u = t then st.left s.mem ++ rest else s.code u := by
    intro u
    rcases exec_code p s t st rest u with ⟨c, entry, prio, rfl, hcreate, -⟩ | hcode
    · have hcall := (confined_call.mp hsteady).1 s.mem
      rw [hcreate] at hcall
      exact hcall.elim
    · exact hcode
  have halive : (p.exec .documented t st rest s).kern.alive = s.kern.alive := by
    by_cases hcall : ∃ c, st = .call c
    · obtain ⟨c, rfl⟩ := hcall
      show (s.kern.call (c s.mem)).alive = s.kern.alive
      rw [Kernel.call_alive, ((confined_call.mp hsteady).1 s.mem).aliveAfter]
      exact ite_self _
    · rw [exec_kern_of_ne_call fun c heq => hcall ⟨c, heq⟩]
  refine ⟨?_, fun u hu => ?_, halive ▸ h.lives⟩
  · rw [halive, hcode, if_neg ht.symm]
    exact h.control
  · rw [hcode]
    by_cases hut : u = t
    · rw [if_pos hut]
      exact hsteady.left
    · rw [if_neg hut]
      exact h.others u hu

theorem Controlled.next (hp : ControlledBy p main) (h : Controlled idle main Φ s) :
    Controlled idle main Φ (p.next s) := by
  rcases next_cases p s with ⟨-, hnext⟩ | ⟨t, st, rest, hst, hnext⟩ | hnext
  · rw [hnext]
    have halive := takeIrq_alive (s := s) hp.isr
    refine ⟨?_, fun u hu => ?_, halive ▸ h.lives⟩
    · rw [takeIrq_code, halive]
      exact h.control
    · rw [takeIrq_code]
      exact h.others u hu
  · rw [hnext]
    by_cases ht : t = idle
    · subst ht
      exact h.exec_control hp hst
    · exact h.exec_others ht hst
  · rw [hnext]
    exact h

/-- In a run that begins in orderly code every call finds alive what it should. -/
theorem Controlled.run {K : Type} (Z : Zephyr K T O A F) (hp : ControlledBy p main)
    (h : Orderly idle main Φ (among [idle]) (p.body main)) (hΦ : Φ (among [idle])) (prio : Nat)
    (data : Data T A) (mem : G) (n : Nat) :
    Controlled idle main Φ ((p.run Z idle prio main data mem n).view Z) := by
  induction n with
  | zero =>
    -- at boot only `idle` lives
    have hboot : ((Kernel.boot idle prio data : Kernel T O A)).alive = among [idle] := by
      funext u
      simp [Kernel.boot, among, Function.update_apply]
    rw [run_view]
    refine ⟨?_, fun u hu => ?_, ?_⟩
    · show Orderly idle main Φ (Kernel.boot idle prio data).alive
        (if idle = idle then p.body main else [])
      rw [if_pos rfl, hboot]
      exact h
    · show SteadyCode (if u = idle then p.body main else [])
      rw [if_neg hu]
      exact .nil
    · show Φ (Kernel.boot idle prio data).alive
      rw [hboot]
      exact hΦ
  | succ n ih =>
    rw [run_view_succ]
    exact ih.next hp

end ZephyrBench.Rtos

/-
ZephyrBench.Rtos.Residual — what is left of a program.

Whatever a thread has still to execute was cut out of the thread entry
functions: it consists of their statements and of those in the bodies of their
loops and branches. So a property of the calls and of the primitives of a
program (`Confined`) is one of all that is left of it, in every state of every
run and whatever the kernel does.

  * `confined_append`, `Confined.left`, `Confined.mono` — the property is one of
    the statements, it stays when one of them is executed, and a weaker one
    follows from it.
  * `next_cases` — a step is an interrupt, a statement of the running thread, or
    nothing.
  * `exec_code`  — the code of a thread after a statement: the thread has just
    been created, or only the one that executed has gone on.

A control thread often ends in a part of its own, which no other thread has.
`Before` says that it has not got there yet, and `Before.next` that it then has
not got there after a step either, unless it executes the first statement of
that part. The side condition is `Spares`: a call that created the control
thread anew, or another thread with its entry function, would put the last part
somewhere else. `EndsIn` collects what has to be read off the program, and only
the program: nothing is assumed about who runs when.
-/
import ZephyrBench.Rtos.Machine

namespace ZephyrBench.Rtos

variable {T O A F P G : Type} {φ : (G → Call T O A F) → Prop} {ψ : P → Prop}

/-! ## 1. Code -/

/-- The calls of the code satisfy `φ`, its primitives `ψ`. -/
inductive Confined (φ : (G → Call T O A F) → Prop) (ψ : P → Prop) :
    List (Stmt T O A F P G) → Prop
  | nil : Confined φ ψ []
  | call {c rest} (h : φ c) (hrest : Confined φ ψ rest) : Confined φ ψ (.call c :: rest)
  | prim {q rest} (h : ψ q) (hrest : Confined φ ψ rest) : Confined φ ψ (.prim q :: rest)
  | loop {body rest} (h : Confined φ ψ body) (hrest : Confined φ ψ rest) :
    Confined φ ψ (.loop body :: rest)
  | forUp {i cond body rest} (h : ∀ j, Confined φ ψ (body j)) (hrest : Confined φ ψ rest) :
    Confined φ ψ (.forUp i cond body :: rest)
  | ite {cond yes no rest} (hyes : Confined φ ψ yes) (hno : Confined φ ψ no)
    (hrest : Confined φ ψ rest) : Confined φ ψ (.ite cond yes no :: rest)

attribute [simp] Confined.nil

variable {st : Stmt T O A F P G} {l l' rest : List (Stmt T O A F P G)}

@[simp] theorem confined_call {c : G → Call T O A F} :
    Confined φ ψ (.call c :: rest) ↔ φ c ∧ Confined φ ψ rest := by
  constructor
  · rintro (_ | ⟨h, hrest⟩)
    exact ⟨h, hrest⟩
  · exact fun h => .call h.1 h.2

@[simp] theorem confined_prim {q : P} :
    Confined φ ψ (.prim q :: rest) ↔ ψ q ∧ Confined φ ψ rest := by
  constructor
  · rintro (_ | _ | ⟨h, hrest⟩)
    exact ⟨h, hrest⟩
  · exact fun h => .prim h.1 h.2

@[simp] theorem confined_loop :
    Confined φ ψ (.loop l :: rest) ↔ Confined φ ψ l ∧ Confined φ ψ rest := by
  constructor
  · rintro (_ | _ | _ | ⟨h, hrest⟩)
    exact ⟨h, hrest⟩
  · exact fun h => .loop h.1 h.2

@[simp] theorem confined_forUp {i : Nat} {cond : Nat → Bool}
    {body : Nat → List (Stmt T O A F P G)} :
    Confined φ ψ (.forUp i cond body :: rest) ↔
      (∀ j, Confined φ ψ (body j)) ∧ Confined φ ψ rest := by
  constructor
  · rintro (_ | _ | _ | _ | ⟨h, hrest⟩)
    exact ⟨h, hrest⟩
  · exact fun h => .forUp h.1 h.2

@[simp] theorem confined_ite {cond : G → Bool} :
    Confined φ ψ (.ite cond l l' :: rest) ↔
      Confined φ ψ l ∧ Confined φ ψ l' ∧ Confined φ ψ rest := by
  constructor
  · rintro (_ | _ | _ | _ | _ | ⟨hyes, hno, hrest⟩)
    exact ⟨hyes, hno, hrest⟩
  · exact fun h => .ite h.1 h.2.1 h.2.2

@[simp] theorem confined_append : Confined φ ψ (l ++ l') ↔ Confined φ ψ l ∧ Confined φ ψ l' := by
  induction l with
  | nil => simp
  | cons st l ih => cases st <;> simp [ih, and_assoc]

/-- What a statement leaves to do, in front of what comes after it. -/
def Stmt.left (mem : G) : Stmt T O A F P G → List (Stmt T O A F P G)
  | .call _ | .prim _ => []
  | .loop body => body ++ [.loop body]
  | .forUp i cond body => if cond i then body i ++ [.forUp (i + 1) cond body] else []
  | .ite cond yes no => if cond mem then yes else no

theorem Confined.left {mem : G} (h : Confined φ ψ (st :: rest)) :
    Confined φ ψ (st.left mem ++ rest) := by
  cases st with
  | call c => exact (confined_call.mp h).2
  | prim q => exact (confined_prim.mp h).2
  | loop body =>
    have hloop := confined_loop.mp h
    simp [Stmt.left, hloop]
  | forUp i cond body =>
    have hloop := confined_forUp.mp h
    cases hi : cond i <;> simp [Stmt.left, hi, hloop]
  | ite cond yes no =>
    have hite := confined_ite.mp h
    cases hc : cond mem <;> simp [Stmt.left, hc, hite]

theorem Confined.mono {φ' : (G → Call T O A F) → Prop} {ψ' : P → Prop}
    (hφ : ∀ c, φ c → φ' c) (hψ : ∀ q, ψ q → ψ' q) (h : Confined φ ψ l) : Confined φ' ψ' l := by
  induction h with
  | nil => exact .nil
  | call h _ ih => exact .call (hφ _ h) ih
  | prim h _ ih => exact .prim (hψ _ h) ih
  | loop _ _ ih ihrest => exact .loop ih ihrest
  | forUp _ _ ih ihrest => exact .forUp ih ihrest
  | ite _ _ _ ihyes ihno ihrest => exact .ite ihyes ihno ihrest

theorem Confined.head (h : Confined φ ψ (st :: rest)) : Confined φ ψ [st] := by
  have happ : Confined φ ψ ([st] ++ rest) := h
  exact (confined_append.mp happ).1

/-- The code is confined until it gets to `last`, in which it ends. -/
def ConfinedUntil (φ : (G → Call T O A F) → Prop) (ψ : P → Prop)
    (last code : List (Stmt T O A F P G)) : Prop :=
  ∃ first, code = first ++ last ∧ Confined φ ψ first

theorem ConfinedUntil.nil {last : List (Stmt T O A F P G)} : ConfinedUntil φ ψ last last :=
  ⟨[], rfl, .nil⟩

theorem ConfinedUntil.append {last code : List (Stmt T O A F P G)} (h : Confined φ ψ l)
    (hcode : ConfinedUntil φ ψ last code) : ConfinedUntil φ ψ last (l ++ code) := by
  obtain ⟨first, rfl, hfirst⟩ := hcode
  exact ⟨l ++ first, (List.append_assoc ..).symm, confined_append.mpr ⟨h, hfirst⟩⟩

theorem ConfinedUntil.cons {last code : List (Stmt T O A F P G)} (h : Confined φ ψ [st])
    (hcode : ConfinedUntil φ ψ last code) : ConfinedUntil φ ψ last (st :: code) :=
  hcode.append h

/-! ## 2. Steps -/

variable [DecidableEq T] [DecidableEq O] [DecidableEq A] {p : Prog T O A F P G}
  {s : DocState T O A F P G} {t : T}

/-- `t` runs and is about to execute `st`; no interrupt is to be taken. -/
structure State.Executes (s : DocState T O A F P G) (t : T) (st : Stmt T O A F P G)
    (rest : List (Stmt T O A F P G)) : Prop where
  irq : (s.kern.irq.pending && s.kern.irq.enabled) = false
  current : s.kern.current = some t
  code : s.code t = st :: rest

theorem State.Executes.next_eq (h : s.Executes t st rest) :
    p.next s = p.exec .documented t st rest s :=
  next_of_cons h.irq h.current h.code

/-- What a step can be: an interrupt, a statement of the running thread, or
nothing. -/
theorem next_cases (p : Prog T O A F P G) (s : DocState T O A F P G) :
    (s.kern.irq.pending && s.kern.irq.enabled) = true ∧ p.next s = p.takeIrq .documented s ∨
      (∃ t st rest, s.Executes t st rest ∧ p.next s = p.exec .documented t st rest s) ∨
      p.next s = s := by
  cases hirq : s.kern.irq.pending && s.kern.irq.enabled with
  | true => exact .inl ⟨rfl, next_of_irq hirq⟩
  | false =>
    right
    cases hcur : s.kern.current with
    | none => exact .inr (next_of_none hirq hcur)
    | some t =>
      cases hcode : s.code t with
      | nil => exact .inr (next_of_nil hirq hcur hcode)
      | cons st rest =>
        have h : s.Executes t st rest := ⟨hirq, hcur, hcode⟩
        exact .inl ⟨t, st, rest, h, h.next_eq⟩

section Run

variable {K : Type} (Z : Zephyr K T O A F) (prio : Nat) (f : F) (data : Data T A) (mem : G)
  (n : Nat)

theorem run_view_succ : (p.run Z t prio f data mem (n + 1)).view Z =
    p.next ((p.run Z t prio f data mem n).view Z) := by
  rw [run_view, run_view]
  exact Function.iterate_succ_apply' ..

end Run

/-- The handler leaves the code of the threads alone. -/
@[simp] theorem takeIrq_code : (p.takeIrq .documented s).code = s.code := by
  have hfold : ∀ (l : List (Act T O A F P)) (u : DocState T O A F P G),
      (l.foldl (p.isrAct .documented) u).code = u.code := by
    intro l
    induction l with
    | nil => exact fun _ => rfl
    | cons x l ih =>
      intro u
      rw [List.foldl_cons, ih]
      cases x <;> rfl
  exact hfold _ _

/-- And of the variables it keeps what its primitives keep. -/
theorem takeIrq_mem {I : G → Prop}
    (hisr : ∀ q, .prim q ∈ p.isr → ∀ now mem, I mem → I (p.prim q now none mem)) (h : I s.mem) :
    I (p.takeIrq .documented s).mem := by
  have hfold : ∀ (l : List (Act T O A F P)) (u : DocState T O A F P G),
      (∀ x ∈ l, x ∈ p.isr) → I u.mem → I (l.foldl (p.isrAct .documented) u).mem := by
    intro l
    induction l with
    | nil => exact fun _ _ hu => hu
    | cons x l ih =>
      intro u hl hu
      rw [List.foldl_cons]
      refine ih _ (fun y hy => hl y (List.mem_cons_of_mem x hy)) ?_
      cases x with
      | call c => exact hu
      | prim q => exact hisr q (hl _ List.mem_cons_self) _ _ hu
  exact hfold _ _ (fun _ hx => hx) h

/-- The code of a thread after a statement of `t`: it has just been created, or
only `t` has gone on. -/
theorem exec_code (p : Prog T O A F P G) (s : DocState T O A F P G) (t : T) (st : Stmt T O A F P G)
    (rest : List (Stmt T O A F P G)) (u : T) :
    (∃ c entry prio, st = .call c ∧ c s.mem = .kThreadCreate u entry prio ∧
      (p.exec .documented t st rest s).code u = p.body entry) ∨
    (p.exec .documented t st rest s).code u =
      if u = t then st.left s.mem ++ rest else s.code u := by
  cases st with
  | call c =>
    cases hc : c s.mem with
    | kThreadCreate v entry prio =>
      by_cases huv : u = v
      · subst huv
        exact .inl ⟨c, entry, prio, rfl, hc, by simp [Prog.exec, Prog.install, hc]⟩
      · right
        simp [Prog.exec, Prog.install, hc, huv, Stmt.left, Function.update_apply]
    | _ =>
      right
      simp [Prog.exec, Prog.install, hc, Stmt.left, Function.update_apply]
  | prim q =>
    right
    simp [Prog.exec, Stmt.left, Function.update_apply]
  | loop body =>
    right
    simp [Prog.exec, Stmt.left, Function.update_apply]
  | forUp i cond body =>
    right
    cases hi : cond i <;> simp [Prog.exec, Stmt.left, Function.update_apply, hi]
  | ite cond yes no =>
    right
    simp [Prog.exec, Stmt.left, Function.update_apply]

/-- The call does not create the thread `t`. -/
def Leaves (t : T) (c : G → Call T O A F) : Prop :=
  ∀ mem entry prio, c mem ≠ .kThreadCreate t entry prio

/-- The code of a thread after a statement that does not create it. -/
theorem exec_code_of_leaves {u : T} (hst : ∀ c, st = .call c → Leaves u c) :
    (p.exec .documented t st rest s).code u =
      if u = t then st.left s.mem ++ rest else s.code u := by
  rcases exec_code p s t st rest u with ⟨c, entry, prio, rfl, hc, -⟩ | h
  · exact absurd hc (hst c rfl s.mem entry prio)
  · exact h

/-- The variables after a statement: only a primitive changes them. -/
theorem exec_mem {I : G → Prop}
    (hprim : ∀ q, st = .prim q → I (p.prim q s.log.length (s.kern.data.ret t) s.mem))
    (h : I s.mem) : I (p.exec .documented t st rest s).mem := by
  cases st with
  | prim q => exact hprim q rfl
  | _ => exact h

/-! ## 3. A control thread that ends in a part of its own -/

/-- The call creates neither the thread `idle` nor a thread that executes
`main`. -/
def Spares (idle : T) (main : F) (c : G → Call T O A F) : Prop :=
  ∀ mem t entry prio, c mem = .kThreadCreate t entry prio → t ≠ idle ∧ entry ≠ main

omit [DecidableEq T] [DecidableEq O] [DecidableEq A] in
theorem Spares.leaves {idle : T} {main : F} {c : G → Call T O A F} (h : Spares idle main c) :
    Leaves idle c :=
  fun mem entry prio hc => (h mem idle entry prio hc).1 rfl

/-- The program executes `last` in the thread `idle` alone: the entry function
`main` ends in it, and all other code has primitives of `ψ`, which keep `I`. -/
structure EndsIn (p : Prog T O A F P G) (idle : T) (main : F) (ψ : P → Prop) (I : G → Prop)
    (last : List (Stmt T O A F P G)) : Prop where
  control : ConfinedUntil (Spares idle main) ψ last (p.body main)
  others : ∀ f, f ≠ main → Confined (Spares idle main) ψ (p.body f)
  isr : ∀ q, .prim q ∈ p.isr → ψ q
  keeps : ∀ q, ψ q → ∀ now ret mem, I mem → I (p.prim q now ret mem)

/-- The thread `idle` has not got to `last` yet. -/
structure Before (idle : T) (main : F) (ψ : P → Prop) (I : G → Prop)
    (last : List (Stmt T O A F P G)) (s : DocState T O A F P G) : Prop where
  control : ConfinedUntil (Spares idle main) ψ last (s.code idle)
  others : ∀ t, t ≠ idle → Confined (Spares idle main) ψ (s.code t)
  mem : I s.mem

/-- The thread `idle` is about to execute `last`. -/
structure AtLast (idle : T) (last : List (Stmt T O A F P G)) (s : DocState T O A F P G) :
    Prop where
  irq : (s.kern.irq.pending && s.kern.irq.enabled) = false
  current : s.kern.current = some idle
  code : s.code idle = last

variable {idle : T} {main : F} {I : G → Prop} {last : List (Stmt T O A F P G)}

theorem EndsIn.before_run (hp : EndsIn p idle main ψ I last) {prio : Nat} {data : Data T A}
    {mem : G} (h : I mem) :
    Before idle main ψ I last (p.run .documented idle prio main data mem 0) := by
  refine ⟨?_, fun t ht => ?_, h⟩
  · show ConfinedUntil _ _ _ (if idle = idle then p.body main else [])
    rw [if_pos rfl]
    exact hp.control
  · show Confined _ _ (if t = idle then p.body main else [])
    rw [if_neg ht]
    exact .nil

/-- A confined statement leaves the other threads with confined code. -/
theorem Before.exec_others (hp : EndsIn p idle main ψ I last) (h : Before idle main ψ I last s)
    (hst : Confined (Spares idle main) ψ [st])
    (hleft : t ≠ idle → Confined (Spares idle main) ψ (st.left s.mem ++ rest)) {u : T}
    (hu : u ≠ idle) : Confined (Spares idle main) ψ ((p.exec .documented t st rest s).code u) := by
  rcases exec_code p s t st rest u with hexec | hexec
  · obtain ⟨c, entry, prio, rfl, hc, hcode⟩ := hexec
    rw [hcode]
    exact hp.others entry ((confined_call.mp hst).1 s.mem u entry prio hc).2
  · rw [hexec]
    by_cases hut : u = t
    · rw [if_pos hut]
      exact hleft (hut ▸ hu)
    · rw [if_neg hut]
      exact h.others u hu

/-- A confined statement that leaves `idle` in front of its last part. -/
theorem Before.exec (hp : EndsIn p idle main ψ I last) (h : Before idle main ψ I last s)
    (hst : Confined (Spares idle main) ψ [st])
    (hleft : t ≠ idle → Confined (Spares idle main) ψ (st.left s.mem ++ rest))
    (hcontrol : ConfinedUntil (Spares idle main) ψ last
      (if idle = t then st.left s.mem ++ rest else s.code idle)) :
    Before idle main ψ I last (p.exec .documented t st rest s) := by
  refine ⟨?_, fun u hu => h.exec_others hp hst hleft hu, exec_mem ?_ h.mem⟩
  · have hspares : ∀ c, st = .call c → Leaves idle c := by
      rintro c rfl
      exact (confined_call.mp hst).1.leaves
    rw [exec_code_of_leaves hspares]
    exact hcontrol
  · rintro q rfl
    exact hp.keeps q (confined_prim.mp hst).1 _ _ _ h.mem

/-- A step leaves `idle` before its last part, or is the first of that part. -/
theorem Before.next (hp : EndsIn p idle main ψ I last) (h : Before idle main ψ I last s) :
    Before idle main ψ I last (p.next s) ∨ AtLast idle last s := by
  rcases next_cases p s with ⟨-, hnext⟩ | ⟨t, st, rest, hst, hnext⟩ | hnext
  · left
    rw [hnext]
    constructor
    · rw [takeIrq_code]
      exact h.control
    · rw [takeIrq_code]
      exact h.others
    · exact takeIrq_mem (fun q hq now mem => hp.keeps q (hp.isr q hq) now none mem) h.mem
  · obtain ⟨first, hfirst, hconfined⟩ := h.control
    rw [hnext]
    by_cases ht : idle = t
    · subst ht
      cases first with
      | nil => exact .inr ⟨hst.irq, hst.current, hfirst⟩
      | cons st' first =>
        left
        have heq : st :: rest = st' :: (first ++ last) := hst.code.symm.trans hfirst
        obtain ⟨rfl, rfl⟩ := List.cons.inj heq
        refine h.exec hp hconfined.head (fun hne => absurd rfl hne)
          ⟨st.left s.mem ++ first, ?_, hconfined.left⟩
        rw [if_pos rfl, List.append_assoc]
    · left
      have hcode : Confined (Spares idle main) ψ (st :: rest) :=
        hst.code ▸ h.others t fun heq => ht heq.symm
      refine h.exec hp hcode.head (fun _ => hcode.left) ⟨first, ?_, hconfined⟩
      rw [if_neg ht]
      exact hfirst
  · left
    rw [hnext]
    exact h

end ZephyrBench.Rtos

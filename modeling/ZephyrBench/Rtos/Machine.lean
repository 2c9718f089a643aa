/-
ZephyrBench.Rtos.Machine — multi-threaded programs on the kernel.

A thread body is a list of statements in the order of the source: kernel
calls, primitives that touch only the program's own variables, loops and
conditionals. `Prog.step` runs one statement of the running thread, or takes a
pending interrupt. An interrupt is taken between two statements and a call may
switch to another thread; a primitive is one step, in which nothing else
happens.

The kernel is a parameter (`Zephyr`): a state type of its own with a view as a
`Kernel`, on which every call acts as documented. All statements are about
views, and `run_view` shows that these are the states of the machine over the
documented kernel itself. So a result about the documented kernel is one about
every kernel that behaves as documented, and none is proved twice.

`State.log` is a history variable, latest entry first: what was executed by
whom, and every change of the running thread. No step reads it but that of a
time marker, and the time that a marker records is the length of the log at
that moment, so a marker's value names the log entry that took it.

`next_of_irq`, `next_of_none`, `next_of_nil` and `next_of_cons` are the four
cases of a step; a proof about one program uses the last, a proof about all
programs all of them (`next_cases` of `Rtos.Residual`).
-/
import Mathlib.Logic.Function.Iterate
import ZephyrBench.Rtos.Call

namespace ZephyrBench.Rtos

/-! ## 1. Programs -/

/-- Something a thread executes in one step. -/
inductive Act (T O A F P : Type)
  | call (c : Call T O A F)
  | prim (p : P)
  deriving DecidableEq

/-- A statement; `G` is the type of the program's variables. The arguments of
a call and the condition of an `ite` are read when they are reached. -/
inductive Stmt (T O A F P G : Type)
  | call (c : G → Call T O A F)
  | prim (p : P)
  | loop (body : List (Stmt T O A F P G))
  | forUp (i : Nat) (cond : Nat → Bool) (body : Nat → List (Stmt T O A F P G))
  | ite (cond : G → Bool) (thenBody elseBody : List (Stmt T O A F P G))

/-- A program: the thread entry functions, the primitives (at a given time,
with the result of the thread's last call), and the interrupt handler with
whether its exit reschedules. -/
structure Prog (T O A F P G : Type) where
  body : F → List (Stmt T O A F P G)
  prim : P → Nat → Option A → G → G
  isr : List (Act T O A F P)
  isrResched : Bool

/-- An entry of the history. -/
inductive Entry (T O A F P : Type)
  | exec (t : T) (x : Act T O A F P)
  | isr (x : Act T O A F P)
  | switch (old new : Option T)
  deriving DecidableEq

/-- A machine state over kernel states `K`: what is left of every thread's
body, the program's variables, and the history. -/
structure State (K T O A F P G : Type) where
  kern : K
  code : T → List (Stmt T O A F P G)
  mem : G
  log : List (Entry T O A F P)

/-! ## 2. The kernel as a parameter -/

/-- An implementation of the kernel that behaves as documented: seen through
`view`, it boots as `Kernel.boot`, and its calls and the entry and the exit of
the interrupt handler act as those of `Kernel`. -/
structure Zephyr (K T O A F : Type) [DecidableEq T] [DecidableEq O] [DecidableEq A] where
  view : K → Kernel T O A
  boot : T → Nat → Data T A → K
  call : K → Call T O A F → K
  isrEnter : K → K
  isrExit : K → Bool → K
  view_boot : ∀ t prio data, view (boot t prio data) = Kernel.boot t prio data
  view_call : ∀ k c, view (call k c) = (view k).call c
  view_isrEnter : ∀ k, view (isrEnter k) = (view k).isrEnter
  view_isrExit : ∀ k b, view (isrExit k b) = (view k).isrExit b

variable {K T O A F P G : Type} [DecidableEq T] [DecidableEq O] [DecidableEq A]

/-- The documented kernel, as its own implementation. -/
def Zephyr.documented : Zephyr (Kernel T O A) T O A F where
  view := id
  boot := Kernel.boot
  call := Kernel.call
  isrEnter := Kernel.isrEnter
  isrExit := Kernel.isrExit
  view_boot _ _ _ := rfl
  view_call _ _ := rfl
  view_isrEnter _ := rfl
  view_isrExit _ _ := rfl

@[simp] theorem documented_view (k : Kernel T O A) :
    (Zephyr.documented (F := F)).view k = k := rfl

@[simp] theorem documented_call (k : Kernel T O A) (c : Call T O A F) :
    Zephyr.documented.call k c = k.call c := rfl

@[simp] theorem documented_isrEnter (k : Kernel T O A) :
    (Zephyr.documented (F := F)).isrEnter k = k.isrEnter := rfl

@[simp] theorem documented_isrExit (k : Kernel T O A) (b : Bool) :
    (Zephyr.documented (F := F)).isrExit k b = k.isrExit b := rfl

/-! ## 3. Steps -/

/-- The code after a call: a created thread starts at the top of its entry
function. -/
def Prog.install (p : Prog T O A F P G) (c : Call T O A F)
    (code : T → List (Stmt T O A F P G)) : T → List (Stmt T O A F P G) :=
  match c with
  | .kThreadCreate t entry _ => Function.update code t (p.body entry)
  | _ => code

/-- Log a change of the running thread. -/
def logSwitch (old new : Option T) (log : List (Entry T O A F P)) : List (Entry T O A F P) :=
  if old = new then log else .switch old new :: log

variable (p : Prog T O A F P G) (Z : Zephyr K T O A F)

/-- One statement of the interrupt handler. -/
def Prog.isrAct (s : State K T O A F P G) (x : Act T O A F P) : State K T O A F P G :=
  match x with
  | .call c => { s with kern := Z.call s.kern c, log := .isr x :: s.log }
  | .prim q => { s with mem := p.prim q s.log.length none s.mem, log := .isr x :: s.log }

/-- The interrupt handler, from its entry to its exit. -/
def Prog.takeIrq (s : State K T O A F P G) : State K T O A F P G :=
  let s' := p.isr.foldl (p.isrAct Z) { s with kern := Z.isrEnter s.kern }
  let kern := Z.isrExit s'.kern p.isrResched
  { s' with kern, log := logSwitch (Z.view s'.kern).current (Z.view kern).current s'.log }

/-- One statement of the running thread `t`, whose code is `st :: rest`. -/
def Prog.exec (t : T) (st : Stmt T O A F P G) (rest : List (Stmt T O A F P G))
    (s : State K T O A F P G) : State K T O A F P G :=
  match st with
  | .call c =>
    let kern := Z.call s.kern (c s.mem)
    { kern
      code := p.install (c s.mem) (Function.update s.code t rest)
      mem := s.mem
      log := logSwitch (some t) (Z.view kern).current (.exec t (.call (c s.mem)) :: s.log) }
  | .prim q =>
    { kern := s.kern
      code := Function.update s.code t rest
      mem := p.prim q s.log.length ((Z.view s.kern).data.ret t) s.mem
      log := .exec t (.prim q) :: s.log }
  | .loop body => { s with code := Function.update s.code t (body ++ .loop body :: rest) }
  | .forUp i cond body =>
    { s with
      code := Function.update s.code t
        (if cond i then body i ++ .forUp (i + 1) cond body :: rest else rest) }
  | .ite cond thenBody elseBody =>
    { s with
      code := Function.update s.code t ((if cond s.mem then thenBody else elseBody) ++ rest) }

/-- One step: a pending interrupt first, else the running thread. The idle CPU
and a thread whose body has ended stay where they are. -/
def Prog.step (s : State K T O A F P G) : State K T O A F P G :=
  if (Z.view s.kern).irq.pending && (Z.view s.kern).irq.enabled then p.takeIrq Z s
  else
    match (Z.view s.kern).current with
    | none => s
    | some t =>
      match s.code t with
      | [] => s
      | st :: rest => p.exec Z t st rest s

/-- The state after `n` steps of a run that begins in the entry function `f`,
run by the thread `t` at priority `prio`. -/
def Prog.run (t : T) (prio : Nat) (f : F) (data : Data T A) (mem : G) (n : Nat) :
    State K T O A F P G :=
  (p.step Z)^[n]
    { kern := Z.boot t prio data
      code := fun u => if u = t then p.body f else []
      mem
      log := [] }

/-! ## 4. Views -/

/-- The state as seen through the view of the kernel. -/
def State.view (s : State K T O A F P G) : State (Kernel T O A) T O A F P G :=
  { kern := Z.view s.kern, code := s.code, mem := s.mem, log := s.log }

abbrev DocState (T O A F P G : Type) := State (Kernel T O A) T O A F P G

/-- A step over the documented kernel. -/
abbrev Prog.next (s : DocState T O A F P G) : DocState T O A F P G := p.step .documented s

section Next

variable {p} {s : DocState T O A F P G}

theorem next_of_irq (h : (s.kern.irq.pending && s.kern.irq.enabled) = true) :
    p.next s = p.takeIrq .documented s := by
  simp [Prog.next, Prog.step, h]

theorem next_of_none (hirq : (s.kern.irq.pending && s.kern.irq.enabled) = false)
    (hcur : s.kern.current = none) : p.next s = s := by
  simp [Prog.next, Prog.step, hirq, hcur]

theorem next_of_nil (hirq : (s.kern.irq.pending && s.kern.irq.enabled) = false) {t : T}
    (hcur : s.kern.current = some t) (hcode : s.code t = []) : p.next s = s := by
  simp [Prog.next, Prog.step, hirq, hcur, hcode]

theorem next_of_cons (hirq : (s.kern.irq.pending && s.kern.irq.enabled) = false) {t : T}
    (hcur : s.kern.current = some t) {st : Stmt T O A F P G} {rest : List (Stmt T O A F P G)}
    (hcode : s.code t = st :: rest) : p.next s = p.exec .documented t st rest s := by
  simp [Prog.next, Prog.step, hirq, hcur, hcode]

end Next

theorem isrAct_view (s : State K T O A F P G) (x : Act T O A F P) :
    (p.isrAct Z s x).view Z = p.isrAct .documented (s.view Z) x := by
  cases x with
  | call c => simp [Prog.isrAct, State.view, Zephyr.documented, Z.view_call]
  | prim q => rfl

theorem foldl_isrAct_view (l : List (Act T O A F P)) (s : State K T O A F P G) :
    (l.foldl (p.isrAct Z) s).view Z = l.foldl (p.isrAct .documented) (s.view Z) := by
  induction l generalizing s with
  | nil => rfl
  | cons x l ih => rw [List.foldl_cons, ih, isrAct_view, List.foldl_cons]

theorem takeIrq_view (s : State K T O A F P G) :
    (p.takeIrq Z s).view Z = p.takeIrq .documented (s.view Z) := by
  have h := foldl_isrAct_view p Z p.isr { s with kern := Z.isrEnter s.kern }
  have h0 : State.view Z { s with kern := Z.isrEnter s.kern } =
      { s.view Z with kern := (s.view Z).kern.isrEnter } := by
    simp [State.view, Z.view_isrEnter]
  rw [h0] at h
  simp only [Prog.takeIrq, documented_isrEnter, documented_isrExit, documented_view, ← h]
  simp [State.view, Z.view_isrExit]

theorem exec_view (s : State K T O A F P G) (t : T) (st : Stmt T O A F P G)
    (rest : List (Stmt T O A F P G)) :
    (p.exec Z t st rest s).view Z = p.exec .documented t st rest (s.view Z) := by
  cases st with
  | call c => simp [Prog.exec, State.view, Z.view_call]
  | prim q => rfl
  | loop body => rfl
  | forUp i cond body => rfl
  | ite cond thenBody elseBody => rfl

theorem step_view (s : State K T O A F P G) :
    (p.step Z s).view Z = p.next (s.view Z) := by
  cases hirq : (Z.view s.kern).irq.pending && (Z.view s.kern).irq.enabled with
  | true =>
    have h : p.step Z s = p.takeIrq Z s := by simp only [Prog.step, hirq, if_true]
    have h' : p.next (s.view Z) = p.takeIrq .documented (s.view Z) := by
      simp only [Prog.next, Prog.step, documented_view, State.view, hirq, if_true]
    rw [h, h', takeIrq_view]
  | false =>
    simp only [Prog.next, Prog.step, documented_view, State.view, hirq]
    cases (Z.view s.kern).current with
    | none => rfl
    | some t =>
      cases hcode : s.code t with
      | nil => simp [hcode]
      | cons st rest => simpa [hcode, State.view] using exec_view p Z s t st rest

/-- Seen through the view, a run over any documented implementation is the run
over the documented kernel. -/
theorem run_view (t : T) (prio : Nat) (f : F) (data : Data T A) (mem : G) (n : Nat) :
    (p.run Z t prio f data mem n).view Z = p.run .documented t prio f data mem n := by
  induction n with
  | zero => simp [Prog.run, State.view, Zephyr.documented, Z.view_boot]
  | succ n ih =>
    simp only [Prog.run, Function.iterate_succ_apply'] at ih ⊢
    rw [step_view, ih]

end ZephyrBench.Rtos

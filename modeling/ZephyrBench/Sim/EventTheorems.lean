/-
ZephyrBench.Sim.EventTheorems — the contracts of `event_block` and
`event_preempt`.

No probe writes to the ready queue, and what a post leaves in `tail_event` does
not overlap what the wait asks for; so every wait pends and every post of
`event_block` swaps, whatever was called before. `EventVars.Intact` is what holds
of the variables throughout: those that no probe writes have their initial
values.

Each `measure*_iterates` executes one iteration of a probe. `contract` puts them
together for each of the two tests, and the waits, which both have, are executed
once. The tail that does not wait writes zero to the interrupt mask whatever it
was, which is why `mask` is a function.
-/
import ZephyrBench.Sim.Runs

namespace ZephyrBench.Sim

variable {B : Bmth} {L : IrqLock} {s : Machine B EventVars}

open SimThread

/-- The variables that no probe writes have their initial values, and
`tail_event` does not overlap the request. -/
structure EventVars.Intact (v : EventVars) : Prop where
  guard : v.simGuard = 0x20
  request : v.simWaitRequest = 1
  postKey : v.simPostKey = 0
  overlap : v.tailEvent.events &&& 1#32 = 0#32

theorem EventVars.intact_initial : EventVars.initial.Intact :=
  ⟨rfl, rfl, rfl, by decide⟩

/-- What a post leaves in the event does not overlap the request either. -/
theorem EventVars.Intact.post {v : EventVars} (h : v.Intact) :
    EventVars.Intact { v with tailEvent := ⟨v.simGuard &&& ~~~0⟩ } :=
  ⟨h.guard, h.request, h.postKey, by simp [h.guard]⟩

/-- Between two calls the ready queue is as it was at boot. -/
abbrev EventIdle : Machine B EventVars → Prop := Idle EventVars.Intact (· = none)

abbrev EventHead (fresh : Bool) : Machine B EventVars → Prop :=
  Head EventVars.Intact (· = none) fresh

attribute [local simp] simRescheduleSwapTail simZRescheduleSwapTail simAreWaitConditionsMet
  simKEventWaitInternalTail simKEventWaitInternal simZImplKEventWaitSafeTail
  simZImplKEventWaitSafe measureWaitTail measureWaitPrologue kForever kNoWait

/-! ## 1. The simulated wait -/

section Wait

variable {compensation : SimM B EventVars Unit}

def SimWaitPart.fresh : SimWaitPart → Bool
  | .tail => true
  | .prologue => false

/-- The tail pends with no wait queue and no timeout. -/
def SimWaitPart.trace : SimWaitPart → List Mark
  | .tail => [.sink 1, .stop, .start, .unreached, .unreached, .arm .waitPend]
  | .prologue => [.sink 0, .stop, .start, .arm .waitPend]

def SimWaitPart.mask : SimWaitPart → BitVec 32 → BitVec 32
  | .tail => id
  | .prologue => fun _ => 0

theorem SimWaitPart.mask_zero (part : SimWaitPart) : part.mask 0 = 0 := by
  cases part <;> rfl

theorem measureWaitTail_iterates (h : EventHead true s) :
    Iterates (EventHead true) (measureWaitTail compensation kForever)
      (SimWaitPart.trace .tail) (SimWaitPart.mask .tail) s := by
  have hcurrent := h.current
  have hreturns := h.returns rfl
  have hvars := h.vars
  obtain ⟨hguard, hrequest, -, -⟩ := h.vars
  refine h.iterates ?_ ?_ ?_ (fun _ => ?_) ?_ ?_ <;>
    simp [*, SimWaitPart.trace, SimWaitPart.mask]

/-- The tail that does not wait writes zero to the interrupt mask. -/
theorem measureWaitTail_noWait_iterates {τ : List Mark}
    (hcompensation : ∀ t : Machine B EventVars, (compensation t).2 = { t with log := τ ++ t.log })
    (h : EventHead true s) :
    Iterates (EventHead true) (measureWaitTail compensation kNoWait)
      ([.sink 0, .stop] ++ τ ++ [.start, .arm .waitNoWait]) (fun _ => 0) s := by
  have hreturns := h.returns rfl
  have hvars := h.vars
  obtain ⟨hguard, hrequest, -, -⟩ := h.vars
  refine h.iterates ?_ ?_ ?_ (fun _ => ?_) ?_ ?_ <;> simp [*]

/-- The prologue pends, whatever a post left in the event. -/
theorem measureWaitPrologue_iterates (h : EventHead false s) :
    Iterates (EventHead false) (measureWaitPrologue L kForever)
      (SimWaitPart.trace .prologue) (SimWaitPart.mask .prologue) s := by
  have hcurrent := h.current
  have hvars := h.vars
  obtain ⟨-, hrequest, -, hoverlap⟩ := h.vars
  refine h.iterates ?_ ?_ ?_ nofun ?_ ?_ <;>
    simp [*, eagain, SimWaitPart.trace, SimWaitPart.mask]

end Wait

/-! ## 2. `event_block` -/

namespace EventBlock

/-- The prologues leave `-EAGAIN` to return. -/
def Call.fresh : Call → Bool
  | .zSwap part => part.fresh
  | .wait part => part.fresh
  | _ => true

def Call.trace : Call → List Mark
  | .zSwap part => part.trace
  | .wait part => part.trace
  | .waitTailNoWait => [.sink 0, .stop, .compensation, .start, .arm .waitNoWait]
  | .postTail => [.sink 0x20, .stop, .start, .arm .swap]

def Call.mask : Call → BitVec 32 → BitVec 32
  | .zSwap part => part.mask
  | .wait part => part.mask
  | .waitTailNoWait => fun _ => 0
  | .postTail => id

theorem measurePostTail_iterates (h : EventHead true s) :
    Iterates (EventHead true) measurePostTail (Call.trace .postTail) (Call.mask .postTail) s := by
  have hcurrent := h.current
  have hreturns := h.returns rfl
  have hipsr := h.ipsr
  have hcache := h.cache
  have hpost := h.vars.post
  obtain ⟨hguard, -, hpostKey, -⟩ := h.vars
  refine h.iterates ?_ ?_ ?_ (fun _ => ?_) ?_ ?_ <;>
    simp_all [measurePostTail, simZImplKEventPostSwapTail, simKEventPostInternalSwapTail,
      Call.trace, Call.mask]

theorem iterates (c : Call) (h : EventHead c.fresh s) :
    Iterates (EventHead c.fresh) ((image B L).probe c).iteration c.trace c.mask s := by
  cases c with
  | zSwap part => exact measureZSwap_iterates part h
  | wait part =>
    cases part with
    | tail => exact measureWaitTail_iterates h
    | prologue => exact measureWaitPrologue_iterates h
  | waitTailNoWait => exact measureWaitTail_noWait_iterates (τ := [.compensation]) (fun _ => rfl) h
  | postTail => exact measurePostTail_iterates h

theorem ready_prepare (c : Call) (h : EventIdle s) :
    EventHead c.fresh (((image B L).probe c).prepare s).2 := by
  cases c <;> exact h.init _ _

def contract (B : Bmth) (L : IrqLock) : Contract (image B L) where
  Static := EventIdle
  Ready c := EventHead c.fresh
  trace := Call.trace
  mask := Call.mask
  masks _ := False
  boot _ := ⟨rfl, EventVars.intact_initial, rfl⟩
  unmask _ h := h.unmask
  prepare c _ h := ready_prepare c h
  prepare_basepri c _ := by cases c <;> rfl
  static _ _ h := h.toIdle
  iteration c _ h := iterates c h
  mask_zero c _ := by
    cases c with
    | zSwap part => exact part.mask_zero
    | wait part => exact part.mask_zero
    | _ => rfl
  mask_ne_zero _ h := h.elim

end EventBlock

/-! ## 3. `event_preempt` -/

namespace EventPreempt

def Call.fresh : Call → Bool
  | .eventTail => true
  | .zSwap part => part.fresh
  | .wait part => part.fresh

def Call.trace : Call → List Mark
  | .eventTail => [.sink 0x20, .stop, .start, .reached, .arm .noSwap]
  | .zSwap part => part.trace
  | .wait part => part.trace

def Call.mask : Call → BitVec 32 → BitVec 32
  | .eventTail => fun _ => 0
  | .zSwap part => part.mask
  | .wait part => part.mask

theorem measureEventTail_iterates (h : EventHead true s) :
    Iterates (EventHead true) measureEventTail (Call.trace .eventTail) (Call.mask .eventTail)
      s := by
  have hreturns := h.returns rfl
  have hpost := h.vars.post
  have hguard := h.vars.guard
  refine h.iterates ?_ ?_ ?_ (fun _ => ?_) ?_ ?_ <;>
    simp_all [measureEventTail, simZImplKEventPost, simKEventPostInternal, Call.trace, Call.mask]

theorem iterates (c : Call) (h : EventHead c.fresh s) :
    Iterates (EventHead c.fresh) ((image B L).probe c).iteration c.trace c.mask s := by
  cases c with
  | eventTail => exact measureEventTail_iterates h
  | zSwap part => exact measureZSwap_iterates part h
  | wait part =>
    cases part with
    | tail => exact measureWaitTail_iterates h
    | prologue => exact measureWaitPrologue_iterates h

theorem ready_prepare (c : Call) (h : EventIdle s) :
    EventHead c.fresh (((image B L).probe c).prepare s).2 := by
  cases c with
  | wait part => cases part <;> exact h.init _ _
  | _ => exact h.init _ _

def contract (B : Bmth) (L : IrqLock) : Contract (image B L) where
  Static := EventIdle
  Ready c := EventHead c.fresh
  trace := Call.trace
  mask := Call.mask
  masks _ := False
  boot _ := ⟨rfl, EventVars.intact_initial, rfl⟩
  unmask _ h := h.unmask
  prepare c _ h := ready_prepare c h
  prepare_basepri c _ := by
    cases c with
    | wait part => cases part <;> rfl
    | _ => rfl
  static _ _ h := h.toIdle
  iteration c _ h := iterates c h
  mask_zero c _ := by
    cases c with
    | zSwap part => exact part.mask_zero
    | wait part => exact part.mask_zero
    | _ => rfl
  mask_ne_zero _ h := h.elim

end EventPreempt

end ZephyrBench.Sim

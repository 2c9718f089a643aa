/-
ZephyrBench.Sim.WaitTheorems — the two halves of the simulated wait.

`waits_agree_iff`: for any events, options, timeout and state, the two halves of
the simulated wait take the same arm and do the same on it, in both directories,
unless the wait reaches the test of its timeout and only the upper half of the
timeout is not zero.

## Why the condition

The tail half is given its arguments through an array of words, so it keeps the
lower 32 bits of a timeout of 64; the prologue half has all of it. The test is
whether the timeout is zero, and it is reached only when events are asked for and
the conditions are not met. `waits_not_agree` is such a wait, for 2³² ticks.

## How the proof goes

`waitArm` is the arm of a wait that sees `noWait` of its timeout, and each half
takes that arm with what it sees (`tail_takesArm`, `prologue_takesArm`); so the
halves agree if and only if the two arms are equal (`waitArm_eq_iff`). The copies
of one half in the two directories differ in an instruction that shows in the
history alone (`tails_samePath`, `prologues_samePath`).
-/
import ZephyrBench.Sim.ProbeTheorems

namespace ZephyrBench.Sim

variable {B : Bmth}

open SimThread

/-! ## 1. The arms -/

/-- The arm of a wait that finds the events `current`, with `noWait` for what
it sees of its timeout. -/
def waitArm (events options current : BitVec 32) (noWait : Bool) : Arm :=
  if events = 0 then .emptyMask
  else if simAreWaitConditionsMet events current (options &&& 1) ≠ 0 then .conditionsMet
  else if noWait then .waitNoWait
  else .waitPend

/-- What a wait returns that does not pend. -/
def waitValue (events options current : BitVec 32) : BitVec 32 :=
  if events = 0 then 0 else simAreWaitConditionsMet events current (options &&& 1)

section WaitArm

variable {events options current : BitVec 32} {noWait : Bool}

theorem waitArm_empty (h : events = 0#32) : waitArm events options current noWait = .emptyMask :=
  if_pos h

theorem waitArm_met (h : ¬events = 0#32)
    (hmet : ¬simAreWaitConditionsMet events current (options &&& 1#32) = 0#32) :
    waitArm events options current noWait = .conditionsMet :=
  (if_neg h).trans (if_pos hmet)

theorem waitArm_noWait (h : ¬events = 0#32)
    (hmet : simAreWaitConditionsMet events current (options &&& 1#32) = 0#32)
    (hnone : noWait = true) : waitArm events options current noWait = .waitNoWait :=
  (if_neg h).trans ((if_neg (not_not.mpr hmet)).trans (if_pos hnone))

theorem waitArm_pend (h : ¬events = 0#32)
    (hmet : simAreWaitConditionsMet events current (options &&& 1#32) = 0#32)
    (hnone : noWait = false) : waitArm events options current noWait = .waitPend :=
  (if_neg h).trans ((if_neg (not_not.mpr hmet)).trans (if_neg (Bool.eq_false_iff.mp hnone)))

/-- What a wait sees of its timeout matters to one that reaches the test. -/
theorem waitArm_eq_iff {noWait' : Bool} :
    waitArm events options current noWait = waitArm events options current noWait' ↔
      (events ≠ 0 → simAreWaitConditionsMet events current (options &&& 1) = 0 →
        noWait = noWait') := by
  constructor
  · intro h hempty hmet
    cases noWait <;> cases noWait'
    · rfl
    · rw [waitArm_pend hempty hmet rfl, waitArm_noWait hempty hmet rfl] at h
      cases h
    · rw [waitArm_noWait hempty hmet rfl, waitArm_pend hempty hmet rfl] at h
      cases h
    · rfl
  · intro h
    by_cases hempty : events = 0#32
    · rw [waitArm_empty hempty, waitArm_empty hempty]
    by_cases hmet : simAreWaitConditionsMet events current (options &&& 1#32) = 0#32
    · rw [h hempty hmet]
    · rw [waitArm_met hempty hmet, waitArm_met hempty hmet]

end WaitArm

/-- The wait that ran from `s` to `r` took the arm `a`: it returned `value`, or
stored its events and options for the pending thread. -/
structure TakesArm (a : Arm) (value events options : BitVec 32) (s : Machine B EventVars)
    (r : BitVec 32 × Machine B EventVars) : Prop where
  arm : armsSince s r.2 = [a]
  value : a ≠ .waitPend → r.1 = value
  stored : a = .waitPend → (r.2.thread simCurrentThread).events = events ∧
    (r.2.thread simCurrentThread).eventOptions = options

/-- Two waits from `s` took the same arm and did the same on it. -/
def SamePath (events options : BitVec 32) (s : Machine B EventVars)
    (r r' : BitVec 32 × Machine B EventVars) : Prop :=
  ∃ a, armsSince s r.2 = [a] ∧ armsSince s r'.2 = [a] ∧ (a ≠ .waitPend → r.1 = r'.1) ∧
    (a = .waitPend → ∀ t ∈ [r.2, r'.2], (t.thread simCurrentThread).events = events ∧
      (t.thread simCurrentThread).eventOptions = options)

theorem samePath_iff {s : Machine B EventVars} {a a' : Arm} {value events options : BitVec 32}
    {r r' : BitVec 32 × Machine B EventVars} (h : TakesArm a value events options s r)
    (h' : TakesArm a' value events options s r') : SamePath events options s r r' ↔ a = a' := by
  constructor
  · rintro ⟨b, hb, hb', -⟩
    have heq : [a] = [b] := h.arm.symm.trans hb
    have heq' : [a'] = [b] := h'.arm.symm.trans hb'
    rw [List.singleton_inj.mp heq, List.singleton_inj.mp heq']
  · rintro rfl
    refine ⟨a, h.arm, h'.arm, fun hne => (h.value hne).trans (h'.value hne).symm, ?_⟩
    intro heq t ht
    simp only [List.mem_cons, List.not_mem_nil, or_false] at ht
    rcases ht with rfl | rfl
    · exact h.stored heq
    · exact h'.stored heq

section OfLog

variable {s : Machine B EventVars} {a : Arm} {value events options : BitVec 32}
  {r : BitVec 32 × Machine B EventVars} (τ : List Mark)

/-- The arm is read off the marks that the wait left. -/
theorem TakesArm.returning (hlog : r.2.log = τ ++ s.log) (harm : τ.filterMap Mark.arm? = [a])
    (hne : a ≠ .waitPend) (hvalue : r.1 = value) : TakesArm a value events options s r := by
  refine ⟨?_, fun _ => hvalue, fun h => absurd h hne⟩
  rw [armsSince_eq hlog, harm]
  rfl

theorem TakesArm.pending (hlog : r.2.log = τ ++ s.log)
    (harm : τ.filterMap Mark.arm? = [.waitPend])
    (hevents : (r.2.thread simCurrentThread).events = events)
    (hoptions : (r.2.thread simCurrentThread).eventOptions = options) :
    TakesArm .waitPend value events options s r := by
  refine ⟨?_, fun h => absurd rfl h, fun _ => ⟨hevents, hoptions⟩⟩
  rw [armsSince_eq hlog, harm]
  rfl

end OfLog

/-! ## 2. The halves -/

/-- A timeout of which the lower word is zero, and which is not zero. -/
def KTimeout.HighWordOnly (timeout : KTimeout) : Prop :=
  timeout.ticks ≠ 0 ∧ timeout.ticks.setWidth 32 = 0

theorem KTimeout.tests_eq_iff (timeout : KTimeout) :
    (timeout.ticks.setWidth 32 == 0#32) = (timeout.ticks == 0#64) ↔ ¬ timeout.HighWordOnly := by
  unfold KTimeout.HighWordOnly
  by_cases hnone : timeout.ticks = 0#64
  · simp [hnone]
  · have hticks : (timeout.ticks == 0#64) = false := beq_eq_false_iff_ne.mpr hnone
    rw [hticks, beq_eq_false_iff_ne]
    exact ⟨fun hne h => hne h.2, fun h hword => h ⟨hnone, hword⟩⟩

section Halves

variable (s : Machine B EventVars) (events options : BitVec 32) (timeout : KTimeout)
  {L : IrqLock} {compensation : SimM B EventVars Unit} {τ : List Mark}

attribute [local simp] simKEventWaitInternalTail simKEventWaitInternal kNoWait

/-- The tail half sees the lower word of its timeout. -/
theorem tail_takesArm (hτ : τ.filterMap Mark.arm? = [])
    (hcompensation : ∀ t : Machine B EventVars, (compensation t).2 = { t with log := τ ++ t.log }) :
    TakesArm (waitArm events options s.vars.simGuard (timeout.ticks.setWidth 32 == 0#32))
      (waitValue events options s.vars.simGuard) events options s
      (simKEventWaitInternalTail compensation events options timeout s) := by
  by_cases hempty : events = 0#32
  · rw [waitArm_empty hempty]
    refine .returning [.arm .emptyMask] ?_ rfl (by decide) ?_
    · simp [hempty]
    · simp [waitValue, hempty]
  by_cases hmet : simAreWaitConditionsMet events s.vars.simGuard (options &&& 1#32) = 0#32
  · by_cases hnone : timeout.ticks.setWidth 32 = 0#32
    · rw [waitArm_noWait hempty hmet (beq_iff_eq.mpr hnone)]
      refine .returning (τ ++ [.start, .arm .waitNoWait]) ?_ ?_ (by decide) ?_
      · simp [hempty, hmet, hnone, hcompensation]
      · rw [List.filterMap_append, hτ]
        rfl
      · simp [waitValue, hempty, hmet, hnone]
    · rw [waitArm_pend hempty hmet (beq_eq_false_iff_ne.mpr hnone)]
      cases hcurrent : s.kernel.current with
      | none =>
        refine .pending [.nullDereference, .start, .unreached, .unreached, .arm .waitPend] ?_ rfl
          ?_ ?_ <;> simp [hempty, hmet, hnone, hcurrent]
      | some t =>
        -- the swap's value decides what is returned, not the state
        refine .pending [.start, .unreached, .unreached, .arm .waitPend] ?_ rfl ?_ ?_ <;>
          simp [hempty, hmet, hnone, hcurrent, apply_ite Prod.snd]
  · rw [waitArm_met hempty hmet]
    refine .returning [.arm .conditionsMet] ?_ rfl (by decide) ?_
    · simp [hempty, hmet]
    · simp [waitValue, hempty, hmet]

/-- The prologue half sees all of it. -/
theorem prologue_takesArm (event : KEvent) :
    TakesArm (waitArm events options event.events (timeout.ticks == 0#64))
      (waitValue events options event.events) events options s
      (simKEventWaitInternal L event events options timeout s) := by
  by_cases hempty : events = 0#32
  · rw [waitArm_empty hempty]
    refine .returning [.arm .emptyMask] ?_ rfl (by decide) ?_
    · simp [hempty]
    · simp [waitValue, hempty]
  by_cases hmet : simAreWaitConditionsMet events event.events (options &&& 1#32) = 0#32
  · by_cases hnone : timeout.ticks = 0#64
    · rw [waitArm_noWait hempty hmet (beq_iff_eq.mpr hnone)]
      refine .returning [.arm .waitNoWait] ?_ rfl (by decide) ?_
      · simp [hempty, hmet, hnone]
      · simp [waitValue, hempty, hmet, hnone]
    · rw [waitArm_pend hempty hmet (beq_eq_false_iff_ne.mpr hnone)]
      cases hcurrent : s.kernel.current with
      | none =>
        refine .pending [.nullDereference, .stop, .nullDereference, .nullDereference, .start,
          .arm .waitPend] ?_ rfl ?_ ?_ <;> simp [hempty, hmet, hnone, hcurrent]
      | some t =>
        refine .pending [.stop, .start, .arm .waitPend] ?_ rfl ?_ ?_
        · simp [hempty, hmet, hnone, hcurrent, eagain]
        · cases t <;> simp [hempty, hmet, hnone, hcurrent, eagain]
        · cases t <;> simp [hempty, hmet, hnone, hcurrent, eagain]
  · rw [waitArm_met hempty hmet]
    refine .returning [.arm .conditionsMet] ?_ rfl (by decide) ?_
    · simp [hempty, hmet]
    · simp [waitValue, hempty, hmet]

/-- The halves of one copy. -/
theorem halves_samePath_iff (hτ : τ.filterMap Mark.arm? = [])
    (hcompensation : ∀ t : Machine B EventVars, (compensation t).2 = { t with log := τ ++ t.log }) :
    SamePath events options s (simKEventWaitInternalTail compensation events options timeout s)
        (simKEventWaitInternal L ⟨s.vars.simGuard⟩ events options timeout s) ↔
      ¬ (events ≠ 0 ∧ simAreWaitConditionsMet events s.vars.simGuard (options &&& 1) = 0 ∧
        timeout.HighWordOnly) := by
  rw [samePath_iff (tail_takesArm s events options timeout hτ hcompensation)
    (prologue_takesArm s events options timeout ⟨s.vars.simGuard⟩), waitArm_eq_iff,
    timeout.tests_eq_iff]
  constructor
  · rintro h ⟨hempty, hmet, hticks⟩
    exact h hempty hmet hticks
  · exact fun h hempty hmet hticks => h ⟨hempty, hmet, hticks⟩

end Halves

/-! ## 3. The two directories -/

/-- A wait on an event whose events are `sim_guard`, in both halves and both
directories. -/
structure WaitsAgree (L : IrqLock) (events options : BitVec 32) (timeout : KTimeout)
    (s : Machine B EventVars) : Prop where
  eventBlock : SamePath events options s
    (EventBlock.simKEventWaitInternalTail events options timeout s)
    (EventBlock.simKEventWaitInternal L ⟨s.vars.simGuard⟩ events options timeout s)
  eventPreempt : SamePath events options s
    (EventPreempt.simKEventWaitInternalTail events options timeout s)
    (EventPreempt.simKEventWaitInternal L ⟨s.vars.simGuard⟩ events options timeout s)
  tails : SamePath events options s
    (EventBlock.simKEventWaitInternalTail events options timeout s)
    (EventPreempt.simKEventWaitInternalTail events options timeout s)
  prologues : SamePath events options s
    (EventBlock.simKEventWaitInternal L ⟨s.vars.simGuard⟩ events options timeout s)
    (EventPreempt.simKEventWaitInternal L ⟨s.vars.simGuard⟩ events options timeout s)

/-- What `event_block` adds to the tail half shows in its history alone. -/
theorem quickCompensation_log (s : Machine B EventVars) :
    (EventBlock.quickCompensation s).2 = { s with log := [.compensation] ++ s.log } := rfl

theorem noCompensation_log (s : Machine B EventVars) :
    ((pure () : SimM B EventVars Unit) s).2 = { s with log := [] ++ s.log } := rfl

section Copies

variable (L : IrqLock) (s : Machine B EventVars) (events options : BitVec 32) (timeout : KTimeout)

/-- The copies of a half always agree. -/
theorem tails_samePath :
    SamePath events options s (EventBlock.simKEventWaitInternalTail events options timeout s)
      (EventPreempt.simKEventWaitInternalTail events options timeout s) := by
  have hblock := tail_takesArm s events options timeout rfl quickCompensation_log
  have hpreempt := tail_takesArm s events options timeout rfl noCompensation_log
  exact (samePath_iff hblock hpreempt).mpr rfl

theorem prologues_samePath (event : KEvent) :
    SamePath events options s (EventBlock.simKEventWaitInternal L event events options timeout s)
      (EventPreempt.simKEventWaitInternal L event events options timeout s) := by
  have hprologue := prologue_takesArm (L := L) s events options timeout event
  exact (samePath_iff hprologue hprologue).mpr rfl

/-- The halves agree unless the wait reaches the test of its timeout with a
timeout that the tail half cuts down to zero. -/
theorem waits_agree_iff :
    WaitsAgree L events options timeout s ↔
      ¬ (events ≠ 0 ∧ simAreWaitConditionsMet events s.vars.simGuard (options &&& 1) = 0 ∧
        timeout.HighWordOnly) := by
  have hblock := halves_samePath_iff (L := L) s events options timeout rfl quickCompensation_log
  have hpreempt := halves_samePath_iff (L := L) s events options timeout rfl noCompensation_log
  constructor
  · intro h
    exact hblock.mp h.eventBlock
  · intro h
    exact ⟨hblock.mpr h, hpreempt.mpr h, tails_samePath s events options timeout,
      prologues_samePath L s events options timeout _⟩

end Copies

/-- A wait for event 1 with a timeout of 2^32 ticks, from boot: the tail half
does not wait, the prologue half pends. -/
theorem waits_not_agree :
    ¬ ∀ (events options : BitVec 32) (timeout : KTimeout),
      WaitsAgree IrqLock.priority events options timeout
        ((EventBlock.image Bmth.plain IrqLock.priority).boot (false, [])) := by
  intro h
  have hblock := (h 1 4 ⟨0x100000000⟩).eventBlock
  refine (halves_samePath_iff _ 1 4 ⟨0x100000000⟩ rfl quickCompensation_log).mp hblock ?_
  exact ⟨by decide, rfl, by decide, rfl⟩

end ZephyrBench.Sim

/-
ZephyrBench.Unsigned — constant expressions in unsigned arithmetic.

The expressions of C that a header builds from unsigned constants: each has the
value that the machine computes, modulo `2 ^ w`, and the value that it has over
the natural numbers. They are the same if no subexpression wraps
(`UExpr.eval_toNat`). A shift by the width or more is undefined in C, so it
counts as one that wraps.

`NoWrap` is asked of every subexpression and not only of the result: a product
may wrap and a later subtraction or shift bring the value back into range, and
an expression that is right by such an accident does not survive the next change
of a constant. `UExpr.Is e n` — `e` does not wrap and has the value `n` — is
what proofs work with. It has one rule for each operator, `Is.sub`, `Is.mul` and
`Is.shl`, whose side condition is the one under which that operator does not
wrap, so a proof follows the expression from the leaves up.
-/
import Mathlib.Algebra.Ring.Nat

namespace ZephyrBench

/-- An expression over unsigned words of `w` bits. -/
inductive UExpr (w : Nat)
  | lit (n : BitVec w)
  | sub (a b : UExpr w)
  | mul (a b : UExpr w)
  | shl (a b : UExpr w)
  deriving DecidableEq

namespace UExpr

variable {w : Nat} {a b : UExpr w} {m n : Nat}

/-- The value that the machine computes. -/
def eval : UExpr w → BitVec w
  | lit n => n
  | sub a b => a.eval - b.eval
  | mul a b => a.eval * b.eval
  | shl a b => a.eval <<< b.eval

/-- The value over the natural numbers. -/
def exact : UExpr w → Nat
  | lit n => n.toNat
  | sub a b => a.exact - b.exact
  | mul a b => a.exact * b.exact
  | shl a b => a.exact * 2 ^ b.exact

/-- Neither the expression nor a subexpression wraps. -/
def NoWrap : UExpr w → Prop
  | lit _ => True
  | sub a b => a.NoWrap ∧ b.NoWrap ∧ b.exact ≤ a.exact
  | mul a b => a.NoWrap ∧ b.NoWrap ∧ a.exact * b.exact < 2 ^ w
  | shl a b => a.NoWrap ∧ b.NoWrap ∧ b.exact < w ∧ a.exact * 2 ^ b.exact < 2 ^ w

theorem eval_toNat {e : UExpr w} (h : e.NoWrap) : e.eval.toNat = e.exact := by
  induction e with
  | lit n => rfl
  | sub a b iha ihb =>
    obtain ⟨ha, hb, hle⟩ := h
    have hle' : b.eval ≤ a.eval := by rw [BitVec.le_def, iha ha, ihb hb]; exact hle
    rw [eval, exact, BitVec.toNat_sub_of_le hle', iha ha, ihb hb]
  | mul a b iha ihb =>
    obtain ⟨ha, hb, hlt⟩ := h
    rw [eval, exact, BitVec.toNat_mul, iha ha, ihb hb, Nat.mod_eq_of_lt hlt]
  | shl a b iha ihb =>
    obtain ⟨ha, hb, -, hlt⟩ := h
    rw [eval, exact, BitVec.shiftLeft_eq', BitVec.toNat_shiftLeft, iha ha, ihb hb,
      Nat.shiftLeft_eq, Nat.mod_eq_of_lt hlt]

/-- `e` does not wrap, and its value is `n`. -/
structure Is (e : UExpr w) (n : Nat) : Prop where
  noWrap : e.NoWrap
  exact : e.exact = n

theorem Is.eval {e : UExpr w} (h : e.Is n) : e.eval.toNat = n := by
  rw [eval_toNat h.noWrap, h.exact]

theorem is_lit (n : BitVec w) : (lit n).Is n.toNat := ⟨trivial, rfl⟩

theorem Is.sub (ha : a.Is m) (hb : b.Is n) (h : n ≤ m) : (a.sub b).Is (m - n) := by
  refine ⟨⟨ha.noWrap, hb.noWrap, ?_⟩, ?_⟩
  · rw [ha.exact, hb.exact]
    exact h
  · rw [UExpr.exact, ha.exact, hb.exact]

theorem Is.mul (ha : a.Is m) (hb : b.Is n) (h : m * n < 2 ^ w) : (a.mul b).Is (m * n) := by
  refine ⟨⟨ha.noWrap, hb.noWrap, ?_⟩, ?_⟩
  · rw [ha.exact, hb.exact]
    exact h
  · rw [UExpr.exact, ha.exact, hb.exact]

theorem Is.shl (ha : a.Is m) (hb : b.Is n) (hn : n < w) (h : m * 2 ^ n < 2 ^ w) :
    (a.shl b).Is (m * 2 ^ n) := by
  refine ⟨⟨ha.noWrap, hb.noWrap, ?_⟩, ?_⟩
  · rw [ha.exact, hb.exact]
    exact ⟨hn, h⟩
  · rw [UExpr.exact, ha.exact, hb.exact]

end UExpr

end ZephyrBench

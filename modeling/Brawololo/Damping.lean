import Mathlib.Tactic

/-!
Integers that are damped by a fraction, with the quotient truncated towards
zero. What is damped keeps its sign and shrinks until it is zero, and what damps
out a limit damps out everything within it.
-/

namespace Brawololo.Damping

/-- `part` of every `whole` is left. -/
def damp (part whole : Nat) (speed : Int) : Int := (speed * part).tdiv whole

/-- `later` has the sign of `speed` or none, and is smaller unless both are zero. -/
structure Slower (speed later : Int) : Prop where
  nonneg : 0 ≤ speed → 0 ≤ later
  nonpos : speed ≤ 0 → later ≤ 0
  smaller : speed ≠ 0 → |later| < |speed|

section Fraction

variable (part whole : Nat)

@[simp] theorem damp_zero : damp part whole 0 = 0 := by
  simp [damp]

theorem damp_nonneg {speed : Int} (nonneg : 0 ≤ speed) : 0 ≤ damp part whole speed :=
  Int.tdiv_nonneg (Int.mul_nonneg nonneg (Int.natCast_nonneg part)) (Int.natCast_nonneg whole)

theorem damp_neg (speed : Int) : damp part whole (-speed) = -damp part whole speed := by
  unfold damp
  rw [Int.neg_mul, Int.neg_tdiv]

theorem damp_nonpos {speed : Int} (nonpos : speed ≤ 0) : damp part whole speed ≤ 0 := by
  have mirrored := damp_nonneg part whole (Int.neg_nonneg_of_nonpos nonpos)
  rw [damp_neg] at mirrored
  exact Int.nonpos_of_neg_nonneg mirrored

theorem damp_natAbs (speed : Int) :
    (damp part whole speed).natAbs = speed.natAbs * part / whole := by
  unfold damp
  rw [Int.natAbs_tdiv, Int.natAbs_mul]
  rfl

/-- The sizes of two speeds stay in their order. -/
theorem damp_natAbs_mono {speed faster : Int} (slower : speed.natAbs ≤ faster.natAbs) :
    (damp part whole speed).natAbs ≤ (damp part whole faster).natAbs := by
  rw [damp_natAbs, damp_natAbs]
  exact Nat.div_le_div_right (Nat.mul_le_mul_right part slower)

end Fraction

variable {part whole : Nat}

theorem damp_shrinks (proper : part < whole) {speed : Int} (moving : speed ≠ 0) :
    (damp part whole speed).natAbs < speed.natAbs := by
  have positive : 0 < speed.natAbs := Int.natAbs_pos.mpr moving
  rw [damp_natAbs]
  apply Nat.div_lt_of_lt_mul
  rw [Nat.mul_comm whole]
  exact Nat.mul_lt_mul_of_pos_left proper positive

theorem damp_slower (proper : part < whole) (speed : Int) :
    Slower speed (damp part whole speed) := by
  refine ⟨damp_nonneg part whole, damp_nonpos part whole, ?_⟩
  intro moving
  have shrinks := damp_shrinks proper moving
  rw [Int.abs_eq_natAbs, Int.abs_eq_natAbs]
  exact Int.ofNat_lt.mpr shrinks

/-! Turn after turn. -/

theorem damped_natAbs_mono (turns : Nat) {speed faster : Int}
    (slower : speed.natAbs ≤ faster.natAbs) :
    ((damp part whole)^[turns] speed).natAbs ≤ ((damp part whole)^[turns] faster).natAbs := by
  induction turns generalizing speed faster with
  | zero => exact slower
  | succ turns ih => exact ih (damp_natAbs_mono part whole slower)

theorem damped_zero (turns : Nat) : (damp part whole)^[turns] 0 = 0 := by
  induction turns with
  | zero => rfl
  | succ turns ih => rw [Function.iterate_succ_apply, damp_zero, ih]

/-- What damps out the limit damps out everything within it, and no later. -/
theorem damped_out_within {turns more : Nat} {limit speed : Int}
    (out : (damp part whole)^[turns] limit = 0) (within : speed.natAbs ≤ limit.natAbs)
    (enough : turns ≤ more) : (damp part whole)^[more] speed = 0 := by
  obtain ⟨rest, rfl⟩ := Nat.exists_eq_add_of_le enough
  have least : ((damp part whole)^[turns] speed).natAbs ≤ ((damp part whole)^[turns] limit).natAbs :=
    damped_natAbs_mono turns within
  rw [out, Int.natAbs_zero] at least
  rw [Nat.add_comm, Function.iterate_add_apply, Int.natAbs_eq_zero.mp (Nat.le_zero.mp least),
    damped_zero]

-- Rounding down would leave a speed of -1 as it is.
example : damp 72 100 (-1) = 0 ∧ (-1 * 72 : Int).fdiv 100 = -1 := by decide

end Brawololo.Damping

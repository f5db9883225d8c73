import Mathlib.Algebra.Order.Field.Power
import Mathlib.Algebra.Order.Field.Rat
import Mathlib.Tactic.Positivity
import Retrace.Number.Binary64

/-!
# Equality of doubles

Two finite doubles are equal if they stand for the same rational number, however
they are scaled. So equality of doubles is symmetric and transitive; it is not
reflexive, since what is no number equals nothing.
-/

namespace Retrace.Binary64

variable {x y z : Binary64} {a b : Bool} {s t : Nat} {e f : Int}

/-- The number that a finite double stands for. -/
def rational (negative : Bool) (significand : Nat) (exponent : Int) : ℚ :=
  (if negative then -1 else 1) * (significand * 2 ^ exponent)

/-- A significand can be scaled to any smaller exponent. -/
theorem scaled_mul {m : Int} (least : m ≤ e) (s : Nat) :
    ((s * twoTo (e - m).toNat : Nat) : ℚ) * 2 ^ m = s * 2 ^ e := by
  have exponent : ((e - m).toNat : Int) = e - m := Int.toNat_of_nonneg (by omega)
  have power : ((twoTo (e - m).toNat : Nat) : ℚ) = 2 ^ (e - m) := by
    rw [← exponent, zpow_natCast]
    exact Nat.cast_pow 2 _
  rw [Nat.cast_mul, power, mul_assoc, ← zpow_add₀ two_ne_zero, sub_add_cancel]

/-- Scaled to one exponent, magnitudes are equal if their significands are. -/
theorem scaled_eq_iff :
    s * twoTo (e - min e f).toNat = t * twoTo (f - min e f).toNat ↔
      (s : ℚ) * 2 ^ e = t * 2 ^ f := by
  have power : (2 : ℚ) ^ min e f ≠ 0 := zpow_ne_zero _ two_ne_zero
  rw [← scaled_mul (min_le_left e f) s, ← scaled_mul (min_le_right e f) t, mul_left_inj' power,
    Nat.cast_inj]

theorem magnitude_eq_zero_iff : (s : ℚ) * 2 ^ e = 0 ↔ s = 0 := by
  rw [mul_eq_zero_iff_right (zpow_ne_zero _ two_ne_zero), Nat.cast_eq_zero]

/-- Finite doubles are equal if they stand for the same number. -/
theorem numEq_finite_iff :
    (finite a s e).numEq (finite b t f) = true ↔ rational a s e = rational b t f := by
  have first : (0 : ℚ) ≤ s * 2 ^ e := by positivity
  have second : (0 : ℚ) ≤ t * 2 ^ f := by positivity
  have zero : s = 0 ↔ (s : ℚ) * 2 ^ e = 0 := magnitude_eq_zero_iff.symm
  simp only [numEq, Bool.and_eq_true, Bool.or_eq_true, beq_iff_eq, scaled_eq_iff, rational, zero]
  -- Numbers of different signs are equal if both are zero.
  cases a <;> cases b <;> simp <;> grind

theorem numEq_comm (x y : Binary64) : x.numEq y = y.numEq x := by
  cases x with
  | finite a s e =>
    cases y with
    | finite b t f => rw [Bool.eq_iff_iff, numEq_finite_iff, numEq_finite_iff, eq_comm]
    | _ => rfl
  | infinite a =>
    cases y with
    | infinite b => exact Bool.beq_comm
    | _ => rfl
  | nan => cases y <;> rfl

theorem numEq_trans (first : x.numEq y = true) (second : y.numEq z = true) : x.numEq z = true := by
  cases x with
  | finite a s e =>
    cases y with
    | finite b t f =>
      cases z with
      | finite c u g =>
        rw [numEq_finite_iff] at first second ⊢
        exact first.trans second
      | _ => cases second
    | _ => cases first
  | infinite a =>
    cases y with
    | infinite b =>
      cases z with
      | infinite c =>
        simp only [numEq, beq_iff_eq] at first second ⊢
        exact first.trans second
      | _ => cases second
    | _ => cases first
  | nan => cases first

end Retrace.Binary64

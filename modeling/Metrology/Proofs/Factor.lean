import Mathlib.Algebra.Field.Rat
import Mathlib.Data.Option.NAry
import Mathlib.Data.Rat.Cast.CharZero
import Mathlib.Data.Rat.Cast.Lemmas
import Mathlib.Tactic.Positivity
import Metrology.Unit.Conversion

namespace Metrology

/-- A fraction near the circle constant, for exact calculations with concrete numbers. -/
instance : HasPi ℚ := ⟨355 / 113⟩

theorem rational_pi_pos : (0 : ℚ) < HasPi.pi := by
  change (0 : ℚ) < 355 / 113
  norm_num

namespace Factor

def isNonzero : Factor → Bool
  | decimal mantissa _ _ => mantissa != 0
  | pi => true
  | mul a b => a.isNonzero && b.isNonzero
  | div a b => a.isNonzero && b.isNonzero

def rational? : Factor → Option ℚ
  | decimal mantissa negativeExponent exponent =>
    some (OfScientific.ofScientific mantissa negativeExponent exponent)
  | pi => none
  | mul a b => Option.map₂ (· * ·) a.rational? b.rational?
  | div a b => Option.map₂ (· / ·) a.rational? b.rational?

variable {α : Type} [Field α] [CharZero α]

theorem decimal_ne_zero {mantissa : Nat} (nonzero : mantissa ≠ 0) (negative : Bool) (exponent : Nat) :
    (OfScientific.ofScientific mantissa negative exponent : α) ≠ 0 := by
  have power : (10 : ℕ) ^ exponent ≠ 0 := by positivity
  rw [NNRatCast.ofScientific_eq_ite]
  cases negative
  · simpa using nonzero
  · rw [if_pos rfl, NNRat.cast_ne_zero, NNRat.divNat_eq_div]
    exact div_ne_zero (by exact_mod_cast nonzero) (by exact_mod_cast power)

variable [HasPi α]

omit [CharZero α] in
theorem eval_one : (Factor.eval 1 : α) = 1 := by
  change (OfScientific.ofScientific 1 false 0 : α) = 1
  rw [NNRatCast.ofScientific_eq_ite]
  simp

omit [CharZero α] in
theorem mul_eval_one (x : α) : x * eval 1 = x := by
  rw [eval_one, mul_one]

omit [CharZero α] in
theorem div_eval_one (x : α) : x / eval 1 = x := by
  rw [eval_one, div_one]

theorem eval_ne_zero (pi_ne_zero : (HasPi.pi : α) ≠ 0) {factor : Factor}
    (nonzero : factor.isNonzero = true) : (factor.eval : α) ≠ 0 := by
  induction factor with
  | decimal mantissa negative exponent =>
      exact decimal_ne_zero (by simpa [isNonzero] using nonzero) negative exponent
  | pi => exact pi_ne_zero
  | mul a b iha ihb =>
      simp only [isNonzero, Bool.and_eq_true] at nonzero
      exact mul_ne_zero (iha nonzero.1) (ihb nonzero.2)
  | div a b iha ihb =>
      simp only [isNonzero, Bool.and_eq_true] at nonzero
      exact div_ne_zero (iha nonzero.1) (ihb nonzero.2)

theorem eval_eq_rational {factor : Factor} {q : ℚ} (known : factor.rational? = some q) :
    (factor.eval : α) = q := by
  induction factor generalizing q with
  | decimal mantissa negative exponent =>
      cases known
      exact (Rat.cast_ofScientific mantissa negative exponent).symm
  | pi => cases known
  | mul a b iha ihb =>
      obtain ⟨x, y, hx, hy, rfl⟩ := Option.map₂_eq_some_iff.mp known
      rw [eval, iha hx, ihb hy, Rat.cast_mul]
  | div a b iha ihb =>
      obtain ⟨x, y, hx, hy, rfl⟩ := Option.map₂_eq_some_iff.mp known
      rw [eval, iha hx, ihb hy, Rat.cast_div]

end Factor

end Metrology

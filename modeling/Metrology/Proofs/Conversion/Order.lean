import Mathlib.Data.Rat.Cast.Order
import Metrology.Proofs.Conversion.Slope

/-!
Exact conversions keep the order: every factor is positive, so that every unit is a rising line.
-/

namespace Metrology

variable {α : Type} [Field α] [LinearOrder α] [IsStrictOrderedRing α] [HasPi α]

namespace Factor

theorem eval_pos (pi_pos : (0 : α) < HasPi.pi) {factor : Factor} (nonzero : factor.isNonzero = true) :
    (0 : α) < factor.eval := by
  induction factor with
  | decimal mantissa negative exponent =>
      have apart : (OfScientific.ofScientific mantissa negative exponent : α) ≠ 0 :=
        decimal_ne_zero (by simpa [isNonzero] using nonzero) negative exponent
      change (0 : α) < OfScientific.ofScientific mantissa negative exponent
      rw [NNRatCast.ofScientific_eq_ite] at apart ⊢
      exact NNRat.cast_pos.mpr (pos_iff_ne_zero.mpr (NNRat.cast_ne_zero.mp apart))
  | pi => exact pi_pos
  | mul a b iha ihb =>
      simp only [isNonzero, Bool.and_eq_true] at nonzero
      exact mul_pos (iha nonzero.1) (ihb nonzero.2)
  | div a b iha ihb =>
      simp only [isNonzero, Bool.and_eq_true] at nonzero
      exact div_pos (iha nonzero.1) (ihb nonzero.2)

end Factor

namespace Step

theorem slope_pos (pi_pos : (0 : α) < HasPi.pi) {step : Step} (invertible : step.isInvertible = true) :
    (0 : α) < step.slope := by
  cases step with
  | add amount => exact one_pos
  | sub amount => exact one_pos
  | mul factor => exact Factor.eval_pos pi_pos invertible
  | div divisor => exact one_div_pos.mpr (Factor.eval_pos pi_pos invertible)

theorem slopeAll_pos (pi_pos : (0 : α) < HasPi.pi) {steps : List Step}
    (invertible : ∀ step ∈ steps, step.isInvertible = true) : (0 : α) < slopeAll steps := by
  induction steps with
  | nil => simp [slopeAll]
  | cons step steps ih =>
      have rest := ih fun next member => invertible next (List.mem_cons_of_mem _ member)
      rw [slopeAll, List.map_cons, List.prod_cons]
      exact mul_pos (slope_pos pi_pos (invertible step List.mem_cons_self)) rest

end Step

namespace Family.Unit

variable {f : Family}

theorem slope_pos (pi_pos : (0 : α) < HasPi.pi) (u : f.Unit) : (0 : α) < u.slope := by
  have invertible := u.row_isInvertible
  simp only [Conversion.isInvertible, Bool.and_eq_true, List.all_eq_true] at invertible
  exact Step.slopeAll_pos pi_pos invertible.2

theorem strictMono_toStandard (pi_pos : (0 : α) < HasPi.pi) (u : f.Unit) :
    StrictMono (u.toStandard : α → α) := by
  intro x y less
  rw [← sub_pos, toStandard_sub_toStandard]
  exact mul_pos (sub_pos.mpr less) (u.slope_pos pi_pos)

theorem strictMono_fromStandard (pi_pos : (0 : α) < HasPi.pi) (u : f.Unit) :
    StrictMono (u.fromStandard : α → α) := by
  intro x y less
  rw [← sub_pos, fromStandard_sub_fromStandard]
  exact div_pos (sub_pos.mpr less) (u.slope_pos pi_pos)

end Family.Unit

end Metrology

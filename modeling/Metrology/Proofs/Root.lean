import Mathlib.Analysis.Real.Sqrt
import Mathlib.Analysis.SpecialFunctions.Trigonometric.Basic
import Metrology.Container.Vector
import Metrology.Unit.Factor

namespace Metrology

noncomputable instance : HasPi ℝ := ⟨Real.pi⟩

noncomputable instance : HasSqrt ℝ := ⟨Real.sqrt⟩

/-- Number types in which the square root of a number from zero on is its exact root from zero on. -/
structure HasSqrt.IsExact (α : Type) [Field α] [LinearOrder α] [HasSqrt α] : Prop where
  nonneg : ∀ x : α, 0 ≤ x → 0 ≤ sqrt x
  square : ∀ x : α, 0 ≤ x → sqrt x * sqrt x = x

theorem HasSqrt.isExact_real : IsExact ℝ where
  nonneg x _ := Real.sqrt_nonneg x
  square _ nonneg := Real.mul_self_sqrt nonneg

namespace HasSqrt.IsExact

variable {α : Type} [Field α] [LinearOrder α] [IsStrictOrderedRing α] [HasSqrt α]

theorem sqrt_mul_self (exact : IsExact α) {x : α} (nonneg : 0 ≤ x) : sqrt (x * x) = x := by
  have square := exact.square (x * x) (mul_self_nonneg x)
  exact (mul_self_inj_of_nonneg (exact.nonneg _ (mul_self_nonneg x)) nonneg).mp square

theorem sqrt_div_mul_self (exact : IsExact α) {x divisor : α} (nonneg : 0 ≤ x) (positive : 0 < divisor) :
    sqrt (x / (divisor * divisor)) = sqrt x / divisor := by
  have root : 0 ≤ sqrt x / divisor := div_nonneg (exact.nonneg x nonneg) positive.le
  calc sqrt (x / (divisor * divisor))
      = sqrt (sqrt x / divisor * (sqrt x / divisor)) := by
        rw [div_mul_div_comm, exact.square x nonneg]
    _ = sqrt x / divisor := exact.sqrt_mul_self root

end HasSqrt.IsExact

end Metrology

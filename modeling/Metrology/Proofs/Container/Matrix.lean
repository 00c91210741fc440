import Mathlib
import Metrology.Container.Dyad
import Metrology.Proofs.Measurement.Arithmetic

/-!
Tensors as matrices of three rows and columns: product, transpose, determinant and cofactors of a tensor are
those of its matrix, so that the algebra of matrices holds for tensors.
-/

namespace Metrology

theorem Container.one_literal {α : Type} [Field α] : (1.0 : α) = 1 := by
  rw [NNRatCast.ofScientific_eq_ite]
  simp [NNRat.divNat_eq_div]

namespace Dyad

variable {α : Type}

def toMatrix (d : Dyad α) : Matrix (Fin 3) (Fin 3) α :=
  !![d.xx, d.xy, d.xz; d.yx, d.yy, d.yz; d.zx, d.zy, d.zz]

theorem toMatrix_injective : Function.Injective (toMatrix (α := α)) := by
  intro d e same
  have entry (i j : Fin 3) : d.toMatrix i j = e.toMatrix i j := by rw [same]
  cases d
  cases e
  rw [mk.injEq]
  exact ⟨entry 0 0, entry 0 1, entry 0 2, entry 1 0, entry 1 1, entry 1 2, entry 2 0, entry 2 1, entry 2 2⟩

theorem toMatrix_transpose (d : Dyad α) : d.transpose.toMatrix = d.toMatrix.transpose := by
  ext i j
  fin_cases i <;> fin_cases j <;> rfl

variable [Field α]

theorem toMatrix_identity : (identity : Dyad α).toMatrix = 1 := by
  ext i j
  fin_cases i <;> fin_cases j <;> simp [toMatrix, identity, Container.one_literal, Container.zero_literal]

theorem toMatrix_compose (d e : Dyad α) : (d.compose e).toMatrix = d.toMatrix * e.toMatrix := by
  ext i j
  rw [Matrix.mul_apply, Fin.sum_univ_three]
  fin_cases i <;> fin_cases j <;> rfl

theorem toMatrix_shrink (d : Dyad α) (divisor : α) : (d.shrink divisor).toMatrix = divisor⁻¹ • d.toMatrix := by
  ext i j
  fin_cases i <;> fin_cases j <;> exact div_eq_inv_mul _ _

theorem det_toMatrix (d : Dyad α) : d.toMatrix.det = d.determinant := by
  have expanded : d.toMatrix.det = d.xx * d.yy * d.zz - d.xx * d.yz * d.zy - d.xy * d.yx * d.zz +
      d.xy * d.yz * d.zx + d.xz * d.yx * d.zy - d.xz * d.yy * d.zx := Matrix.det_fin_three _
  rw [expanded, determinant, minors]
  ring

theorem adjugate_toMatrix (d : Dyad α) : d.toMatrix.adjugate = d.adjugate.toMatrix := by
  rw [Matrix.adjugate_fin_three]
  ext i j
  fin_cases i <;> fin_cases j <;> simp [toMatrix, adjugate, minors] <;> ring

theorem determinant_compose (d e : Dyad α) : (d.compose e).determinant = d.determinant * e.determinant := by
  rw [← det_toMatrix, toMatrix_compose, Matrix.det_mul, det_toMatrix, det_toMatrix]

end Dyad

end Metrology

import Mathlib
import Metrology.Proofs.Container.Matrix
import Metrology.Proofs.Measurement.Geometry

namespace Metrology

namespace SymmetricDyad

variable {α : Type} [Field α]

theorem vonMisesSquared_congr {s t : SymmetricDyad α} (same : s.deviatoric = t.deviatoric) :
    s.vonMisesSquared = t.vonMisesSquared := by
  rw [vonMisesSquared, vonMisesSquared, same]

theorem deviatoric_eq [CharZero α] (s : SymmetricDyad α) :
    s.deviatoric = ⟨s.xx - s.trace / 3, s.xy, s.xz, s.yy - s.trace / 3, s.yz, s.zz - s.trace / 3⟩ := by
  have diagonal (a : α) : a - 1.0 * (s.trace / 3.0) = a - s.trace / 3 := by norm_num
  have other (a : α) : a - 0.0 * (s.trace / 3.0) = a := by rw [Container.zero_literal, zero_mul, sub_zero]
  change mk (_ - 1.0 * _) (_ - 0.0 * _) (_ - 0.0 * _) (_ - 1.0 * _) (_ - 0.0 * _) (_ - 1.0 * _) = _
  simp only [diagonal, other]

theorem scale_identity (c : α) : (identity : SymmetricDyad α).scale c = ⟨c, 0, 0, c, 0, c⟩ := by
  simp [identity, scale, map, Container.one_literal, Container.zero_literal]

theorem sub_scale_neg (s : SymmetricDyad α) (c : α) : s - identity.scale (-c) = s + identity.scale c := by
  rw [scale_identity, scale_identity]
  change mk (_ - -c) (_ - 0) (_ - 0) (_ - -c) (_ - 0) (_ - -c) =
    mk (_ + c) (_ + 0) (_ + 0) (_ + c) (_ + 0) (_ + c)
  simp only [sub_neg_eq_add, sub_zero, add_zero]

theorem trace_add_isotropic (s : SymmetricDyad α) (c : α) : (s + identity.scale c).trace = s.trace + 3 * c := by
  rw [scale_identity]
  change s.xx + c + (s.yy + c) + (s.zz + c) = s.xx + s.yy + s.zz + 3 * c
  ring

variable [CharZero α]

theorem trace_deviatoric (s : SymmetricDyad α) : s.deviatoric.trace = 0 := by
  rw [deviatoric_eq, trace, trace]
  ring

theorem deviatoric_add_isotropic (s : SymmetricDyad α) (c : α) :
    (s + identity.scale c).deviatoric = s.deviatoric := by
  have diagonal (a : α) : a + c - (s.trace + 3 * c) / 3 = a - s.trace / 3 := by ring
  rw [deviatoric_eq, trace_add_isotropic, deviatoric_eq, scale_identity]
  change mk (s.xx + c - _) (s.xy + 0) (s.xz + 0) (s.yy + c - _) (s.yz + 0) (s.zz + c - _) = _
  simp only [diagonal, add_zero]

theorem deviatoric_add_mean (s : SymmetricDyad α) : s.deviatoric + identity.scale (s.trace / 3) = s := by
  rw [deviatoric_eq, scale_identity]
  change mk (_ - _ + _) (s.xy + 0) (s.xz + 0) (_ - _ + _) (s.yz + 0) (_ - _ + _) = s
  simp only [sub_add_cancel, add_zero]

theorem deviatoric_deviatoric (s : SymmetricDyad α) : s.deviatoric.deviatoric = s.deviatoric := by
  rw [← deviatoric_add_isotropic s.deviatoric (s.trace / 3), deviatoric_add_mean]

/-- The differences of the normal components, and the shear components six times. -/
theorem vonMisesSquared_eq (s : SymmetricDyad α) :
    s.vonMisesSquared = ((s.xx - s.yy) ^ 2 + (s.yy - s.zz) ^ 2 + (s.zz - s.xx) ^ 2) / 2 +
      3 * (s.xy ^ 2 + s.xz ^ 2 + s.yz ^ 2) := by
  rw [vonMisesSquared, deviatoric_eq, trace]
  norm_num
  ring

theorem vonMisesSquared_neg (s : SymmetricDyad α) : (-s).vonMisesSquared = s.vonMisesSquared := by
  rw [vonMisesSquared_eq, vonMisesSquared_eq]
  change ((-s.xx - -s.yy) ^ 2 + (-s.yy - -s.zz) ^ 2 + (-s.zz - -s.xx) ^ 2) / 2 +
    3 * ((-s.xy) ^ 2 + (-s.xz) ^ 2 + (-s.yz) ^ 2) = _
  ring

omit [CharZero α]

variable [LinearOrder α] [IsStrictOrderedRing α]

theorem eq_zero_of_sum_sq {a b c : α} (zero : a ^ 2 + b ^ 2 + c ^ 2 = 0) : a = 0 ∧ b = 0 ∧ c = 0 := by
  have first := sq_nonneg a
  have second := sq_nonneg b
  have third := sq_nonneg c
  refine ⟨?_, ?_, ?_⟩ <;> rw [← pow_eq_zero_iff two_ne_zero] <;> linarith

theorem vonMisesSquared_eq_zero_iff (s : SymmetricDyad α) :
    s.vonMisesSquared = 0 ↔ ∃ c, s = identity.scale c := by
  constructor
  · intro zero
    rw [vonMisesSquared_eq] at zero
    have normal : 0 ≤ (s.xx - s.yy) ^ 2 + (s.yy - s.zz) ^ 2 + (s.zz - s.xx) ^ 2 := by positivity
    have shear : 0 ≤ s.xy ^ 2 + s.xz ^ 2 + s.yz ^ 2 := by positivity
    have normal_zero : (s.xx - s.yy) ^ 2 + (s.yy - s.zz) ^ 2 + (s.zz - s.xx) ^ 2 = 0 := by linarith
    have shear_zero : s.xy ^ 2 + s.xz ^ 2 + s.yz ^ 2 = 0 := by linarith
    obtain ⟨first, second, -⟩ := eq_zero_of_sum_sq normal_zero
    obtain ⟨xy, xz, yz⟩ := eq_zero_of_sum_sq shear_zero
    refine ⟨s.xx, ?_⟩
    rw [scale_identity]
    calc s = ⟨s.xx, s.xy, s.xz, s.yy, s.yz, s.zz⟩ := rfl
      _ = ⟨s.xx, 0, 0, s.xx, 0, s.xx⟩ := by
        rw [xy, xz, yz, ← sub_eq_zero.mp second, ← sub_eq_zero.mp first]
  · rintro ⟨c, rfl⟩
    rw [scale_identity, vonMisesSquared_eq]
    ring

end SymmetricDyad

theorem Quantity.deviatoric_sub_pressure {α : Type} [Field α] [CharZero α]
    (stress : Quantity (.symmetricDyad .stress) α) :
    stress.value.toSymmetricDyad.deviatoric - SymmetricDyad.identity.scale stress.hydrostaticPressure.number =
      stress.value.toSymmetricDyad := by
  have pressure : stress.hydrostaticPressure.number = -(stress.value.toSymmetricDyad.trace / 3) := by
    change -stress.value.toSymmetricDyad.trace / 3.0 = _
    norm_num
    ring
  rw [pressure, SymmetricDyad.sub_scale_neg, SymmetricDyad.deviatoric_add_mean]

/-- A stress is split into a deviator without trace and an isotropic part, which is minus the pressure. The
equivalent stress is the root of a number that is never negative, vanishes for isotropic stresses only, and
depends neither on the isotropic part nor on the sign. -/
theorem stress_invariants {α : Type} [Field α] [LinearOrder α] [IsStrictOrderedRing α] [HasSqrt α] :
    (∀ (s : SymmetricDyad α) (c : α),
      s.deviatoric.trace = 0 ∧
      s.deviatoric.deviatoric = s.deviatoric ∧
      (s + .scale .identity c).deviatoric = s.deviatoric ∧
      s = s.deviatoric + .scale .identity (s.trace / 3)) ∧
    (∀ stress : Quantity (.symmetricDyad .stress) α,
      stress.value = .symmetricDyad
        (stress.value.toSymmetricDyad.deviatoric - .scale .identity stress.hydrostaticPressure.number)) ∧
    ∀ (s : SymmetricDyad α) (c : α),
      s.vonMises = HasSqrt.sqrt s.vonMisesSquared ∧
      0 ≤ s.vonMisesSquared ∧
      s.vonMisesSquared = ((s.xx - s.yy) ^ 2 + (s.yy - s.zz) ^ 2 + (s.zz - s.xx) ^ 2) / 2 +
        3 * (s.xy ^ 2 + s.xz ^ 2 + s.yz ^ 2) ∧
      (s.vonMisesSquared = 0 ↔ ∃ m, s = .scale .identity m) ∧
      (s + .scale .identity c).vonMisesSquared = s.vonMisesSquared ∧
      (-s).vonMisesSquared = s.vonMisesSquared := by
  refine ⟨fun s c => ?_, fun stress => ?_, fun s c => ?_⟩
  · exact ⟨s.trace_deviatoric, s.deviatoric_deviatoric, s.deviatoric_add_isotropic c,
      s.deviatoric_add_mean.symm⟩
  · rw [Quantity.deviatoric_sub_pressure]
    cases stress.value
    rfl
  · exact ⟨rfl, s.vonMisesSquared_nonneg, s.vonMisesSquared_eq, s.vonMisesSquared_eq_zero_iff,
      SymmetricDyad.vonMisesSquared_congr (s.deviatoric_add_isotropic c), s.vonMisesSquared_neg⟩

theorem stress_invariants_shear :
    IsStrictOrderedRing ℝ ∧
    (⟨10, 2, 0, 5, 0, 1⟩ : SymmetricDyad ℝ).vonMisesSquared = 73 ∧
    (⟨10, 2, 0, 5, 0, 1⟩ + SymmetricDyad.scale .identity (-7) : SymmetricDyad ℝ).vonMisesSquared = 73 := by
  obtain ⟨-, -, equivalent⟩ := stress_invariants (α := ℝ)
  obtain ⟨-, -, formula, -, shifted, -⟩ := equivalent ⟨10, 2, 0, 5, 0, 1⟩ (-7)
  refine ⟨inferInstance, ?_, ?_⟩
  · rw [formula]
    norm_num
  · rw [shifted, formula]
    norm_num

end Metrology

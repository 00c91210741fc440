import Metrology.Calculator.Method
import Metrology.Proofs.Container.Product

/-!
Directions in exact arithmetic have length one, apart from the zero vector, however they come about, and a vector
quantity is its direction scaled by its magnitude.

Negation keeps its operand's length and all else is normalized, so the invariant is kept operation by operation.
-/

namespace Metrology

namespace Vector3

variable {α : Type}

def unit [OfScientific α] : Axis → Vector3 α
  | .x => ⟨1.0, 0.0, 0.0⟩
  | .y => ⟨0.0, 1.0, 0.0⟩
  | .z => ⟨0.0, 0.0, 1.0⟩

variable [Field α]

/-- Whether one vector is a multiple of the other, and this one of the first. -/
def IsParallel (a b : Vector3 α) : Prop := ∃ c, c ≠ 0 ∧ b = a.scale c

theorem scale_eq (a : Vector3 α) (c : α) : a.scale c = ⟨a.x * c, a.y * c, a.z * c⟩ := rfl

theorem shrink_eq (a : Vector3 α) (c : α) : a.shrink c = ⟨a.x / c, a.y / c, a.z / c⟩ := rfl

theorem scale_eq_shrink_inv (a : Vector3 α) (c : α) : a.scale c = a.shrink c⁻¹ := by
  simp only [scale_eq, shrink_eq, div_inv_eq_mul]

theorem scale_zero (a : Vector3 α) : a.scale 0 = zero := by
  simp only [scale_eq, zero_eq, mul_zero]

theorem zero_scale (c : α) : (zero : Vector3 α).scale c = zero := by
  simp only [scale_eq, zero_eq, zero_mul]

theorem scale_shrink {c : α} (nonzero : c ≠ 0) (a : Vector3 α) : (a.shrink c).scale c = a := by
  simp only [scale_eq, shrink_eq, div_mul_cancel₀ _ nonzero]

theorem neg_of_zero : -(zero : Vector3 α) = zero := by
  simp only [neg_eq, zero_eq, neg_zero]

theorem zero_dot (a : Vector3 α) : zero.dot a = 0 := by
  simp only [dot, zero_eq, zero_mul, add_zero]

theorem shrink_dot (a b : Vector3 α) (c : α) : (a.shrink c).dot b = a.dot b / c := by
  simp only [dot, shrink_eq]
  ring

theorem cross_zero (a : Vector3 α) : a.cross zero = zero := by
  simp [cross, zero_eq]

theorem cross_scale_self (a : Vector3 α) (c : α) : a.cross (a.scale c) = zero := by
  simp only [cross, scale_eq, zero_eq]
  congr 1 <;> ring

/-- The cross product vanishes on a line only. -/
theorem cross_eq_zero_iff [LinearOrder α] [IsStrictOrderedRing α] (a b : Vector3 α) :
    a.cross b = zero ↔ a.IsParallel b ∨ a = zero ∨ b = zero := by
  constructor
  · intro flat
    by_cases left : a = zero
    · exact .inr (.inl left)
    by_cases right : b = zero
    · exact .inr (.inr right)
    have square : a.dot a ≠ 0 := mt a.magnitudeSquared_eq_zero_iff.mp left
    -- The double cross product is zero as well, which leaves two multiples of `a` and `b` that are equal.
    have plane : a.scale (a.dot b) - b.scale (a.dot a) = zero := by rw [← cross_cross, flat, cross_zero]
    have line : b = a.scale (a.dot b / a.dot a) := by
      simp only [sub_eq, scale_eq, zero_eq, mk.injEq, sub_eq_zero] at plane
      obtain ⟨x, y, z⟩ := plane
      calc b = ⟨b.x, b.y, b.z⟩ := rfl
        _ = a.scale (a.dot b / a.dot a) := by
          simp only [scale_eq, mul_div_assoc', x, y, z, mul_div_cancel_right₀ _ square]
    refine .inl ⟨a.dot b / a.dot a, ?_, line⟩
    intro none
    rw [none, scale_zero] at line
    exact right line
  · rintro (⟨c, -, rfl⟩ | rfl | rfl)
    · exact a.cross_scale_self c
    · simp [cross, zero_eq]
    · exact a.cross_zero

variable [LinearOrder α] [IsStrictOrderedRing α] [HasSqrt α]

theorem normalized_zero (exact : HasSqrt.IsExact α) : (zero : Vector3 α).normalized = zero := by
  rw [normalized, (magnitude_eq_zero_iff exact zero).mpr rfl, Container.zero_literal, beq_self_eq_true, if_pos rfl]

theorem normalized_eq_shrink (exact : HasSqrt.IsExact α) {v : Vector3 α} (nonzero : v ≠ zero) :
    v.normalized = v.shrink v.magnitude := by
  rw [normalized, Container.zero_literal, beq_false_of_ne (mt (magnitude_eq_zero_iff exact v).mp nonzero)]
  rfl

theorem magnitudeSquared_normalized (exact : HasSqrt.IsExact α) {v : Vector3 α} (nonzero : v ≠ zero) :
    v.normalized.magnitudeSquared = 1 := by
  have square : v.dot v ≠ 0 := mt v.magnitudeSquared_eq_zero_iff.mp nonzero
  rw [normalized_eq_shrink exact nonzero, magnitudeSquared, dot_shrink, magnitude_mul_self exact]
  exact div_self square

theorem normalized_eq_zero_iff (exact : HasSqrt.IsExact α) (v : Vector3 α) : v.normalized = zero ↔ v = zero := by
  constructor
  · intro vanishes
    by_contra nonzero
    have one := magnitudeSquared_normalized exact nonzero
    rw [vanishes, (magnitudeSquared_eq_zero_iff zero).mpr rfl] at one
    exact zero_ne_one one
  · rintro rfl
    exact normalized_zero exact

theorem normalized_of_unit (exact : HasSqrt.IsExact α) {v : Vector3 α} (unit : v.magnitudeSquared = 1) :
    v.normalized = v := by
  have nonzero : v ≠ zero := by
    rw [ne_eq, ← magnitudeSquared_eq_zero_iff, unit]
    exact one_ne_zero
  have length : v.magnitude = 1 := magnitude_eq_of_square exact zero_le_one (unit.trans (mul_one 1).symm)
  rw [normalized_eq_shrink exact nonzero, length, shrink_eq]
  simp only [div_one]

theorem normalized_scale (exact : HasSqrt.IsExact α) {c : α} (positive : 0 < c) (v : Vector3 α) :
    (v.scale c).normalized = v.normalized := by
  rw [scale_eq_shrink_inv]
  exact normalized_shrink exact (inv_pos.mpr positive) v

theorem normalized_dot (exact : HasSqrt.IsExact α) {v w : Vector3 α} (orthogonal : v.dot w = 0) :
    v.normalized.dot w = 0 := by
  by_cases flat : v = zero
  · rw [flat, normalized_zero exact, zero_dot]
  · rw [normalized_eq_shrink exact flat, shrink_dot, orthogonal, zero_div]

theorem scale_normalized (exact : HasSqrt.IsExact α) (v : Vector3 α) : v.normalized.scale v.magnitude = v := by
  by_cases flat : v = zero
  · rw [flat, normalized_zero exact, zero_scale]
  · rw [normalized_eq_shrink exact flat, scale_shrink (mt (magnitude_eq_zero_iff exact v).mp flat)]

end Vector3

/-- A direction as the operations that it is the result of. -/
inductive Direction (α : Type) where
  | ofComponents (x y z : α)
  | ofVector (v : Vector3 α)
  | zero
  | axis (a : Axis)
  | neg (d : Direction α)
  | cross (a b : Direction α)

namespace Direction

section

variable {α : Type} [Add α] [Sub α] [Mul α] [Div α] [Neg α] [OfScientific α] [HasSqrt α] [BEq α]

def vector : Direction α → Vector3 α
  | ofComponents x y z => (Vector3.mk x y z).normalized
  | ofVector v => v.normalized
  | zero => .zero
  | axis a => .unit a
  | neg d => -d.vector
  | cross a b => (a.vector.cross b.vector).normalized

def value (d : Direction α) : Value α := ⟨.direction, .vector d.vector⟩

theorem value_made (x y z : α) (v : Vector3 α) (d : Direction α) :
    Value.make .direction (.vector ⟨x, y, z⟩) = (ofComponents x y z).value ∧
      Value.ofDirection v = (ofVector v).value ∧ Value.zero .direction = (zero : Direction α).value ∧
      d.value.neg? = some d.neg.value :=
  ⟨rfl, rfl, rfl, rfl⟩

end

theorem value_called (a b : Direction Float) (k : VectorKind) (v : Vector3 Float) :
    Calculator.call a.value (.cross b.value) = .ok (.value (a.cross b).value) ∧
      Calculator.call ⟨.measured (.vector k), .vector v⟩ .direction = .ok (.value (ofVector v).value) :=
  ⟨rfl, rfl⟩

variable {α : Type} [Field α]

def IsUnitOrZero (v : Vector3 α) : Prop := v.magnitudeSquared = 1 ∨ v = .zero

theorem isUnitOrZero_neg {v : Vector3 α} (inside : IsUnitOrZero v) : IsUnitOrZero (-v) := by
  rcases inside with unit | rfl
  · left
    rw [← unit]
    simp only [Vector3.neg_eq, Vector3.magnitudeSquared, Vector3.dot, neg_mul_neg]
  · exact .inr Vector3.neg_of_zero

theorem isUnitOrZero_unit (axis : Axis) : IsUnitOrZero (.unit axis : Vector3 α) := by
  left
  cases axis <;>
    simp [Vector3.unit, Vector3.magnitudeSquared, Vector3.dot, Container.zero_literal, Container.one_literal]

variable [LinearOrder α] [IsStrictOrderedRing α] [HasSqrt α]

theorem isUnitOrZero_normalized (exact : HasSqrt.IsExact α) (v : Vector3 α) : IsUnitOrZero v.normalized := by
  by_cases flat : v = .zero
  · exact .inr ((Vector3.normalized_eq_zero_iff exact v).mpr flat)
  · exact .inl (Vector3.magnitudeSquared_normalized exact flat)

theorem isUnitOrZero_vector (exact : HasSqrt.IsExact α) (d : Direction α) : IsUnitOrZero d.vector := by
  induction d with
  | ofComponents x y z => exact isUnitOrZero_normalized exact _
  | ofVector v => exact isUnitOrZero_normalized exact v
  | zero => exact .inr rfl
  | axis a => exact isUnitOrZero_unit a
  | neg d ih => exact isUnitOrZero_neg ih
  | cross a b => exact isUnitOrZero_normalized exact _

theorem normalized_vector (exact : HasSqrt.IsExact α) (d : Direction α) : d.vector.normalized = d.vector := by
  rcases isUnitOrZero_vector exact d with unit | flat
  · exact Vector3.normalized_of_unit exact unit
  · rw [flat, Vector3.normalized_zero exact]

end Direction

theorem Quantity.ofMagnitude_direction {α : Type} [Field α] [LinearOrder α] [IsStrictOrderedRing α] [HasSqrt α]
    (exact : HasSqrt.IsExact α) {k : VectorKind} (q : Quantity (.vector k) α) :
    Quantity.ofMagnitude (.ofNumber q.components.magnitude) q.components.normalized = q := by
  cases q with | mk value => cases value with | vector v =>
    change (⟨.vector (v.normalized.scale v.magnitude)⟩ : Quantity (.vector k) α) = ⟨.vector v⟩
    rw [v.scale_normalized exact]

/-- Magnitude and direction take a vector apart without a loss: a direction has length one unless it is zero and forgets
the length of what it is taken from, cross products of directions vanish on lines only and are orthogonal to both
factors, and a quantity of each vector kind is given back by its magnitude and its direction, zero included. -/
theorem polar_form {α : Type} [Field α] [LinearOrder α] [IsStrictOrderedRing α] [HasSqrt α]
    (exact : HasSqrt.IsExact α) :
    (∀ d : Direction α,
      (d.vector.magnitudeSquared = 1 ∨ d.vector = .zero) ∧ (Direction.ofVector d.vector).vector = d.vector) ∧
    (∀ (v : Vector3 α) (c : α), 0 < c →
      (Direction.ofVector (v.scale c)).vector = (Direction.ofVector v).vector) ∧
    (∀ a b : Direction α,
      ((a.cross b).vector = .zero ↔ a.vector.IsParallel b.vector ∨ a.vector = .zero ∨ b.vector = .zero) ∧
      (a.cross b).vector.dot a.vector = 0 ∧ (a.cross b).vector.dot b.vector = 0) ∧
    (∀ (k : VectorKind) (q : Quantity (.vector k) α), ∃ magnitude : Quantity (.scalar k.component) α,
      (Value.ofQuantity q).component? .magnitude = some (.ofQuantity magnitude) ∧
      Quantity.ofMagnitude magnitude (Direction.ofVector q.components).vector = q) := by
  refine ⟨fun d => ⟨Direction.isUnitOrZero_vector exact d, Direction.normalized_vector exact d⟩, ?_, ?_, ?_⟩
  · intro v c positive
    exact Vector3.normalized_scale exact positive v
  · intro a b
    refine ⟨?_, ?_, ?_⟩
    · exact (Vector3.normalized_eq_zero_iff exact _).trans (Vector3.cross_eq_zero_iff a.vector b.vector)
    · exact Vector3.normalized_dot exact (Vector3.cross_dot_left a.vector b.vector)
    · exact Vector3.normalized_dot exact (Vector3.cross_dot_right a.vector b.vector)
  · intro k q
    refine ⟨.ofNumber q.components.magnitude, ?_, Quantity.ofMagnitude_direction exact q⟩
    cases q with | mk value => cases value with | vector v => rfl

theorem polar_form_velocity :
    IsStrictOrderedRing ℝ ∧ HasSqrt.IsExact ℝ ∧ (0 : ℝ) < 2 ∧
    (Direction.ofVector ((⟨3, 0, 4⟩ : Vector3 ℝ).scale 2)).vector = (Direction.ofVector ⟨3, 0, 4⟩).vector ∧
    ∃ speed : Quantity (.scalar VectorKind.velocity.component) ℝ,
      (Value.ofQuantity (⟨.vector ⟨3, 0, 4⟩⟩ : Quantity (.vector .velocity) ℝ)).component? .magnitude =
        some (.ofQuantity speed) ∧
      Quantity.ofMagnitude (k := .velocity) speed (Direction.ofVector ⟨3, 0, 4⟩).vector =
        (⟨.vector ⟨3, 0, 4⟩⟩ : Quantity (.vector .velocity) ℝ) := by
  obtain ⟨-, scaled, -, whole⟩ := polar_form HasSqrt.isExact_real
  exact ⟨inferInstance, HasSqrt.isExact_real, two_pos, scaled ⟨3, 0, 4⟩ 2 two_pos, whole .velocity _⟩

end Metrology

import Mathlib.Tactic.NormNum.OfScientific
import Metrology.Calculator.Component
import Metrology.Proofs.Conversion.Order
import Metrology.Proofs.Measurement.Arithmetic
import Metrology.Proofs.Root

namespace Metrology

section

variable {α : Type} [Field α]

namespace Vector3

theorem along_shrink (v : Vector3 α) (divisor : α) (axis : Axis) :
    (v.shrink divisor).along axis = v.along axis / divisor := by
  cases axis <;> rfl

theorem dot_shrink (v w : Vector3 α) (divisor : α) :
    (v.shrink divisor).dot (w.shrink divisor) = v.dot w / (divisor * divisor) := by
  simp only [dot, shrink, map]
  ring

theorem shrink_shrink_cancel {divisor : α} (nonzero : divisor ≠ 0) (v : Vector3 α) (magnitude : α) :
    (v.shrink divisor).shrink (magnitude / divisor) = v.shrink magnitude := by
  simp only [shrink, map, div_div_div_cancel_right₀ nonzero]

variable [LinearOrder α] [IsStrictOrderedRing α] [HasSqrt α] {divisor : α}

omit [HasSqrt α] in
theorem magnitudeSquared_nonneg (v : Vector3 α) : 0 ≤ v.magnitudeSquared := by
  have planar : 0 ≤ v.x * v.x + v.y * v.y := add_nonneg (mul_self_nonneg v.x) (mul_self_nonneg v.y)
  exact add_nonneg planar (mul_self_nonneg v.z)

theorem magnitude_shrink (exact : HasSqrt.IsExact α) (positive : 0 < divisor) (v : Vector3 α) :
    (v.shrink divisor).magnitude = v.magnitude / divisor := by
  rw [magnitude, magnitudeSquared, dot_shrink]
  exact exact.sqrt_div_mul_self v.magnitudeSquared_nonneg positive

theorem normalized_shrink (exact : HasSqrt.IsExact α) (positive : 0 < divisor) (v : Vector3 α) :
    (v.shrink divisor).normalized = v.normalized := by
  rw [normalized, normalized, magnitude_shrink exact positive, Container.zero_literal]
  by_cases flat : v.magnitude = 0
  · simp [flat]
  · have apart : v.magnitude / divisor ≠ 0 := div_ne_zero flat positive.ne'
    rw [beq_false_of_ne flat, beq_false_of_ne apart]
    exact shrink_shrink_cancel positive.ne' v v.magnitude

theorem cosine_shrink (exact : HasSqrt.IsExact α) (positive : 0 < divisor) (v w : Vector3 α) :
    (v.shrink divisor).cosine (w.shrink divisor) = v.cosine w := by
  have area : divisor * divisor ≠ 0 := mul_ne_zero positive.ne' positive.ne'
  rw [cosine, cosine, magnitude_shrink exact positive, magnitude_shrink exact positive, dot_shrink,
    div_mul_div_comm, div_div_div_cancel_right₀ area]

end Vector3

theorem Dyad.entry_shrink (d : Dyad α) (divisor : α) (row column : Axis) :
    (d.shrink divisor).entry row column = d.entry row column / divisor := by
  cases row <;> cases column <;> rfl

theorem Dyad.trace_shrink (d : Dyad α) (divisor : α) : (d.shrink divisor).trace = d.trace / divisor := by
  simp only [trace, shrink, map, add_div]

namespace SymmetricDyad

theorem entry_shrink (s : SymmetricDyad α) (divisor : α) (row column : Axis) :
    (s.shrink divisor).entry row column = s.entry row column / divisor :=
  Dyad.entry_shrink (.ofSymmetric s) divisor row column

theorem trace_shrink (s : SymmetricDyad α) (divisor : α) : (s.shrink divisor).trace = s.trace / divisor := by
  simp only [trace, shrink, map, add_div]

theorem deviatoric_shrink (s : SymmetricDyad α) (divisor : α) :
    (s.shrink divisor).deviatoric = s.deviatoric.shrink divisor := by
  have entry : ∀ a b : α,
      a / divisor - b * (s.trace / divisor / 3.0) = (a - b * (s.trace / 3.0)) / divisor := by
    intro a b
    ring
  rw [deviatoric, trace_shrink]
  change SymmetricDyad.mk _ _ _ _ _ _ = SymmetricDyad.mk _ _ _ _ _ _
  congr 1 <;> exact entry _ _

theorem vonMisesSquared_shrink (s : SymmetricDyad α) (divisor : α) :
    (s.shrink divisor).vonMisesSquared = s.vonMisesSquared / (divisor * divisor) := by
  simp only [vonMisesSquared, deviatoric_shrink]
  simp only [shrink, map]
  ring

variable [LinearOrder α] [IsStrictOrderedRing α] [HasSqrt α] {divisor : α}

omit [HasSqrt α] in
theorem vonMisesSquared_nonneg (s : SymmetricDyad α) : 0 ≤ s.vonMisesSquared := by
  let d := s.deviatoric
  have normal : 0 ≤ d.xx * d.xx + d.yy * d.yy + d.zz * d.zz :=
    Vector3.magnitudeSquared_nonneg ⟨d.xx, d.yy, d.zz⟩
  have shear : 0 ≤ d.xy * d.xy + d.xz * d.xz + d.yz * d.yz :=
    Vector3.magnitudeSquared_nonneg ⟨d.xy, d.xz, d.yz⟩
  have contraction := add_nonneg normal (mul_nonneg (by norm_num : (0 : α) ≤ 2.0) shear)
  exact mul_nonneg (by norm_num) contraction

theorem vonMises_shrink (exact : HasSqrt.IsExact α) (positive : 0 < divisor) (s : SymmetricDyad α) :
    (s.shrink divisor).vonMises = s.vonMises / divisor := by
  rw [vonMises, vonMisesSquared_shrink]
  exact exact.sqrt_div_mul_self s.vonMisesSquared_nonneg positive

end SymmetricDyad

theorem Vector3.component?_shrink [LinearOrder α] [IsStrictOrderedRing α] [HasSqrt α] {divisor : α}
    (exact : HasSqrt.IsExact α) (positive : 0 < divisor) (v : Vector3 α) {c : Component}
    (offered : c.isLinearInVector = true) :
    ∃ a, v.component? c = some a ∧ (v.shrink divisor).component? c = some (a / divisor) := by
  cases c with
  | along axis => exact ⟨_, rfl, congrArg some (v.along_shrink divisor axis)⟩
  | magnitude => exact ⟨_, rfl, congrArg some (v.magnitude_shrink exact positive)⟩
  | _ => cases offered

theorem Dyad.component?_shrink [HasSqrt α] (d : Dyad α) (divisor : α) {c : Component}
    (offered : c.isLinearInTensor = true) :
    ∃ a, d.component? c = some a ∧ (d.shrink divisor).component? c = some (a / divisor) := by
  cases c with
  | entry row column => exact ⟨_, rfl, congrArg some (d.entry_shrink divisor row column)⟩
  | trace => exact ⟨_, rfl, congrArg some (d.trace_shrink divisor)⟩
  | _ => cases offered

theorem SymmetricDyad.component?_shrink [HasSqrt α] (s : SymmetricDyad α) (divisor : α) {c : Component}
    (offered : c.isLinearInTensor = true) :
    ∃ a, s.component? c = some a ∧ (s.shrink divisor).component? c = some (a / divisor) := by
  cases c with
  | entry row column => exact ⟨_, rfl, congrArg some (s.entry_shrink divisor row column)⟩
  | trace => exact ⟨_, rfl, congrArg some (s.trace_shrink divisor)⟩
  | _ => cases offered

end

def Value.numberIn? {α : Type} [Add α] [Sub α] [Mul α] [Div α] [OfScientific α] [HasPi α] (v : Value α)
    {f : Family} (u : f.Unit) : Option α :=
  match v with
  | ⟨.measured (.scalar k), .scalar a⟩ => if k.family = f then some (u.fromStandard a) else none
  | _ => none

section

variable {α : Type} [Field α] [HasPi α] {f : Family}

theorem Value.numberIn?_ofScalar (linear : f.isLinear = true) (u : f.Unit) {k : ScalarKind}
    (member : k.family = f) (a : α) : (Value.ofScalar k a).numberIn? u = some (a / u.slope) := by
  change (if k.family = f then some (u.fromStandard a) else none) = _
  rw [if_pos member, u.fromStandard_eq_div linear]

theorem Value.numberIn?_of_component [HasSqrt α] (linear : f.isLinear = true) (u : f.Unit) {k : ScalarKind}
    (member : k.family = f) {v : Value α} {c : Component} {a : α}
    (component : v.component? c = some (.ofScalar k a)) :
    (v.component? c).bind (·.numberIn? u) = some (a / u.slope) := by
  rw [component]
  exact numberIn?_ofScalar linear u member a

namespace Measurement

theorem valueIn_ofNumber (linear : f.isLinear = true) (u : f.Unit) (a : α) :
    (ofNumber a : Measurement f .scalar α).valueIn u = .scalar (a / u.slope) :=
  valueIn_eq_shrink linear (ofNumber a) u

theorem toVector_valueIn (linear : f.isLinear = true) (u : f.Unit) (v : Measurement f .vector α) :
    (v.valueIn u).toVector = v.value.toVector.shrink u.slope := by
  rw [valueIn_eq_shrink linear]
  cases v.value
  rfl

theorem toDyad_valueIn (linear : f.isLinear = true) (u : f.Unit) (d : Measurement f .dyad α) :
    (d.valueIn u).toDyad = d.value.toDyad.shrink u.slope := by
  rw [valueIn_eq_shrink linear]
  cases d.value
  rfl

theorem toSymmetricDyad_valueIn (linear : f.isLinear = true) (u : f.Unit)
    (s : Measurement f .symmetricDyad α) :
    (s.valueIn u).toSymmetricDyad = s.value.toSymmetricDyad.shrink u.slope := by
  rw [valueIn_eq_shrink linear]
  cases s.value
  rfl

end Measurement

variable [HasSqrt α] {c : Component}

theorem Measurement.vector_component? [LinearOrder α] [IsStrictOrderedRing α] (pi_pos : (0 : α) < HasPi.pi)
    (exact : HasSqrt.IsExact α) (linear : f.isLinear = true) (u : f.Unit) (q : Measurement f .vector α)
    {k : VectorKind} (member : k.component.family = f) (offered : c.isLinearInVector = true) :
    ∃ number, (q.valueIn u).toVector.component? c = some number ∧
      (Value.component? ⟨.measured (.vector k), q.value⟩ c).bind (·.numberIn? u) = some number := by
  rw [toVector_valueIn linear]
  cases q with | mk value => cases value with | vector v =>
    obtain ⟨a, stored, read⟩ := Vector3.component?_shrink exact (u.slope_pos pi_pos) v offered
    have component : Value.component? ⟨.measured (.vector k), .vector v⟩ c =
        some (.ofScalar k.component a) := by
      simp only [Value.component?, if_pos offered, stored, Option.map_some]
    exact ⟨a / u.slope, read, Value.numberIn?_of_component linear u member component⟩

theorem Measurement.dyad_component? (linear : f.isLinear = true) (u : f.Unit) (q : Measurement f .dyad α)
    {k : DyadKind} (member : k.component.family = f) (offered : c.isLinearInTensor = true) :
    ∃ number, (q.valueIn u).toDyad.component? c = some number ∧
      (Value.component? ⟨.measured (.dyad k), q.value⟩ c).bind (·.numberIn? u) = some number := by
  rw [toDyad_valueIn linear]
  cases q with | mk value => cases value with | dyad d =>
    obtain ⟨a, stored, read⟩ := d.component?_shrink u.slope offered
    have component : Value.component? ⟨.measured (.dyad k), .dyad d⟩ c = some (.ofScalar k.component a) := by
      simp only [Value.component?, if_pos offered, stored, Option.map_some]
    exact ⟨a / u.slope, read, Value.numberIn?_of_component linear u member component⟩

theorem Measurement.symmetricDyad_component? (linear : f.isLinear = true) (u : f.Unit)
    (q : Measurement f .symmetricDyad α) {k : SymmetricKind} (member : k.component.family = f)
    (offered : c.isLinearInTensor = true) :
    ∃ number, (q.valueIn u).toSymmetricDyad.component? c = some number ∧
      (Value.component? ⟨.measured (.symmetricDyad k), q.value⟩ c).bind (·.numberIn? u) = some number := by
  rw [toSymmetricDyad_valueIn linear]
  cases q with | mk value => cases value with | symmetricDyad s =>
    obtain ⟨a, stored, read⟩ := s.component?_shrink u.slope offered
    have component : Value.component? ⟨.measured (.symmetricDyad k), .symmetricDyad s⟩ c =
        some (.ofScalar k.component a) := by
      simp only [Value.component?, if_pos offered, stored, Option.map_some]
    exact ⟨a / u.slope, read, Value.numberIn?_of_component linear u member component⟩

end

/-- Magnitudes, components and invariants of a quantity read in a unit are those of the numbers in that unit, and
directions and angles are the same in all units. What carries this is homogeneity: numbers divided alike give results
divided alike, under a root only because units have a positive slope. -/
theorem geometry_unit_independent {α : Type} [Field α] [LinearOrder α] [IsStrictOrderedRing α] [HasPi α]
    [HasSqrt α] (pi_pos : (0 : α) < HasPi.pi) (exact : HasSqrt.IsExact α) :
    (∀ (f : Family) (u : f.Unit), f.isLinear = true →
      (∀ v : Measurement f .vector α,
        v.magnitude.valueIn u = .scalar (v.valueIn u).toVector.magnitude ∧
        v.x.valueIn u = .scalar (v.valueIn u).toVector.x ∧
        v.y.valueIn u = .scalar (v.valueIn u).toVector.y ∧
        v.z.valueIn u = .scalar (v.valueIn u).toVector.z ∧
        Value.ofDirection (v.valueIn u).toVector = Value.ofDirection v.value.toVector ∧
        ∀ w : Measurement f .vector α,
          (v.valueIn u).toVector.cosine (w.valueIn u).toVector = v.value.toVector.cosine w.value.toVector) ∧
      (∀ d : Measurement f .dyad α,
        d.trace.valueIn u = .scalar (d.valueIn u).toDyad.trace ∧
        d.transpose.valueIn u = .dyad (d.valueIn u).toDyad.transpose) ∧
      (∀ s : Measurement f .symmetricDyad α,
        s.symmetricTrace.valueIn u = .scalar (s.valueIn u).toSymmetricDyad.trace ∧
        s.vonMises.valueIn u = .scalar (s.valueIn u).toSymmetricDyad.vonMises)) ∧
    (∀ (k : VectorKind) (u : k.family.Unit) (q : Quantity (.vector k) α) (c : Component),
      c.isLinearInVector = true → ∃ number, (q.valueIn u).toVector.component? c = some number ∧
        ((Value.ofQuantity q).component? c).bind (·.numberIn? u) = some number) ∧
    (∀ (k : DyadKind) (u : k.family.Unit) (q : Quantity (.dyad k) α) (c : Component),
      c.isLinearInTensor = true → ∃ number, (q.valueIn u).toDyad.component? c = some number ∧
        ((Value.ofQuantity q).component? c).bind (·.numberIn? u) = some number) ∧
    (∀ (k : SymmetricKind) (u : k.family.Unit) (q : Quantity (.symmetricDyad k) α) (c : Component),
      c.isLinearInTensor = true → ∃ number, (q.valueIn u).toSymmetricDyad.component? c = some number ∧
        ((Value.ofQuantity q).component? c).bind (·.numberIn? u) = some number) := by
  refine ⟨?_, ?_, ?_, ?_⟩
  · intro f u linear
    have positive : (0 : α) < u.slope := u.slope_pos pi_pos
    refine ⟨?_, ?_, ?_⟩
    · intro v
      rw [Measurement.toVector_valueIn linear]
      refine ⟨?_, ?_, ?_, ?_, ?_, ?_⟩
      · rw [Vector3.magnitude_shrink exact positive]
        exact Measurement.valueIn_ofNumber linear u _
      · exact Measurement.valueIn_ofNumber linear u _
      · exact Measurement.valueIn_ofNumber linear u _
      · exact Measurement.valueIn_ofNumber linear u _
      · simp only [Value.ofDirection, Vector3.normalized_shrink exact positive]
      · intro w
        rw [Measurement.toVector_valueIn linear, Vector3.cosine_shrink exact positive]
    · intro d
      rw [Measurement.toDyad_valueIn linear]
      constructor
      · rw [Dyad.trace_shrink]
        exact Measurement.valueIn_ofNumber linear u _
      · exact Measurement.valueIn_eq_shrink linear _ u
    · intro s
      rw [Measurement.toSymmetricDyad_valueIn linear]
      constructor
      · rw [SymmetricDyad.trace_shrink]
        exact Measurement.valueIn_ofNumber linear u _
      · rw [SymmetricDyad.vonMises_shrink exact positive]
        exact Measurement.valueIn_ofNumber linear u _
  · intro k u q c offered
    have linear : k.family.isLinear = true := by cases k <;> rfl
    have member : k.component.family = k.family := by cases k <;> rfl
    exact Measurement.vector_component? pi_pos exact linear u q member offered
  · intro k u q c offered
    have linear : k.family.isLinear = true := by cases k; rfl
    have member : k.component.family = k.family := by cases k; rfl
    exact Measurement.dyad_component? linear u q member offered
  · intro k u q c offered
    have linear : k.family.isLinear = true := by cases k <;> rfl
    have member : k.component.family = k.family := by cases k <;> rfl
    exact Measurement.symmetricDyad_component? linear u q member offered

theorem geometry_unit_independent_feet :
    (0 : ℝ) < HasPi.pi ∧ HasSqrt.IsExact ℝ ∧ Family.length.isLinear = true ∧
    (Measurement.ofUnit (.vector ⟨3, 4, 12⟩) ⟨⟨10, by decide⟩⟩ :
      Measurement .length .vector ℝ).magnitude.valueIn ⟨⟨10, by decide⟩⟩ = .scalar 13 := by
  have pi_pos : (0 : ℝ) < HasPi.pi := Real.pi_pos
  let foot : Family.length.Unit := ⟨⟨10, by decide⟩⟩
  let v : Measurement .length .vector ℝ := .ofUnit (.vector ⟨3, 4, 12⟩) foot
  have reading := (((geometry_unit_independent pi_pos HasSqrt.isExact_real).1 .length foot rfl).1 v).1
  have numbers : v.valueIn foot = .vector ⟨3, 4, 12⟩ := by
    rw [Measurement.valueIn_ofUnit, Family.Unit.convert_self pi_pos.ne']
  have root : (Vector3.mk 3 4 12 : Vector3 ℝ).magnitude = 13 := by
    have square : (Vector3.mk 3 4 12 : Vector3 ℝ).magnitudeSquared = 13 * 13 := by
      norm_num [Vector3.magnitudeSquared, Vector3.dot]
    rw [Vector3.magnitude, square]
    exact HasSqrt.isExact_real.sqrt_mul_self (by norm_num)
  refine ⟨pi_pos, HasSqrt.isExact_real, rfl, reading.trans ?_⟩
  rw [numbers]
  exact congrArg Container.scalar root

end Metrology

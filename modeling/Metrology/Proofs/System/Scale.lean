import Mathlib.Algebra.BigOperators.Ring.List
import Metrology.Proofs.Dimension.Algebra
import Metrology.Proofs.Factor
import Metrology.Unit.Convert

/-!
Coherence of the unit systems: the unit that goes with a system is, in every family, the product of powers
of the units of the base families that its dimension prescribes.
-/

namespace Metrology

namespace DimensionSet

/-- Exponents so small that those of two sets can be added and subtracted without wrapping around. -/
def IsSmall (d : DimensionSet) : Prop :=
  ∀ base ∈ BaseDimension.all, -64 ≤ (d.exponent base).toInt ∧ (d.exponent base).toInt < 64

instance (d : DimensionSet) : Decidable d.IsSmall :=
  inferInstanceAs (Decidable (∀ base ∈ BaseDimension.all, _))

theorem isSmall_dimensionless : dimensionless.IsSmall := by
  decide

theorem IsSmall.isExponent_add {a b : DimensionSet} (small_a : a.IsSmall) (small_b : b.IsSmall)
    {base : BaseDimension} (member : base ∈ BaseDimension.all) :
    IsExponent ((a.exponent base).toInt + (b.exponent base).toInt) := by
  have bound_a := small_a base member
  have bound_b := small_b base member
  constructor <;> omega

theorem IsSmall.isExponent_sub {a b : DimensionSet} (small_a : a.IsSmall) (small_b : b.IsSmall)
    {base : BaseDimension} (member : base ∈ BaseDimension.all) :
    IsExponent ((a.exponent base).toInt - (b.exponent base).toInt) := by
  have bound_a := small_a base member
  have bound_b := small_b base member
  constructor <;> omega

end DimensionSet

def Conversion.scale? : Conversion → Option ℚ
  | scale factor => factor.rational?
  | per divisor => divisor.rational?.map (1 / ·)
  | affine _ _ => none

def Family.scaleIn? (f : Family) (system : UnitSystem) : Option ℚ :=
  (f.consistent? system).bind fun u => u.row.conversion.scale?

/-- The family that a base dimension is measured in. Temperatures are measured from zero up. -/
def BaseDimension.family : BaseDimension → Family
  | time => .time
  | length => .length
  | mass => .mass
  | electricCurrent => .electricCurrent
  | temperature => .temperatureDifference
  | substanceAmount => .substanceAmount
  | luminousIntensity => .luminousIntensity

namespace UnitSystem

theorem mem_all (system : UnitSystem) : system ∈ all := by
  cases system <;> decide

def baseScale (system : UnitSystem) (base : BaseDimension) : ℚ := (base.family.scaleIn? system).getD 1

theorem baseScale_ne_zero (system : UnitSystem) (base : BaseDimension) : system.baseScale base ≠ 0 := by
  cases system <;> cases base <;> decide +kernel

def scale (system : UnitSystem) (d : DimensionSet) : ℚ :=
  (BaseDimension.all.map fun base => system.baseScale base ^ (d.exponent base).toInt).prod

variable (system : UnitSystem)

theorem scale_dimensionless : system.scale .dimensionless = 1 := by
  simp [scale, BaseDimension.all]

theorem scale_ne_zero (d : DimensionSet) : system.scale d ≠ 0 := by
  apply List.prod_ne_zero
  intro zero
  obtain ⟨base, _, power⟩ := List.mem_map.mp zero
  exact zpow_ne_zero _ (system.baseScale_ne_zero base) power

theorem scale_product {a b : DimensionSet} (small_a : a.IsSmall) (small_b : b.IsSmall) :
    system.scale (a.product b) = system.scale a * system.scale b := by
  rw [scale, scale, scale, ← List.prod_map_mul]
  congr 1
  apply List.map_congr_left
  intro base member
  rw [DimensionSet.toInt_exponent_product (small_a.isExponent_add small_b member)]
  exact zpow_add₀ (system.baseScale_ne_zero base) _ _

theorem scale_quotient {a b : DimensionSet} (small_a : a.IsSmall) (small_b : b.IsSmall) :
    system.scale (a.quotient b) = system.scale a / system.scale b := by
  rw [eq_div_iff (system.scale_ne_zero b), scale, scale, scale, ← List.prod_map_mul]
  congr 1
  apply List.map_congr_left
  intro base member
  have nonzero := system.baseScale_ne_zero base
  rw [DimensionSet.toInt_exponent_quotient (small_a.isExponent_sub small_b member), ← zpow_add₀ nonzero,
    sub_add_cancel]

end UnitSystem

namespace Family

theorem mem_all (f : Family) : f ∈ all := by
  cases f <;> decide

/-- Whether the units of the family follow from those of the base dimensions. Amounts of data have
units of their own. -/
def isMechanical : Family → Bool
  | memory => false
  | memoryRate => false
  | _ => true

theorem dimensions_isSmall (f : Family) : f.dimensions.IsSmall := by
  cases f <;> decide

theorem tables_coherent : ∀ f ∈ all, f.isMechanical = true → ∀ system ∈ UnitSystem.all,
    f.scaleIn? system = some (system.scale f.dimensions) := by
  decide +kernel

theorem scaleIn?_eq_scale {f : Family} (mechanical : f.isMechanical = true) (system : UnitSystem) :
    f.scaleIn? system = some (system.scale f.dimensions) :=
  tables_coherent f f.mem_all mechanical system system.mem_all

end Family

section

variable {α : Type} [Field α] [CharZero α] [HasPi α]

theorem Conversion.toStandard_eq_mul {rule : Conversion} {q : ℚ} (known : rule.scale? = some q) (x : α) :
    rule.toStandard x = x * q := by
  cases rule with
  | scale factor => rw [toStandard, Factor.eval_eq_rational known]
  | per divisor =>
      obtain ⟨p, value, rfl⟩ := Option.map_eq_some_iff.mp known
      rw [toStandard, Factor.eval_eq_rational value, Rat.cast_div, Rat.cast_one, mul_one_div]
  | affine there back => cases known

theorem Conversion.fromStandard_eq_div {rule : Conversion} {q : ℚ} (known : rule.scale? = some q) (x : α) :
    rule.fromStandard x = x / q := by
  cases rule with
  | scale factor => rw [fromStandard, Factor.eval_eq_rational known]
  | per divisor =>
      obtain ⟨p, value, rfl⟩ := Option.map_eq_some_iff.mp known
      rw [fromStandard, Factor.eval_eq_rational value, Rat.cast_div, Rat.cast_one, div_div_eq_mul_div,
        div_one]
  | affine there back => cases known

end

end Metrology

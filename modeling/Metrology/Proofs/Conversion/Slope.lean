import Mathlib.Algebra.BigOperators.Group.List.Basic
import Mathlib.Tactic.Ring
import Metrology.Proofs.Conversion.Groupoid

/-!
Exact conversions are straight lines: each unit multiplies differences by one number, and in the families
whose values may be summed the lines pass through zero.
-/

namespace Metrology

namespace Step

def keepsZero : Step → Bool
  | add _ => false
  | sub _ => false
  | mul _ => true
  | div _ => true

variable {α : Type} [Field α] [HasPi α]

def slope : Step → α
  | add _ => 1
  | sub _ => 1
  | mul factor => factor.eval
  | div divisor => 1 / divisor.eval

def slopeAll (steps : List Step) : α := (steps.map slope).prod

theorem run_sub_run (step : Step) (x y : α) : step.run x - step.run y = (x - y) * step.slope := by
  cases step with
  | add amount => simp only [run, slope]; ring
  | sub amount => simp only [run, slope]; ring
  | mul factor => simp only [run, slope]; ring
  | div divisor => simp only [run, slope]; ring

theorem runAll_sub_runAll (steps : List Step) (x y : α) :
    runAll steps x - runAll steps y = (x - y) * slopeAll steps := by
  induction steps generalizing x y with
  | nil => simp [runAll, slopeAll]
  | cons step steps ih =>
      calc runAll (step :: steps) x - runAll (step :: steps) y
          = (step.run x - step.run y) * slopeAll steps := ih (step.run x) (step.run y)
        _ = (x - y) * (step.slope * slopeAll steps) := by rw [run_sub_run, mul_assoc]
        _ = (x - y) * slopeAll (step :: steps) := by simp [slopeAll]

theorem run_zero {step : Step} (keeps : step.keepsZero = true) : step.run (0 : α) = 0 := by
  cases step with
  | add amount => cases keeps
  | sub amount => cases keeps
  | mul factor => exact zero_mul _
  | div divisor => exact zero_div _

theorem runAll_zero {steps : List Step} (keeps : ∀ step ∈ steps, step.keepsZero = true) :
    runAll steps (0 : α) = 0 := by
  induction steps with
  | nil => rfl
  | cons step steps ih =>
      have first : step.run (0 : α) = 0 := run_zero (keeps step List.mem_cons_self)
      have rest := ih fun next member => keeps next (List.mem_cons_of_mem step member)
      simpa [runAll, first] using rest

theorem slope_inverse (step : Step) : (step.inverse.slope : α) = 1 / step.slope := by
  cases step <;> simp [inverse, slope]

theorem slopeAll_undo (steps : List Step) : (slopeAll (undo steps) : α) = 1 / slopeAll steps := by
  induction steps with
  | nil => simp [undo, slopeAll]
  | cons step steps ih =>
      have split : (slopeAll (undo (step :: steps)) : α) = slopeAll (undo steps) * step.inverse.slope := by
        simp [undo, slopeAll]
      rw [split, ih, slope_inverse, div_mul_div_comm, one_mul, slopeAll, slopeAll, List.map_cons,
        List.prod_cons, mul_comm]

end Step

def Conversion.keepsZero (rule : Conversion) : Bool :=
  rule.steps.1.all Step.keepsZero && rule.steps.2.all Step.keepsZero

theorem FamilyTable.keepsZero (f : Family) :
    f.table.units.all (fun row => row.conversion.keepsZero) = f.isLinear := by
  cases f <;> decide

namespace Family.Unit

variable {f : Family}

theorem row_keepsZero (linear : f.isLinear = true) (u : f.Unit) : u.row.conversion.keepsZero = true := by
  have table := FamilyTable.keepsZero f
  rw [linear] at table
  exact List.all_eq_true.mp table u.row (List.getElem_mem _)

variable {α : Type} [Field α] [HasPi α]

/-- How many standard units a difference of one unit is. -/
def slope (u : f.Unit) : α := Step.slopeAll u.row.conversion.steps.1

theorem toStandard_sub_toStandard (u : f.Unit) (x y : α) :
    u.toStandard x - u.toStandard y = (x - y) * u.slope := by
  simp only [toStandard, Conversion.toStandard_eq_runAll]
  exact Step.runAll_sub_runAll _ x y

theorem fromStandard_sub_fromStandard (u : f.Unit) (x y : α) :
    u.fromStandard x - u.fromStandard y = (x - y) / u.slope := by
  have invertible := u.row_isInvertible
  simp only [Conversion.isInvertible, Bool.and_eq_true, beq_iff_eq] at invertible
  simp only [fromStandard, Conversion.fromStandard_eq_runAll]
  rw [Step.runAll_sub_runAll, invertible.1, Step.slopeAll_undo, mul_one_div, slope]

theorem toStandard_zero (linear : f.isLinear = true) (u : f.Unit) : u.toStandard (0 : α) = 0 := by
  have keeps := u.row_keepsZero linear
  simp only [Conversion.keepsZero, Bool.and_eq_true, List.all_eq_true] at keeps
  rw [toStandard, Conversion.toStandard_eq_runAll]
  exact Step.runAll_zero keeps.1

theorem fromStandard_zero (linear : f.isLinear = true) (u : f.Unit) : u.fromStandard (0 : α) = 0 := by
  have keeps := u.row_keepsZero linear
  simp only [Conversion.keepsZero, Bool.and_eq_true, List.all_eq_true] at keeps
  rw [fromStandard, Conversion.fromStandard_eq_runAll]
  exact Step.runAll_zero keeps.2

theorem toStandard_eq_mul (linear : f.isLinear = true) (u : f.Unit) (x : α) :
    u.toStandard x = x * u.slope := by
  have line := u.toStandard_sub_toStandard x 0
  rwa [toStandard_zero linear, sub_zero, sub_zero] at line

theorem fromStandard_eq_div (linear : f.isLinear = true) (u : f.Unit) (x : α) :
    u.fromStandard x = x / u.slope := by
  have line := u.fromStandard_sub_fromStandard x 0
  rwa [fromStandard_zero linear, sub_zero, sub_zero] at line

theorem slope_ne_zero [CharZero α] (pi_ne_zero : (HasPi.pi : α) ≠ 0) (u : f.Unit) : (u.slope : α) ≠ 0 := by
  intro flat
  -- A flat line would send one and zero to the same value, and the way back tells them apart.
  have same : u.toStandard (1 : α) = u.toStandard 0 := by
    rw [← sub_eq_zero, toStandard_sub_toStandard, flat, mul_zero]
  have equal := congrArg u.fromStandard same
  rw [fromStandard_toStandard pi_ne_zero, fromStandard_toStandard pi_ne_zero] at equal
  exact one_ne_zero equal

end Family.Unit

end Metrology

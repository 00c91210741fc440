import Metrology.Proofs.Conversion.Pivot
import Metrology.Proofs.Factor

namespace Metrology

namespace Step

def inverse : Step → Step
  | add amount => sub amount
  | sub amount => add amount
  | mul factor => div factor
  | div divisor => mul divisor

@[simp] theorem inverse_inverse (step : Step) : step.inverse.inverse = step := by
  cases step <;> rfl

def isInvertible : Step → Bool
  | add _ => true
  | sub _ => true
  | mul factor => factor.isNonzero
  | div divisor => divisor.isNonzero

@[simp] theorem isInvertible_inverse (step : Step) : step.inverse.isInvertible = step.isInvertible := by
  cases step <;> rfl

def undo (steps : List Step) : List Step := steps.reverse.map inverse

@[simp] theorem undo_undo (steps : List Step) : undo (undo steps) = steps := by
  simp [undo, List.map_reverse, Function.comp_def]

end Step

def Conversion.steps : Conversion → List Step × List Step
  | scale factor => ([.mul factor], [.div factor])
  | per divisor => ([.div divisor], [.mul divisor])
  | affine there back => (there, back)

/-- Whether the steps back take the steps there back, one by one. -/
def Conversion.isInvertible (rule : Conversion) : Bool :=
  rule.steps.2 == Step.undo rule.steps.1 && rule.steps.1.all Step.isInvertible

theorem FamilyTable.isInvertible (f : Family) :
    f.table.units.all (fun row => row.conversion.isInvertible) = true := by
  cases f <;> decide

theorem Conversion.toStandard_eq_runAll {α : Type} [Field α] [HasPi α] (rule : Conversion) (x : α) :
    rule.toStandard x = Step.runAll rule.steps.1 x := by
  cases rule <;> rfl

theorem Conversion.fromStandard_eq_runAll {α : Type} [Field α] [HasPi α] (rule : Conversion) (x : α) :
    rule.fromStandard x = Step.runAll rule.steps.2 x := by
  cases rule <;> rfl

variable {α : Type} [Field α] [CharZero α] [HasPi α]

namespace Step

theorem run_inverse_run (pi_ne_zero : (HasPi.pi : α) ≠ 0) {step : Step}
    (invertible : step.isInvertible = true) (x : α) : step.inverse.run (step.run x) = x := by
  cases step with
  | add amount => exact add_sub_cancel_right x _
  | sub amount => exact sub_add_cancel x _
  | mul factor => exact mul_div_cancel_right₀ x (Factor.eval_ne_zero pi_ne_zero invertible)
  | div divisor => exact div_mul_cancel₀ x (Factor.eval_ne_zero pi_ne_zero invertible)

theorem runAll_undo_runAll (pi_ne_zero : (HasPi.pi : α) ≠ 0) {steps : List Step}
    (invertible : ∀ step ∈ steps, step.isInvertible = true) (x : α) :
    runAll (undo steps) (runAll steps x) = x := by
  induction steps generalizing x with
  | nil => rfl
  | cons step steps ih =>
      have later := ih (fun next member => invertible next (List.mem_cons_of_mem _ member)) (step.run x)
      have now := run_inverse_run pi_ne_zero (invertible step List.mem_cons_self) x
      simp only [runAll, undo, List.reverse_cons, List.map_append, List.map_cons, List.map_nil,
        List.foldl_append, List.foldl_cons, List.foldl_nil] at later ⊢
      rw [later, now]

end Step

namespace Conversion

variable {rule : Conversion}

theorem fromStandard_toStandard (pi_ne_zero : (HasPi.pi : α) ≠ 0)
    (invertible : rule.isInvertible = true) (x : α) : rule.fromStandard (rule.toStandard x) = x := by
  simp only [isInvertible, Bool.and_eq_true, beq_iff_eq, List.all_eq_true] at invertible
  rw [fromStandard_eq_runAll, toStandard_eq_runAll, invertible.1]
  exact Step.runAll_undo_runAll pi_ne_zero invertible.2 x

theorem toStandard_fromStandard (pi_ne_zero : (HasPi.pi : α) ≠ 0)
    (invertible : rule.isInvertible = true) (x : α) : rule.toStandard (rule.fromStandard x) = x := by
  simp only [isInvertible, Bool.and_eq_true, beq_iff_eq, List.all_eq_true] at invertible
  obtain ⟨back, each⟩ := invertible
  have there : rule.steps.1 = Step.undo rule.steps.2 := by rw [back, Step.undo_undo]
  rw [fromStandard_eq_runAll, toStandard_eq_runAll, there]
  apply Step.runAll_undo_runAll pi_ne_zero
  intro step member
  rw [back, Step.undo] at member
  obtain ⟨original, inside, rfl⟩ := List.mem_map.mp member
  rw [Step.isInvertible_inverse]
  exact each original (List.mem_reverse.mp inside)

end Conversion

namespace Family.Unit

variable {f : Family} {s : Shape}

theorem row_isInvertible (u : f.Unit) : u.row.conversion.isInvertible = true :=
  List.all_eq_true.mp (FamilyTable.isInvertible f) u.row (List.getElem_mem _)

theorem fromStandard_toStandard (pi_ne_zero : (HasPi.pi : α) ≠ 0) (u : f.Unit) (x : α) :
    u.fromStandard (u.toStandard x) = x :=
  Conversion.fromStandard_toStandard pi_ne_zero u.row_isInvertible x

theorem toStandard_fromStandard (pi_ne_zero : (HasPi.pi : α) ≠ 0) (u : f.Unit) (x : α) :
    u.toStandard (u.fromStandard x) = x :=
  Conversion.toStandard_fromStandard pi_ne_zero u.row_isInvertible x

omit [CharZero α] in
theorem convert_eq_map (source target : f.Unit) (c : Container α s) :
    source.convert target c = c.map fun x => target.fromStandard (source.toStandard x) :=
  convert_eq_map_pivot Factor.mul_eval_one Factor.div_eval_one source target c

theorem convert_convert (pi_ne_zero : (HasPi.pi : α) ≠ 0) (source middle target : f.Unit)
    (c : Container α s) : middle.convert target (source.convert middle c) = source.convert target c := by
  simp only [convert_eq_map, Container.map_map, toStandard_fromStandard pi_ne_zero]

theorem convert_self (pi_ne_zero : (HasPi.pi : α) ≠ 0) (u : f.Unit) (c : Container α s) :
    u.convert u c = c := by
  rw [convert_eq_map]
  exact Container.map_eq_self (fromStandard_toStandard pi_ne_zero u) c

theorem chain_eq_map (pi_ne_zero : (HasPi.pi : α) ≠ 0) (source : f.Unit) (c : Container α s)
    (targets : List f.Unit) :
    source.chain c targets = targets.map fun target => source.convert target c := by
  induction targets generalizing source c with
  | nil => rfl
  | cons target targets ih =>
      rw [chain, ih, List.map_cons]
      congr 2
      funext next
      exact convert_convert pi_ne_zero source target next c

end Family.Unit

namespace Measurement

variable {f : Family} {s : Shape}

omit [CharZero α] in
theorem value_ofUnit (c : Container α s) (u : f.Unit) : (ofUnit c u).value = c.map u.toStandard := by
  rw [ofUnit, Family.Unit.convert_eq_map]
  apply Container.map_congr
  intro x
  exact Family.fromStandard_standard Factor.div_eval_one f (u.toStandard x)

omit [CharZero α] in
theorem valueIn_eq_map (q : Measurement f s α) (u : f.Unit) : q.valueIn u = q.value.map u.fromStandard := by
  rw [valueIn, Family.Unit.convert_eq_map]
  apply Container.map_congr
  intro x
  rw [Family.toStandard_standard Factor.mul_eval_one]

omit [CharZero α] in
theorem valueIn_ofUnit (c : Container α s) (source target : f.Unit) :
    (ofUnit c source).valueIn target = source.convert target c := by
  rw [valueIn_eq_map, value_ofUnit, Container.map_map, Family.Unit.convert_eq_map]

theorem ofUnit_valueIn (pi_ne_zero : (HasPi.pi : α) ≠ 0) (q : Measurement f s α) (u : f.Unit) :
    ofUnit (q.valueIn u) u = q := by
  rw [ofUnit, valueIn, Family.Unit.convert_convert pi_ne_zero, Family.Unit.convert_self pi_ne_zero]

theorem ofUnit_convert (pi_ne_zero : (HasPi.pi : α) ≠ 0) (c : Container α s) (source target : f.Unit) :
    ofUnit (source.convert target c) target = ofUnit c source := by
  rw [ofUnit, ofUnit, Family.Unit.convert_convert pi_ne_zero]

end Measurement

variable {f : Family} {s : Shape}

/-- Exact conversions between the units of a family compose: whatever units a value passes through, the result
depends on the first and the last of them alone, and every unit leads back. Absolute temperatures are no exception,
as their steps back take the steps there back one by one. -/
theorem conversion_groupoid (pi_ne_zero : (HasPi.pi : α) ≠ 0) (c : Container α s) :
    (∀ source middle target : f.Unit,
      middle.convert target (source.convert middle c) = source.convert target c) ∧
    (∀ u : f.Unit, u.convert u c = c) ∧
    (∀ source target : f.Unit, target.convert source (source.convert target c) = c) ∧
    (∀ (u : f.Unit) (x : α),
      u.fromStandard (u.toStandard x) = x ∧ u.toStandard (u.fromStandard x) = x) ∧
    (∀ (source : f.Unit) (targets : List f.Unit),
      source.chain c targets = targets.map fun target => source.convert target c) ∧
    (∀ (source : f.Unit) (targets : List f.Unit) (last : f.Unit),
      (source.chain c (targets ++ [last])).getLast? = some (source.convert last c)) := by
  refine ⟨?_, ?_, ?_, ?_, ?_, ?_⟩
  · intro source middle target
    exact Family.Unit.convert_convert pi_ne_zero source middle target c
  · intro u
    exact Family.Unit.convert_self pi_ne_zero u c
  · intro source target
    rw [Family.Unit.convert_convert pi_ne_zero, Family.Unit.convert_self pi_ne_zero]
  · intro u x
    exact ⟨u.fromStandard_toStandard pi_ne_zero x, u.toStandard_fromStandard pi_ne_zero x⟩
  · intro source targets
    exact Family.Unit.chain_eq_map pi_ne_zero source c targets
  · intro source targets last
    rw [Family.Unit.chain_eq_map pi_ne_zero, List.map_append, List.map_singleton,
      List.getLast?_append_cons]
    rfl

theorem conversion_groupoid_temperature :
    (HasPi.pi : ℚ) ≠ 0 ∧
    (Family.Unit.chain (f := .temperature) ⟨⟨3, by decide⟩⟩ (.scalar 68 : Container ℚ .scalar)
        [⟨⟨2, by decide⟩⟩, ⟨⟨1, by decide⟩⟩, ⟨⟨3, by decide⟩⟩]).map Container.toNumber =
      [527.67, 20, 68] := by
  have pi_ne_zero : (HasPi.pi : ℚ) ≠ 0 := rational_pi_pos.ne'
  refine ⟨pi_ne_zero, ?_⟩
  rw [(conversion_groupoid pi_ne_zero _).2.2.2.2.1]
  decide +kernel

end Metrology

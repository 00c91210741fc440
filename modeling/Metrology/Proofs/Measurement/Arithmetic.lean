import Metrology.Measurement.Operation
import Metrology.Proofs.Conversion.Slope

namespace Metrology

structure Amount (f : Family) (s : Shape) (α : Type) where
  numbers : Container α s
  unit : f.Unit

/-- What a calculation with quantities of one family does next. Operators that assign, and a number on
the left of a product, do what the plain operators do. -/
inductive Instruction (f : Family) (s : Shape) (α : Type) where
  | construct (amount : Amount f s α)
  | zero
  | arithmetic (a : Arithmetic (Amount f s α) α)

section

variable {f : Family} {s : Shape} {α : Type}

variable [Add α] [Sub α] [Mul α] [Div α] [OfScientific α] [HasPi α]

def Amount.toMeasurement (amount : Amount f s α) : Measurement f s α := .ofUnit amount.numbers amount.unit

def Amount.numbersIn (u : f.Unit) (amount : Amount f s α) : Container α s :=
  amount.unit.convert u amount.numbers

variable [Neg α]

def Instruction.perform? (q : Measurement f s α) : Instruction f s α → Option (Measurement f s α)
  | construct amount => some amount.toMeasurement
  | zero => some Measurement.zero
  | arithmetic a => q.perform? (.arithmetic (a.map Amount.toMeasurement))

def Instruction.onNumbers (u : f.Unit) (c : Container α s) : Instruction f s α → Container α s
  | construct amount => amount.numbersIn u
  | zero => .zero s
  | arithmetic a => (a.map (Amount.numbersIn u)).run c

def Measurement.calculate? (q : Measurement f s α) (instructions : List (Instruction f s α)) :
    Option (Measurement f s α) :=
  instructions.foldlM Instruction.perform? q

def Family.Unit.calculate (u : f.Unit) (c : Container α s) (instructions : List (Instruction f s α)) :
    Container α s :=
  instructions.foldl (Instruction.onNumbers u) c

end

variable {f : Family} {s : Shape} {α : Type} [Field α]

namespace Container

theorem zero_literal : (0.0 : α) = 0 := by
  rw [NNRatCast.ofScientific_eq_ite]
  simp [NNRat.divNat_eq_div]

theorem shrink_zero (divisor : α) : (zero s : Container α s).shrink divisor = zero s := by
  rw [zero, zero_literal, shrink, map_replicate, zero_div]

theorem shrink_add (a b : Container α s) (divisor : α) :
    (a + b).shrink divisor = a.shrink divisor + b.shrink divisor :=
  map_zipWith (fun x y => add_div x y divisor) a b

theorem shrink_sub (a b : Container α s) (divisor : α) :
    (a - b).shrink divisor = a.shrink divisor - b.shrink divisor :=
  map_zipWith (fun x y => sub_div x y divisor) a b

theorem shrink_neg (c : Container α s) (divisor : α) : (-c).shrink divisor = -c.shrink divisor := by
  change (c.map (- ·)).map (· / divisor) = (c.map (· / divisor)).map (- ·)
  rw [map_map, map_map]
  exact map_congr (fun x => neg_div divisor x) c

theorem shrink_scale (c : Container α s) (factor divisor : α) :
    (c.scale factor).shrink divisor = (c.shrink divisor).scale factor := by
  rw [scale, shrink, map_map, scale, shrink, map_map]
  exact map_congr (fun x => mul_div_right_comm x factor divisor) c

theorem shrink_shrink (c : Container α s) (first second : α) :
    (c.shrink first).shrink second = (c.shrink second).shrink first := by
  rw [shrink, shrink, map_map, shrink, shrink, map_map]
  exact map_congr (fun x => div_right_comm x first second) c

end Container

theorem Arithmetic.shrink_run (a : Arithmetic (Container α s) α) (c : Container α s) (divisor : α) :
    (a.run c).shrink divisor = (a.map (Container.shrink · divisor)).run (c.shrink divisor) := by
  cases a with
  | add operand => exact Container.shrink_add c operand divisor
  | sub operand => exact Container.shrink_sub c operand divisor
  | neg => exact Container.shrink_neg c divisor
  | scale factor => exact Container.shrink_scale c factor divisor
  | shrink other => exact Container.shrink_shrink c other divisor

omit [Field α] in
theorem Arithmetic.map_map {β γ δ : Type} (g : β → γ) (h : γ → δ) (a : Arithmetic β α) :
    (a.map g).map h = a.map fun operand => h (g operand) := by
  cases a <;> rfl

variable [HasPi α]

theorem Measurement.valueIn_eq_shrink (linear : f.isLinear = true) (q : Measurement f s α) (u : f.Unit) :
    q.valueIn u = q.value.shrink u.slope := by
  rw [valueIn_eq_map]
  exact Container.map_congr (u.fromStandard_eq_div linear) q.value

theorem Amount.numbersIn_eq_shrink (linear : f.isLinear = true) (amount : Amount f s α) (u : f.Unit) :
    amount.numbersIn u = amount.toMeasurement.value.shrink u.slope := by
  rw [← Measurement.valueIn_eq_shrink linear, toMeasurement, Measurement.valueIn_ofUnit, numbersIn]

theorem Instruction.perform?_valueIn (linear : f.isLinear = true) (u : f.Unit) (q : Measurement f s α)
    (instruction : Instruction f s α) :
    ∃ changed, instruction.perform? q = some changed ∧
      changed.valueIn u = instruction.onNumbers u (q.valueIn u) := by
  cases instruction with
  | construct amount =>
      exact ⟨amount.toMeasurement, rfl, Measurement.valueIn_ofUnit amount.numbers amount.unit u⟩
  | zero =>
      refine ⟨Measurement.zero, rfl, ?_⟩
      rw [Measurement.valueIn_eq_shrink linear]
      exact Container.shrink_zero u.slope
  | arithmetic a =>
      refine ⟨_, if_pos linear, ?_⟩
      rw [Measurement.valueIn_eq_shrink linear, Measurement.valueIn_eq_shrink linear, onNumbers,
        Arithmetic.shrink_run, Arithmetic.map_map, Arithmetic.map_map]
      congr 2
      funext amount
      exact (Amount.numbersIn_eq_shrink linear amount u).symm

theorem Measurement.calculate?_valueIn (linear : f.isLinear = true) (u : f.Unit) (q : Measurement f s α)
    (instructions : List (Instruction f s α)) :
    ∃ result, q.calculate? instructions = some result ∧
      result.valueIn u = u.calculate (q.valueIn u) instructions := by
  induction instructions generalizing q with
  | nil => exact ⟨q, rfl, rfl⟩
  | cons instruction instructions ih =>
      obtain ⟨changed, performed, reading⟩ := Instruction.perform?_valueIn linear u q instruction
      obtain ⟨result, calculated, final⟩ := ih changed
      refine ⟨result, ?_, ?_⟩
      · rw [calculate?, List.foldlM_cons, performed]
        exact calculated
      · rw [final, reading]
        rfl

theorem Measurement.ratio_eq_ratio_valueIn [CharZero α] (pi_ne_zero : (HasPi.pi : α) ≠ 0)
    (linear : f.isLinear = true) (u : f.Unit) (a b : Measurement f .scalar α) :
    a.ratio b = (a.valueIn u).toNumber / (b.valueIn u).toNumber := by
  rw [valueIn_eq_shrink linear, valueIn_eq_shrink linear]
  obtain ⟨⟨x⟩⟩ := a
  obtain ⟨⟨y⟩⟩ := b
  exact (div_div_div_cancel_right₀ (u.slope_ne_zero pi_ne_zero) x y).symm

/-- A unit with a zero of its own breaks sums, and exactly the families without one have arithmetic. -/
theorem Family.isLinear_iff_additive [CharZero α] (f : Family) :
    (∀ (u : f.Unit) (x y : α), u.toStandard (x + y) = u.toStandard x + u.toStandard y) ↔
      f.isLinear = true := by
  constructor
  · intro additive
    cases f with
    | temperature =>
        -- Zero on the Celsius scale lies above absolute zero.
        let celsius : Family.temperature.Unit := ⟨⟨1, by decide⟩⟩
        have sum := additive celsius 0 0
        rw [add_zero, left_eq_add] at sum
        have moved : celsius.toStandard (0 : α) = 0 + Factor.eval 273.15 := rfl
        rw [moved, zero_add] at sum
        exact absurd sum (Factor.decimal_ne_zero (by decide) true 2)
    | _ => rfl
  · intro linear u x y
    simp only [Unit.toStandard_eq_mul linear, add_mul]

/-- A calculation whose operands come in any units reads, in any unit, as the same calculation with the operands
converted to that unit beforehand, and so do ratios. Exactly the families without a zero of their own allow this,
and these are the ones that have arithmetic. -/
theorem arithmetic_unit_independent [CharZero α] (pi_ne_zero : (HasPi.pi : α) ≠ 0) (f : Family) :
    (f.isLinear = true →
      (∀ (s : Shape) (u : f.Unit) (q : Measurement f s α) (instructions : List (Instruction f s α)),
        ∃ result, q.calculate? instructions = some result ∧
          result.valueIn u = u.calculate (q.valueIn u) instructions) ∧
      (∀ (u : f.Unit) (p q : Measurement f .scalar α) (first second : List (Instruction f .scalar α)),
        ∃ a b, p.calculate? first = some a ∧ q.calculate? second = some b ∧
          a.ratio b = (u.calculate (p.valueIn u) first).toNumber /
            (u.calculate (q.valueIn u) second).toNumber)) ∧
    ((∀ (u : f.Unit) (x y : α), u.toStandard (x + y) = u.toStandard x + u.toStandard y) ↔
      f.isLinear = true) := by
  refine ⟨?_, f.isLinear_iff_additive⟩
  intro linear
  constructor
  · intro s u q instructions
    exact Measurement.calculate?_valueIn linear u q instructions
  · intro u p q first second
    obtain ⟨a, reached, numerator⟩ := Measurement.calculate?_valueIn linear u p first
    obtain ⟨b, arrived, denominator⟩ := Measurement.calculate?_valueIn linear u q second
    refine ⟨a, b, reached, arrived, ?_⟩
    rw [Measurement.ratio_eq_ratio_valueIn pi_ne_zero linear u, numerator, denominator]

theorem arithmetic_unit_independent_length :
    (HasPi.pi : ℚ) ≠ 0 ∧ Family.length.isLinear = true ∧
    ∃ result, (Measurement.zero : Measurement .length .scalar ℚ).calculate?
        [.construct ⟨.scalar 2, ⟨10, by decide⟩⟩, .arithmetic (.sub ⟨.scalar 6, ⟨11, by decide⟩⟩),
          .arithmetic (.shrink 3), .arithmetic .neg, .arithmetic (.add ⟨.scalar 1, ⟨9, by decide⟩⟩)] =
        some result ∧
      (result.valueIn ⟨⟨11, by decide⟩⟩).toNumber = 30 := by
  have pi_ne_zero : (HasPi.pi : ℚ) ≠ 0 := rational_pi_pos.ne'
  obtain ⟨result, calculated, reading⟩ :=
    ((arithmetic_unit_independent pi_ne_zero .length).1 rfl).1 .scalar ⟨⟨11, by decide⟩⟩ .zero _
  refine ⟨pi_ne_zero, rfl, result, calculated, ?_⟩
  rw [reading]
  decide +kernel

end Metrology

import Metrology.Proofs.Conversion.Groupoid
import Metrology.Proofs.Quantity.Rule
import Metrology.Quantity.Value

namespace Metrology

namespace Value

variable {α : Type} [Add α] [Sub α] [Mul α] [Div α] [Neg α] [OfScientific α] [HasPi α]

def givenIn? (system : UnitSystem) : (t : ValueType) → Container α t.shape → Option (Value α)
  | .plain s, c => some ⟨.plain s, c⟩
  | .measured k, c => (k.family.consistent? system).map fun u => .measure k c u
  | .pure k, c => some ⟨.pure k, c⟩

def readIn? (system : UnitSystem) : Value α → Option (Numbers α)
  | ⟨.plain s, c⟩ => some ⟨s, c⟩
  | ⟨.measured k, c⟩ => (k.family.consistent? system).map fun u =>
      ⟨k.shape, Measurement.valueIn (f := k.family) ⟨c⟩ u⟩
  | ⟨.pure k, c⟩ => some ⟨k.shape, c⟩

end Value

/-- A tree of operators over values that are given as bare numbers and a type. -/
inductive Calculation (α : Type) where
  | given (t : ValueType) (c : Container α t.shape)
  | negated (e : Calculation α)
  | applied (op : Operator) (a b : Calculation α)

namespace Calculation

variable {α : Type}

def type? : Calculation α → Option ValueType
  | given t _ => some t
  | negated e => e.type?.filter ValueType.isNegatable
  | applied op a b => a.type?.bind fun s => b.type?.bind fun t => (Rule.find? op s t).map Rule.result

def dimensions : Calculation α → DimensionSet
  | given t _ => t.dimensions
  | negated e => e.dimensions
  | applied op a b => op.dimensions a.dimensions b.dimensions

def isMechanical : Calculation α → Bool
  | given t _ => t.isMechanical
  | negated e => e.isMechanical
  | applied _ a b => a.isMechanical && b.isMechanical

variable [Add α] [Sub α] [Mul α] [Div α] [Neg α]

/-- The calculation on the bare numbers, whatever they measure. -/
def bare? : Calculation α → Option (Numbers α)
  | given t c => some ⟨t.shape, c⟩
  | negated e => e.bare?.map Numbers.neg
  | applied op a b => a.bare?.bind fun x => b.bare?.bind fun y => Numbers.combine? op x y

/-- The calculation on quantities whose numbers are given in the units of a system. -/
def measured? [OfScientific α] [HasPi α] (system : UnitSystem) : Calculation α → Option (Value α)
  | given t c => Value.givenIn? system t c
  | negated e => (e.measured? system).bind Value.neg?
  | applied op a b =>
    (a.measured? system).bind fun x => (b.measured? system).bind fun y => Value.combine? op x y

end Calculation

variable {α : Type} [Field α] [CharZero α] [HasPi α]

theorem Measurement.ofUnit_value {f : Family} {s : Shape} {u : f.Unit} {q : ℚ}
    (known : u.row.conversion.scale? = some q) (c : Container α s) :
    (Measurement.ofUnit c u).value = c.scale (q : α) := by
  rw [value_ofUnit]
  exact Container.map_congr (Conversion.toStandard_eq_mul known) c

theorem Measurement.valueIn_scale {f : Family} {s : Shape} {u : f.Unit} {q : ℚ}
    (known : u.row.conversion.scale? = some q) (nonzero : (q : α) ≠ 0) (c : Container α s) :
    Measurement.valueIn (f := f) ⟨c.scale (q : α)⟩ u = c := by
  rw [valueIn_eq_map, Container.scale, Container.map_map]
  apply Container.map_eq_self
  intro x
  rw [Family.Unit.fromStandard, Conversion.fromStandard_eq_div known]
  exact mul_div_cancel_right₀ x nonzero

namespace UnitSystem

variable (system : UnitSystem)

def factor (α : Type) [Field α] (d : DimensionSet) : α := (system.scale d : ℚ)

omit [CharZero α] [HasPi α] in
theorem scale_factor_dimensionless {s : Shape} (c : Container α s) :
    c.scale (system.factor α .dimensionless) = c := by
  rw [factor, scale_dimensionless, Rat.cast_one, Container.scale_one]

omit [HasPi α] in
theorem factor_ne_zero (d : DimensionSet) : system.factor α d ≠ 0 :=
  Rat.cast_ne_zero.mpr (system.scale_ne_zero d)

omit [HasPi α] in
theorem factor_dimensions (op : Operator) {a b : DimensionSet} (small_a : a.IsSmall)
    (small_b : b.IsSmall) :
    system.factor α (op.dimensions a b) = op.factor (system.factor α a) (system.factor α b) := by
  cases op with
  | add => rfl
  | subtract => rfl
  | multiply =>
      change ((system.scale (a.product b) : ℚ) : α) = _
      rw [scale_product system small_a small_b, Rat.cast_mul]
      rfl
  | divide =>
      change ((system.scale (a.quotient b) : ℚ) : α) = _
      rw [scale_quotient system small_a small_b, Rat.cast_div]
      rfl

end UnitSystem

theorem Family.consistent?_of_mechanical {f : Family} (mechanical : f.isMechanical = true)
    (system : UnitSystem) :
    ∃ u, f.consistent? system = some u ∧
      u.row.conversion.scale? = some (system.scale f.dimensions) :=
  Option.bind_eq_some_iff.mp (scaleIn?_eq_scale mechanical system)

namespace Value

variable {t : ValueType}

theorem givenIn?_eq (mechanical : t.isMechanical = true) (system : UnitSystem)
    (c : Container α t.shape) :
    givenIn? system t c = some ⟨t, c.scale (system.factor α t.dimensions)⟩ := by
  cases t with
  | plain s =>
      have whole := system.scale_factor_dimensionless c
      exact congrArg (fun c => some (Value.mk (.plain s) c)) whole.symm
  | measured k =>
      obtain ⟨u, unit, known⟩ := Family.consistent?_of_mechanical mechanical system
      have stored := Measurement.ofUnit_value (α := α) known c
      rw [givenIn?, unit, Option.map_some]
      exact congrArg (fun c => some (Value.mk (.measured k) c)) stored
  | pure k =>
      have whole := system.scale_factor_dimensionless c
      exact congrArg (fun c => some (Value.mk (.pure k) c)) whole.symm

theorem readIn?_scale (mechanical : t.isMechanical = true) (system : UnitSystem)
    (c : Container α t.shape) :
    readIn? system ⟨t, c.scale (system.factor α t.dimensions)⟩ = some ⟨t.shape, c⟩ := by
  cases t with
  | plain s =>
      exact congrArg (fun c => some (Numbers.mk s c)) (system.scale_factor_dimensionless c)
  | measured k =>
      obtain ⟨u, unit, known⟩ := Family.consistent?_of_mechanical mechanical system
      have back : Measurement.valueIn (f := k.family) ⟨c.scale (system.factor α k.dimensions)⟩ u = c :=
        Measurement.valueIn_scale known (system.factor_ne_zero _) c
      rw [readIn?, unit, Option.map_some]
      exact congrArg (fun c => some (Numbers.mk k.shape c)) back
  | pure k =>
      exact congrArg (fun c => some (Numbers.mk k.shape c)) (system.scale_factor_dimensionless c)

end Value

namespace Calculation

/-- What a calculation of some type comes to: bare numbers, and a value that is their multiple by the scale of
its dimension. -/
structure ComesTo (system : UnitSystem) (e : Calculation α) (t : ValueType) (c : Container α t.shape) :
    Prop where
  bare : e.bare? = some ⟨t.shape, c⟩
  measured : e.measured? system = some ⟨t, c.scale (system.factor α t.dimensions)⟩
  dimensions : t.dimensions = e.dimensions
  mechanical : t.isMechanical = true

variable {system : UnitSystem} {t : ValueType}

theorem comesTo_given (mechanical : t.isMechanical = true) (c : Container α t.shape) :
    (given t c).ComesTo system t c where
  bare := rfl
  measured := Value.givenIn?_eq mechanical system c
  dimensions := rfl
  mechanical := mechanical

omit [CharZero α] in
theorem ComesTo.negated {e : Calculation α} {c : Container α t.shape} (operand : e.ComesTo system t c)
    (negatable : t.isNegatable = true) : e.negated.ComesTo system t (-c) where
  bare := by
    rw [bare?, operand.bare]
    rfl
  measured := by
    rw [measured?, operand.measured, Option.bind_some, Value.neg?, if_pos negatable, Container.neg_scale]
  dimensions := operand.dimensions
  mechanical := operand.mechanical

theorem ComesTo.applied {op : Operator} {a b : Calculation α} {s t : ValueType} {rule : Rule s t}
    {x : Container α s.shape} {y : Container α t.shape} (found : Rule.find? op s t = some rule)
    (left : a.ComesTo system s x) (right : b.ComesTo system t y) :
    (applied op a b).ComesTo system rule.result (rule.combination.run x y) := by
  have coherent := Rule.find?_isCoherent found
  obtain ⟨operator, balanced, dimensions, mechanical⟩ := coherent
  have factors : (op.isAdditive = true → system.factor α s.dimensions = system.factor α t.dimensions) :=
    fun additive => congrArg (system.factor α) (balanced additive)
  refine ⟨?_, ?_, ?_, mechanical left.mechanical right.mechanical⟩
  · rw [bare?, left.bare, right.bare, Option.bind_some, Option.bind_some, ← operator]
    exact rule.combination.combine?_operator x y
  · rw [measured?, left.measured, right.measured, Option.bind_some, Option.bind_some, Value.combine?,
      found, Option.map_some, ← dimensions,
      system.factor_dimensions op s.dimensions_isSmall t.dimensions_isSmall]
    subst op
    rw [rule.combination.run_scale factors]
  · rw [Calculation.dimensions, ← left.dimensions, ← right.dimensions, dimensions]

theorem exists_comesTo (system : UnitSystem) (e : Calculation α) {t : ValueType} (typed : e.type? = some t)
    (mechanical : e.isMechanical = true) : ∃ c, e.ComesTo system t c := by
  -- Over the tree; what is kept is that stored and bare numbers stay in proportion.
  induction e generalizing t with
  | given s c =>
      cases typed
      exact ⟨c, comesTo_given mechanical c⟩
  | negated e ih =>
      obtain ⟨operand, negatable⟩ := Option.filter_eq_some_iff.mp typed
      obtain ⟨c, comes⟩ := ih operand mechanical
      exact ⟨-c, comes.negated negatable⟩
  | applied op a b iha ihb =>
      simp only [isMechanical, Bool.and_eq_true] at mechanical
      obtain ⟨s, left, rest⟩ := Option.bind_eq_some_iff.mp typed
      obtain ⟨t, right, rest⟩ := Option.bind_eq_some_iff.mp rest
      obtain ⟨rule, found, rfl⟩ := Option.map_eq_some_iff.mp rest
      obtain ⟨x, comes_left⟩ := iha left mechanical.1
      obtain ⟨y, comes_right⟩ := ihb right mechanical.2
      exact ⟨rule.combination.run x y, comes_left.applied found comes_right⟩

end Calculation

/-- Every declared relation is an operator of calculations, and every calculation, given and read in the
units of a system, is the same calculation on the bare numbers. A quotient by zero is zero in a field, for
quantities as for bare numbers, so divisors need no condition. -/
theorem calculation_coherent (system : UnitSystem) :
    (∀ r ∈ relations,
      Rule.find? r.operator r.lhs r.rhs = some ⟨r.result, r.combination⟩ ∧ r.isCoherent = true) ∧
    ∀ (e : Calculation α) (t : ValueType), e.type? = some t → e.isMechanical = true →
      ∃ (c : Container α t.shape) (numbers : Numbers α),
        e.measured? system = some ⟨t, c⟩ ∧
        e.bare? = some numbers ∧
        Value.readIn? system ⟨t, c⟩ = some numbers ∧
        t.dimensions = e.dimensions := by
  constructor
  · intro r member
    refine ⟨Rule.find?_relation r member, ?_⟩
    exact beq_iff_eq.mpr (Rule.relations_isCoherent r member).dimensions
  · intro e t typed mechanical
    obtain ⟨c, comes⟩ := e.exists_comesTo system typed mechanical
    exact ⟨_, _, comes.measured, comes.bare, Value.readIn?_scale comes.mechanical system c,
      comes.dimensions⟩

theorem calculation_coherent_traction :
    ∃ c : Container ℚ .vector,
      (Calculation.applied .divide
          (.applied .multiply (.given (.measured (.scalar .mass)) (.scalar 3))
            (.given (.measured (.vector .acceleration)) (.vector ⟨0, 0, -2⟩)))
          (.given (.measured (.scalar .area)) (.scalar 4))).measured? .footPoundSecondRankine =
        some ⟨.measured (.vector .traction), c⟩ ∧
      (Value.readIn? .footPoundSecondRankine ⟨.measured (.vector .traction), c⟩).map
        (fun numbers => numbers.container.toList) = some [0, 0, -3 / 2] := by
  obtain ⟨c, numbers, measured, bare, read, -⟩ :=
    (calculation_coherent (α := ℚ) .footPoundSecondRankine).2
      (.applied .divide
        (.applied .multiply (.given (.measured (.scalar .mass)) (.scalar 3))
          (.given (.measured (.vector .acceleration)) (.vector ⟨0, 0, -2⟩)))
        (.given (.measured (.scalar .area)) (.scalar 4)))
      (.measured (.vector .traction)) (by decide +kernel) (by decide)
  refine ⟨c, measured, ?_⟩
  rw [read, ← bare]
  decide +kernel

end Metrology

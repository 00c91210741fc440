import Mathlib.Tactic.NormNum.OfScientific
import Metrology.Proofs.Measurement.Arithmetic
import Metrology.Proofs.Quantity.Rule
import Metrology.Quantity.Physics

namespace Metrology

section

variable (α : Type) [Field α] [HasPi α]

/-- A kind whose values are the products of the scalars of one kind with the values of another. -/
structure Kind.IsProduct (c : Kind) (a : ScalarKind) (b : Kind) : Prop where
  multiply : ∀ (x : α) (u : a.family.Unit) (y : Container α b.shape) (w : b.family.Unit),
    ∃ product : Quantity c α,
      (Value.measure (.scalar a) (.scalar x) u).combine? .multiply (.measure b y w) =
        some (.ofQuantity product) ∧
      (Value.measure b y w).combine? .multiply (.measure (.scalar a) (.scalar x) u) =
        some (.ofQuantity product) ∧
      (x ≠ 0 → (Value.ofQuantity product).combine? .divide (.measure (.scalar a) (.scalar x) u) =
        some (.measure b y w))
  divide : ∀ (z : Container α c.shape) (v : c.family.Unit) (x : α) (u : a.family.Unit), x ≠ 0 →
    ∃ quotient : Quantity b α,
      (Value.measure c z v).combine? .divide (.measure (.scalar a) (.scalar x) u) =
        some (.ofQuantity quotient) ∧
      (Value.ofQuantity quotient).combine? .multiply (.measure (.scalar a) (.scalar x) u) =
        some (.measure c z v)

/-- A kind of vector whose values are the directions times the scalars of one kind. -/
def VectorKind.IsDirected (c : VectorKind) (a : ScalarKind) : Prop :=
  ∀ (x : α) (u : a.family.Unit) (n : Vector3 α), ∃ product : Quantity (.vector c) α,
    (Value.measure (.scalar a) (.scalar x) u).combine? .multiply ⟨.direction, .vector n⟩ =
      some (.ofQuantity product) ∧
    Value.combine? .multiply ⟨.direction, .vector n⟩ (.measure (.scalar a) (.scalar x) u) =
      some (.ofQuantity product) ∧
    (n.magnitudeSquared = 1 →
      product.components.magnitudeSquared =
        Quantity.number (k := a) (.ofUnit (.scalar x) u) ^ 2)

/-- Two kinds of scalar each of which is a number divided by the other. -/
structure ScalarKind.IsReciprocal (a b : ScalarKind)
    (there : Quantity (.scalar a) α → Quantity (.scalar b) α)
    (back : Quantity (.scalar b) α → Quantity (.scalar a) α) : Prop where
  one : ∀ q, (Value.ofNumber 1).combine? .divide (.ofQuantity q) = some (.ofQuantity (there q))
  inverse : ∀ (x : α) (u : a.family.Unit), x ≠ 0 →
    Quantity.number (k := b) (there (.ofUnit (.scalar x) u)) ≠ 0 ∧
    back (there (.ofUnit (.scalar x) u)) = .ofUnit (.scalar x) u
  divide : ∀ (k x : α) (u : a.family.Unit), k ≠ 0 → x ≠ 0 →
    ∃ quotient : Quantity (.scalar b) α, Quantity.number (k := b) quotient ≠ 0 ∧
      (Value.ofNumber k).combine? .divide (.measure (.scalar a) (.scalar x) u) =
        some (.ofQuantity quotient) ∧
      (Value.ofNumber k).combine? .divide (.ofQuantity quotient) =
        some (.measure (.scalar a) (.scalar x) u)

end

namespace Rule

/-- The rules of a product in both orders and of the quotient that undoes it. -/
structure Undoes (c : Kind) (a : ScalarKind) (b : Kind) (left : Combination .scalar b.shape c.shape)
    (right : Combination b.shape .scalar c.shape)
    (quotient : Combination c.shape .scalar b.shape) : Prop where
  left : find? .multiply (.measured (.scalar a)) (.measured b) = some ⟨.measured c, left⟩
  right : find? .multiply (.measured b) (.measured (.scalar a)) = some ⟨.measured c, right⟩
  quotient : find? .divide (.measured c) (.measured (.scalar a)) = some ⟨.measured b, quotient⟩

theorem find?_declared {β : Type} {table : List β} {expand : β → List Relation}
    (listed : table.flatMap expand ⊆ relations) {p : β} (declared : p ∈ table) :
    ∀ r ∈ expand p, find? r.operator r.lhs r.rhs = some ⟨r.result, r.combination⟩ := by
  intro r member
  apply find?_relation
  exact listed (List.mem_flatMap.mpr ⟨p, declared, member⟩)

theorem undoes_scalar {c a b : ScalarKind} (declared : (c, a, b) ∈ scalarProducts) :
    Undoes (.scalar c) a (.scalar b) .scaled .scaled .shrunk ∧
      Undoes (.scalar c) b (.scalar a) .scaled .scaled .shrunk := by
  have listed : scalarProducts.flatMap (fun p => Relation.scalar p.1 p.2.1 p.2.2) ⊆ relations := by
    intro r member
    simp [relations, member]
  have found := find?_declared listed declared
  simp only [Relation.scalar, List.forall_mem_cons] at found
  exact ⟨⟨found.1, found.2.1, found.2.2.1⟩, ⟨found.2.1, found.1, found.2.2.2.1⟩⟩

theorem undoes_square {c a : ScalarKind} (declared : (c, a) ∈ squareProducts) :
    Undoes (.scalar c) a (.scalar a) .scaled .scaled .shrunk := by
  have listed : squareProducts.flatMap (fun p => Relation.square p.1 p.2) ⊆ relations := by
    intro r member
    simp [relations, member]
  have found := find?_declared listed declared
  simp only [Relation.square, List.forall_mem_cons] at found
  exact ⟨found.1, found.1, found.2.1⟩

theorem undoes_scaled {c b : VectorKind} {a : ScalarKind} (declared : (c, a, b) ∈ vectorProducts) :
    Undoes (.vector c) a (.vector b) .multiple .scaled .shrunk := by
  have listed : vectorProducts.flatMap (fun p => Relation.scaled p.1 p.2.1 p.2.2) ⊆ relations := by
    intro r member
    simp [relations, member]
  have found := find?_declared listed declared
  simp only [Relation.scaled, List.forall_mem_cons] at found
  exact ⟨found.1, found.2.1, found.2.2.1⟩

theorem directional_rules {c : VectorKind} {a : ScalarKind} (declared : (c, a) ∈ directionProducts) :
    find? .multiply (.measured (.scalar a)) .direction = some ⟨.measured (.vector c), .multiple⟩ ∧
      find? .multiply .direction (.measured (.scalar a)) = some ⟨.measured (.vector c), .scaled⟩ := by
  have listed : directionProducts.flatMap (fun p => Relation.directional p.1 p.2) ⊆ relations := by
    intro r member
    simp [relations, member]
  have found := find?_declared listed declared
  simp only [Relation.directional, List.forall_mem_cons] at found
  exact ⟨found.1, found.2.1⟩

end Rule

namespace Combination

variable {α : Type} {s : Shape}

theorem multiple_run [Add α] [Sub α] [Mul α] [Div α] (x : Container α .scalar) (y : Container α s) :
    multiple.run x y = scaled.run y x := by
  cases x
  rfl

theorem scaled_run_comm [Add α] [Sub α] [Mul α] [Div α] (commutes : ∀ a b : α, a * b = b * a)
    (x y : Container α .scalar) : scaled.run x y = scaled.run y x := by
  cases x with | scalar a => cases y with | scalar b => exact congrArg Container.scalar (commutes a b)

variable [Field α] {x : Container α .scalar}

theorem shrunk_run_scaled (nonzero : x.toNumber ≠ 0) (y : Container α s) :
    shrunk.run (scaled.run y x) x = y := by
  cases x with
  | scalar a =>
      change (y.map (· * a)).map (· / a) = y
      rw [Container.map_map]
      exact Container.map_eq_self (fun b => mul_div_cancel_right₀ b nonzero) y

theorem scaled_run_shrunk (nonzero : x.toNumber ≠ 0) (y : Container α s) :
    scaled.run (shrunk.run y x) x = y := by
  cases x with
  | scalar a =>
      change (y.map (· / a)).map (· * a) = y
      rw [Container.map_map]
      exact Container.map_eq_self (fun b => div_mul_cancel₀ b nonzero) y

end Combination

theorem Value.combine?_eq {α : Type} [Add α] [Sub α] [Mul α] [Div α] [Neg α] {op : Operator}
    {a b c : ValueType} {combination : Combination a.shape b.shape c.shape}
    (found : Rule.find? op a b = some ⟨c, combination⟩) (x : Container α a.shape) (y : Container α b.shape) :
    Value.combine? op ⟨a, x⟩ ⟨b, y⟩ = some ⟨c, combination.run x y⟩ := by
  simp [combine?, found]

section

variable {α : Type} [Field α] [HasPi α] [CharZero α]

theorem Measurement.value_ofUnit_ne_zero (pi_ne_zero : (HasPi.pi : α) ≠ 0) {f : Family}
    (linear : f.isLinear = true) (u : f.Unit) {x : α} (nonzero : x ≠ 0) :
    (Measurement.ofUnit (.scalar x) u : Measurement f .scalar α).value.toNumber ≠ 0 := by
  rw [value_ofUnit]
  change u.toStandard x ≠ 0
  rw [u.toStandard_eq_mul linear]
  exact mul_ne_zero nonzero (u.slope_ne_zero pi_ne_zero)

theorem Kind.isProduct_of_rules (pi_ne_zero : (HasPi.pi : α) ≠ 0) {c b : Kind} {a : ScalarKind}
    (linear : a.family.isLinear = true) {left : Combination .scalar b.shape c.shape}
    {right : Combination b.shape .scalar c.shape} {quotient : Combination c.shape .scalar b.shape}
    (rules : Rule.Undoes c a b left right quotient)
    (exchange : ∀ (x : Container α .scalar) y, left.run x y = right.run y x)
    (undo : ∀ (x : Container α .scalar) y, x.toNumber ≠ 0 → quotient.run (right.run y x) x = y)
    (redo : ∀ (x : Container α .scalar) z, x.toNumber ≠ 0 → right.run (quotient.run z x) x = z) :
    c.IsProduct α a b := by
  constructor
  · intro x u y w
    let factor := (Measurement.ofUnit (.scalar x) u : Quantity (.scalar a) α).value
    let stored := (Measurement.ofUnit y w : Quantity b α).value
    refine ⟨⟨right.run stored factor⟩, ?_, Value.combine?_eq rules.right stored factor, ?_⟩
    · calc (Value.measure (.scalar a) (.scalar x) u).combine? .multiply (.measure b y w)
          = some ⟨.measured c, left.run factor stored⟩ := Value.combine?_eq rules.left factor stored
        _ = some ⟨.measured c, right.run stored factor⟩ :=
            congrArg (fun r => some (Value.mk (.measured c) r)) (exchange factor stored)
    · intro nonzero
      have divisor : factor.toNumber ≠ 0 := Measurement.value_ofUnit_ne_zero pi_ne_zero linear u nonzero
      calc Value.combine? .divide ⟨.measured c, right.run stored factor⟩ (.measure (.scalar a) (.scalar x) u)
          = some ⟨.measured b, quotient.run (right.run stored factor) factor⟩ :=
            Value.combine?_eq rules.quotient _ factor
        _ = some ⟨.measured b, stored⟩ :=
            congrArg (fun r => some (Value.mk (.measured b) r)) (undo factor stored divisor)
  · intro z v x u nonzero
    let factor := (Measurement.ofUnit (.scalar x) u : Quantity (.scalar a) α).value
    let stored := (Measurement.ofUnit z v : Quantity c α).value
    have divisor : factor.toNumber ≠ 0 := Measurement.value_ofUnit_ne_zero pi_ne_zero linear u nonzero
    refine ⟨⟨quotient.run stored factor⟩, Value.combine?_eq rules.quotient stored factor, ?_⟩
    calc Value.combine? .multiply ⟨.measured b, quotient.run stored factor⟩
          (.measure (.scalar a) (.scalar x) u)
        = some ⟨.measured c, right.run (quotient.run stored factor) factor⟩ :=
          Value.combine?_eq rules.right _ factor
      _ = some ⟨.measured c, stored⟩ :=
          congrArg (fun r => some (Value.mk (.measured c) r)) (redo factor stored divisor)

omit [HasPi α] [CharZero α] in
theorem Vector3.magnitudeSquared_scale (v : Vector3 α) (a : α) :
    (v.scale a).magnitudeSquared = v.magnitudeSquared * a ^ 2 := by
  simp only [magnitudeSquared, dot, scale, map]
  ring

omit [CharZero α] in
theorem VectorKind.isDirected {c : VectorKind} {a : ScalarKind} (declared : (c, a) ∈ directionProducts) :
    c.IsDirected α a := by
  intro x u n
  let q : Quantity (.scalar a) α := .ofUnit (.scalar x) u
  have rules := Rule.directional_rules declared
  refine ⟨⟨Combination.scaled.run (.vector n) q.value⟩, ?_, ?_, ?_⟩
  · calc (Value.ofQuantity q).combine? .multiply ⟨.direction, .vector n⟩
        = some ⟨.measured (.vector c), Combination.multiple.run q.value (.vector n)⟩ :=
          Value.combine?_eq rules.1 q.value (.vector n)
      _ = some ⟨.measured (.vector c), Combination.scaled.run (.vector n) q.value⟩ :=
          congrArg (fun r => some (Value.mk (.measured (.vector c)) r)) (Combination.multiple_run q.value _)
  · exact Value.combine?_eq rules.2 (.vector n) q.value
  · intro unit
    have number : Combination.scaled.run (.vector n) q.value = .vector (n.scale (Quantity.number q)) := by
      obtain ⟨⟨a⟩⟩ := q
      rfl
    change (Container.toVector (Combination.scaled.run (.vector n) q.value)).magnitudeSquared = _
    rw [number]
    calc (n.scale (Quantity.number q)).magnitudeSquared
        = n.magnitudeSquared * Quantity.number q ^ 2 := n.magnitudeSquared_scale _
      _ = Quantity.number q ^ 2 := by rw [unit, one_mul]

omit [HasPi α] [CharZero α] in
theorem Value.combine?_divide {a b : ScalarKind}
    (found : Rule.find? .divide .number (.measured (.scalar a)) = some ⟨.measured (.scalar b), .shrunk⟩)
    (k : α) (q : Quantity (.scalar a) α) :
    (Value.ofNumber k).combine? .divide (.ofQuantity q) =
      some (.ofQuantity (Quantity.ofNumber (k := b) (k / q.number))) := by
  obtain ⟨⟨x⟩⟩ := q
  exact combine?_eq found (.scalar k) (.scalar x)

theorem ScalarKind.isReciprocal (pi_ne_zero : (HasPi.pi : α) ≠ 0) {a b : ScalarKind}
    (linear : a.family.isLinear = true)
    (there : Rule.find? .divide .number (.measured (.scalar a)) = some ⟨.measured (.scalar b), .shrunk⟩)
    (back : Rule.find? .divide .number (.measured (.scalar b)) = some ⟨.measured (.scalar a), .shrunk⟩) :
    a.IsReciprocal α b (fun q => Quantity.ofNumber (1.0 / q.number))
      (fun q => Quantity.ofNumber (1.0 / q.number)) := by
  have one : (1.0 : α) = 1 := by norm_num
  have again : ∀ (k : α) (q : Quantity (.scalar a) α), k ≠ 0 →
      Quantity.ofNumber (k / Quantity.number (Quantity.ofNumber (k := b) (k / q.number))) = q := by
    intro k q factor
    obtain ⟨⟨x⟩⟩ := q
    exact congrArg Quantity.ofNumber (div_div_cancel₀ factor)
  constructor
  · intro q
    rw [Value.combine?_divide there, one]
  · intro x u nonzero
    have divisor : Quantity.number (k := a) (.ofUnit (.scalar x) u) ≠ 0 :=
      Measurement.value_ofUnit_ne_zero pi_ne_zero linear u nonzero
    rw [one]
    exact ⟨div_ne_zero one_ne_zero divisor, again 1 _ one_ne_zero⟩
  · intro k x u factor nonzero
    let q : Quantity (.scalar a) α := .ofUnit (.scalar x) u
    have divisor : q.number ≠ 0 := Measurement.value_ofUnit_ne_zero pi_ne_zero linear u nonzero
    refine ⟨.ofNumber (k / q.number), div_ne_zero factor divisor, Value.combine?_divide there k q, ?_⟩
    rw [Value.combine?_divide back, again k q factor]
    rfl

end

section

variable {α : Type} [Add α] [Sub α] [Mul α] [Div α] [Neg α]

theorem Value.combine?_exchange {a b c : ValueType} {left : Combination a.shape b.shape c.shape}
    {right : Combination b.shape a.shape c.shape} (there : Rule.find? .multiply a b = some ⟨c, left⟩)
    (back : Rule.find? .multiply b a = some ⟨c, right⟩) (x : Container α a.shape) (y : Container α b.shape)
    (same : left.run x y = right.run y x) :
    ∃ z : Container α c.shape, combine? .multiply ⟨a, x⟩ ⟨b, y⟩ = some ⟨c, z⟩ ∧
      combine? .multiply ⟨b, y⟩ ⟨a, x⟩ = some ⟨c, z⟩ := by
  refine ⟨left.run x y, combine?_eq there x y, ?_⟩
  rw [combine?_eq back, same]

/-- Exchanging the factors of a declared product needs nothing of the numbers but that their products
commute. -/
theorem Relation.multiply_comm (commutes : ∀ p q : α, p * q = q * p) {r : Relation} (member : r ∈ relations)
    (product : r.operator = .multiply) (x : Container α r.lhs.shape) (y : Container α r.rhs.shape) :
    ∃ z : Container α r.result.shape, Value.combine? .multiply ⟨r.lhs, x⟩ ⟨r.rhs, y⟩ = some ⟨r.result, z⟩ ∧
      Value.combine? .multiply ⟨r.rhs, y⟩ ⟨r.lhs, x⟩ = some ⟨r.result, z⟩ := by
  simp only [relations, List.mem_append, List.mem_flatMap] at member
  rcases member with ((⟨⟨c, a, b⟩, declared, member⟩ | ⟨⟨c, a⟩, declared, member⟩) |
    ⟨⟨c, a, b⟩, declared, member⟩) | ⟨⟨c, a⟩, declared, member⟩
  · have rules := (Rule.undoes_scalar declared).1
    simp only [scalar, List.mem_cons, List.not_mem_nil, or_false] at member
    rcases member with rfl | rfl | rfl | rfl
    · exact Value.combine?_exchange rules.left rules.right x y (Combination.scaled_run_comm commutes x y)
    · exact Value.combine?_exchange rules.right rules.left x y (Combination.scaled_run_comm commutes x y)
    · cases product
    · cases product
  · have rules := Rule.undoes_square declared
    simp only [square, List.mem_cons, List.not_mem_nil, or_false] at member
    rcases member with rfl | rfl
    · exact Value.combine?_exchange rules.left rules.right x y (Combination.scaled_run_comm commutes x y)
    · cases product
  · have rules := Rule.undoes_scaled declared
    simp only [scaled, List.mem_cons, List.not_mem_nil, or_false] at member
    rcases member with rfl | rfl | rfl
    · exact Value.combine?_exchange rules.left rules.right x y (Combination.multiple_run x y)
    · exact Value.combine?_exchange rules.right rules.left x y (Combination.multiple_run y x).symm
    · cases product
  · have rules := Rule.directional_rules declared
    simp only [directional, List.mem_cons, List.not_mem_nil, or_false] at member
    rcases member with rfl | rfl
    · exact Value.combine?_exchange rules.1 rules.2 x y (Combination.multiple_run x y)
    · exact Value.combine?_exchange rules.2 rules.1 x y (Combination.multiple_run y x).symm

end

theorem scalarProducts_isLinear : ∀ p ∈ scalarProducts,
    p.2.1.family.isLinear = true ∧ p.2.2.family.isLinear = true := by
  decide

theorem Kind.isProduct_scalar {α : Type} [Field α] [HasPi α] [CharZero α] (pi_ne_zero : (HasPi.pi : α) ≠ 0)
    {c a b : ScalarKind} (linear : a.family.isLinear = true)
    (rules : Rule.Undoes (.scalar c) a (.scalar b) .scaled .scaled .shrunk) :
    Kind.IsProduct α (.scalar c) a (.scalar b) :=
  isProduct_of_rules pi_ne_zero linear rules (Combination.scaled_run_comm mul_comm)
    (fun _ y nonzero => Combination.shrunk_run_scaled nonzero y)
    (fun _ y nonzero => Combination.scaled_run_shrunk nonzero y)

/-- Every declared product can be undone: a factor that is not zero is divided out again, whatever units the operands
came in, and a time and the frequency it is the period of determine each other. The two orders of a product agree as
soon as numbers commute. -/
theorem products_undone_by_quotients {α : Type} [Field α] [CharZero α] [HasPi α]
    (pi_ne_zero : (HasPi.pi : α) ≠ 0) :
    (∀ c a b, (c, a, b) ∈ scalarProducts →
      Kind.IsProduct α (.scalar c) a (.scalar b) ∧ Kind.IsProduct α (.scalar c) b (.scalar a)) ∧
    (∀ c a, (c, a) ∈ squareProducts → Kind.IsProduct α (.scalar c) a (.scalar a)) ∧
    (∀ c a b, (c, a, b) ∈ vectorProducts → Kind.IsProduct α (.vector c) a (.vector b)) ∧
    (∀ c a, (c, a) ∈ directionProducts → VectorKind.IsDirected α c a) ∧
    ScalarKind.IsReciprocal α .time .frequency Quantity.reciprocal Quantity.period ∧
    ScalarKind.IsReciprocal α .frequency .time Quantity.period Quantity.reciprocal ∧
    (∀ (β : Type) [Add β] [Sub β] [Mul β] [Div β] [Neg β], (∀ p q : β, p * q = q * p) →
      ∀ r ∈ relations, r.operator = .multiply →
      ∀ (x : Container β r.lhs.shape) (y : Container β r.rhs.shape), ∃ z : Container β r.result.shape,
        Value.combine? .multiply ⟨r.lhs, x⟩ ⟨r.rhs, y⟩ = some ⟨r.result, z⟩ ∧
        Value.combine? .multiply ⟨r.rhs, y⟩ ⟨r.lhs, x⟩ = some ⟨r.result, z⟩) := by
  refine ⟨?_, ?_, ?_, ?_, ?_, ?_, ?_⟩
  · intro c a b declared
    have linear := scalarProducts_isLinear _ declared
    have rules := Rule.undoes_scalar declared
    exact ⟨Kind.isProduct_scalar pi_ne_zero linear.1 rules.1,
      Kind.isProduct_scalar pi_ne_zero linear.2 rules.2⟩
  · intro c a declared
    have linear : ∀ p ∈ squareProducts, p.2.family.isLinear = true := by decide
    exact Kind.isProduct_scalar pi_ne_zero (linear _ declared) (Rule.undoes_square declared)
  · intro c a b declared
    have linear : ∀ p ∈ vectorProducts, p.2.1.family.isLinear = true := by decide
    exact Kind.isProduct_of_rules pi_ne_zero (linear _ declared) (Rule.undoes_scaled declared)
      Combination.multiple_run (fun _ y nonzero => Combination.shrunk_run_scaled nonzero y)
      (fun _ y nonzero => Combination.scaled_run_shrunk nonzero y)
  · intro c a declared
    exact VectorKind.isDirected declared
  · exact ScalarKind.isReciprocal pi_ne_zero rfl rfl rfl
  · exact ScalarKind.isReciprocal pi_ne_zero rfl rfl rfl
  · intro β _ _ _ _ _ commutes r member product x y
    exact Relation.multiply_comm commutes member product x y

theorem products_undone_by_quotients_travel :
    (HasPi.pi : ℚ) ≠ 0 ∧ (.length, .speed, .time) ∈ scalarProducts ∧ (36 : ℚ) ≠ 0 ∧
    ∃ travelled : Quantity (.scalar .length) ℚ,
      (Value.measure (.scalar .speed) (.scalar 36) ⟨⟨4, by decide⟩⟩).combine? .multiply
        (.measure (.scalar .time) (.scalar 2) ⟨⟨4, by decide⟩⟩) = some (.ofQuantity travelled) ∧
      (Value.measure (.scalar .time) (.scalar 2) ⟨⟨4, by decide⟩⟩).combine? .multiply
        (.measure (.scalar .speed) (.scalar 36) ⟨⟨4, by decide⟩⟩) = some (.ofQuantity travelled) ∧
      (Value.ofQuantity travelled).combine? .divide
        (.measure (.scalar .speed) (.scalar 36) ⟨⟨4, by decide⟩⟩) =
          some (.measure (.scalar .time) (.scalar (2 : ℚ)) ⟨⟨4, by decide⟩⟩) := by
  have pi_ne_zero : (HasPi.pi : ℚ) ≠ 0 := rational_pi_pos.ne'
  have declared : (.length, .speed, .time) ∈ scalarProducts := by decide
  have nonzero : (36 : ℚ) ≠ 0 := by norm_num
  have law := ((products_undone_by_quotients pi_ne_zero).1 .length .speed .time declared).1
  obtain ⟨travelled, product, exchanged, undone⟩ :=
    law.multiply 36 ⟨⟨4, by decide⟩⟩ (.scalar 2) ⟨⟨4, by decide⟩⟩
  exact ⟨pi_ne_zero, declared, nonzero, travelled, product, exchanged, undone nonzero⟩

end Metrology

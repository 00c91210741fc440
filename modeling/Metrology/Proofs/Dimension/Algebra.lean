import Metrology.Dimension.Set

/-!
The algebra of dimensions: products, quotients and powers obey the laws of an abelian group, and the order is
lexicographic. Exponents wrap around at the ends of their range; the laws of the group hold there too, but
only where no exponent leaves the range are they those of integers, and only there do products keep the order.
-/

namespace Metrology

theorem BaseDimension.mem_all (base : BaseDimension) : base ∈ all := by
  cases base <;> decide

theorem compare_eq_lt_iff_lex {α : Type} [Ord α] [LT α] [LE α] [Std.LawfulOrderOrd α] [Std.LawfulOrderLT α]
    [Std.LawfulEqOrd α] (xs ys : List α) : compare xs ys = .lt ↔ List.Lex (· < ·) xs ys := by
  induction xs generalizing ys with
  | nil => cases ys <;> simp
  | cons x xs ih =>
      cases ys with
      | nil => simp
      | cons y ys =>
          rw [List.compare_cons_cons, List.cons_lex_cons_iff, Ordering.then_eq_lt, ih, Std.compare_eq_lt,
            Std.compare_eq_iff_eq]

namespace DimensionSet

@[simp] theorem exponent_dimensionless (base : BaseDimension) : dimensionless.exponent base = 0 := by
  cases base <;> rfl

@[simp] theorem exponent_product (a b : DimensionSet) (base : BaseDimension) :
    (a.product b).exponent base = a.exponent base + b.exponent base := by
  simp [product]

@[simp] theorem exponent_quotient (a b : DimensionSet) (base : BaseDimension) :
    (a.quotient b).exponent base = a.exponent base - b.exponent base := by
  simp [quotient]

@[simp] theorem exponent_power (a : DimensionSet) (n : Int8) (base : BaseDimension) :
    (a.power n).exponent base = a.exponent base * n := by
  simp [power]

def IsExponent (n : Int) : Prop := -128 ≤ n ∧ n ≤ 127

instance (n : Int) : Decidable (IsExponent n) := inferInstanceAs (Decidable (_ ∧ _))

theorem IsExponent.bmod_eq {n : Int} (inside : IsExponent n) : n.bmod 256 = n := by
  obtain ⟨least, greatest⟩ := inside
  apply Int.bmod_eq_of_le <;> omega

theorem toInt_exponent_product {a b : DimensionSet} {base : BaseDimension}
    (inside : IsExponent ((a.exponent base).toInt + (b.exponent base).toInt)) :
    ((a.product b).exponent base).toInt = (a.exponent base).toInt + (b.exponent base).toInt := by
  rw [exponent_product, Int8.toInt_add]
  exact inside.bmod_eq

theorem toInt_exponent_quotient {a b : DimensionSet} {base : BaseDimension}
    (inside : IsExponent ((a.exponent base).toInt - (b.exponent base).toInt)) :
    ((a.quotient b).exponent base).toInt = (a.exponent base).toInt - (b.exponent base).toInt := by
  rw [exponent_quotient, Int8.toInt_sub]
  exact inside.bmod_eq

theorem toInt_exponent_power {a : DimensionSet} {n : Int8} {base : BaseDimension}
    (inside : IsExponent ((a.exponent base).toInt * n.toInt)) :
    ((a.power n).exponent base).toInt = (a.exponent base).toInt * n.toInt := by
  rw [exponent_power, Int8.toInt_mul]
  exact inside.bmod_eq

section

variable (a b c : DimensionSet) (m n : Int8)

theorem product_dimensionless : a.product dimensionless = a := by
  apply ext_exponent
  simp

theorem dimensionless_product : dimensionless.product a = a := by
  apply ext_exponent
  simp

theorem quotient_dimensionless : a.quotient dimensionless = a := by
  apply ext_exponent
  simp

theorem quotient_self : a.quotient a = dimensionless := by
  apply ext_exponent
  simp

theorem product_assoc : (a.product b).product c = a.product (b.product c) := by
  apply ext_exponent
  simp [Int8.add_assoc]

theorem product_comm : a.product b = b.product a := by
  apply ext_exponent
  simp [Int8.add_comm]

theorem quotient_product : (a.product b).quotient b = a := by
  apply ext_exponent
  simp [Int8.add_sub_cancel]

theorem product_quotient : (a.quotient b).product b = a := by
  apply ext_exponent
  simp [Int8.sub_add_cancel]

theorem power_add : a.power (m + n) = (a.power m).product (a.power n) := by
  apply ext_exponent
  simp [Int8.mul_add]

theorem power_power : (a.power m).power n = a.power (m * n) := by
  apply ext_exponent
  simp [Int8.mul_assoc]

theorem power_product : (a.product b).power n = (a.power n).product (b.power n) := by
  apply ext_exponent
  simp [Int8.add_mul]

theorem power_neg_one : a.power (-1) = dimensionless.quotient a := by
  apply ext_exponent
  simp [Int8.mul_neg]

theorem isDimensionless_iff : a.isDimensionless = true ↔ a = dimensionless := by
  have zeros : a.isDimensionless = true ↔ ∀ base ∈ BaseDimension.all, a.exponent base = 0 := by
    simp [isDimensionless, exponents]
  rw [zeros]
  constructor
  · intro none
    apply ext_exponent
    intro base
    rw [none base base.mem_all, exponent_dimensionless]
  · rintro rfl base -
    exact exponent_dimensionless base

theorem isDimensionless_quotient_iff : (a.quotient b).isDimensionless = true ↔ a = b := by
  rw [isDimensionless_iff]
  constructor
  · intro none
    rw [← a.product_quotient b, none, dimensionless_product]
  · rintro rfl
    exact a.quotient_self

end

theorem exponents_injective {a b : DimensionSet} (same : a.exponents = b.exponents) : a = b := by
  apply ext_exponent
  intro base
  exact List.map_inj_left.mp same base base.mem_all

theorem compare_eq_exponents (a b : DimensionSet) : compare a b = compare a.exponents b.exponents := by
  change DimensionSet.compare a b = _
  unfold DimensionSet.compare exponents
  induction BaseDimension.all with
  | nil => rfl
  | cons base bases ih => rw [List.foldr_cons, ih, List.map_cons, List.map_cons, List.compare_cons_cons]

instance : Std.TransOrd DimensionSet where
  eq_swap := by
    intro a b
    rw [compare_eq_exponents, compare_eq_exponents]
    exact Std.OrientedCmp.eq_swap
  isLE_trans := by
    intro a b c
    rw [compare_eq_exponents, compare_eq_exponents, compare_eq_exponents]
    exact Std.TransCmp.isLE_trans

instance : Std.LawfulEqOrd DimensionSet where
  compare_self := by
    intro a
    rw [compare_eq_exponents]
    exact Std.ReflCmp.compare_self
  eq_of_compare := by
    intro a b equal
    rw [compare_eq_exponents] at equal
    exact exponents_injective (Std.LawfulEqCmp.eq_of_compare equal)

theorem compare_toInt (x y : Int8) : compare x.toInt y.toInt = compare x y := by
  rcases Int.lt_trichotomy x.toInt y.toInt with less | same | more
  · rw [Std.compare_eq_lt.mpr less, Std.compare_eq_lt.mpr (Int8.lt_iff_toInt_lt.mpr less)]
  · rw [Int8.toInt_inj.mp same, Std.compare_self, Std.compare_self]
  · rw [Std.compare_eq_gt.mpr more, Std.compare_eq_gt.mpr (Int8.lt_iff_toInt_lt.mpr more)]

theorem compare_add_right (x y z : Int) : compare (x + z) (y + z) = compare x y := by
  simp [compare, compareOfLessAndEq]

def ProductFits (a b : DimensionSet) : Prop :=
  ∀ base, IsExponent ((a.exponent base).toInt + (b.exponent base).toInt)

theorem compare_product {a b c : DimensionSet} (left : a.ProductFits c) (right : b.ProductFits c) :
    compare (a.product c) (b.product c) = compare a b := by
  have each : ∀ base, compare ((a.product c).exponent base) ((b.product c).exponent base) =
      compare (a.exponent base) (b.exponent base) := by
    intro base
    rw [← compare_toInt, toInt_exponent_product (left base), toInt_exponent_product (right base),
      compare_add_right, compare_toInt]
  change DimensionSet.compare _ _ = DimensionSet.compare _ _
  simp only [DimensionSet.compare, each]

/-- Dimensions are an ordered abelian group: the laws of products, quotients and powers, what their exponents
are as integers, and a total lexicographic order that products keep. -/
theorem ordered_group_laws (a b c : DimensionSet) (m n : Int8) :
    ((a.product b).product c = a.product (b.product c) ∧ a.product b = b.product a ∧
      a.product dimensionless = a ∧ (a.product b).quotient b = a ∧ (a.quotient b).product b = a ∧
      ((a.quotient b).isDimensionless = true ↔ a = b)) ∧
    (a.power (m + n) = (a.power m).product (a.power n) ∧ (a.power m).power n = a.power (m * n) ∧
      (a.product b).power n = (a.power n).product (b.power n) ∧
      a.power (-1) = dimensionless.quotient a) ∧
    (∀ base,
      (IsExponent ((a.exponent base).toInt + (b.exponent base).toInt) →
        ((a.product b).exponent base).toInt = (a.exponent base).toInt + (b.exponent base).toInt) ∧
      (IsExponent ((a.exponent base).toInt - (b.exponent base).toInt) →
        ((a.quotient b).exponent base).toInt = (a.exponent base).toInt - (b.exponent base).toInt) ∧
      (IsExponent ((a.exponent base).toInt * n.toInt) →
        ((a.power n).exponent base).toInt = (a.exponent base).toInt * n.toInt)) ∧
    ((compare a b = .lt ↔ List.Lex (· < ·) a.exponents b.exponents) ∧ (compare a b = .eq ↔ a = b) ∧
      (compare a b = .gt ↔ compare b a = .lt) ∧
      (compare a b = .lt → compare b c = .lt → compare a c = .lt)) ∧
    (a.ProductFits c → b.ProductFits c →
      (compare a b = .lt ↔ compare (a.product c) (b.product c) = .lt)) := by
  refine ⟨⟨a.product_assoc b c, a.product_comm b, a.product_dimensionless, a.quotient_product b,
    a.product_quotient b, a.isDimensionless_quotient_iff b⟩, ⟨a.power_add m n, a.power_power m n,
    a.power_product b n, a.power_neg_one⟩, ?_, ⟨?_, Std.compare_eq_iff_eq, Std.OrientedCmp.gt_iff_lt,
    Std.TransCmp.lt_trans⟩, ?_⟩
  · intro base
    exact ⟨toInt_exponent_product, toInt_exponent_quotient, toInt_exponent_power⟩
  · rw [compare_eq_exponents]
    exact compare_eq_lt_iff_lex _ _
  · intro left right
    rw [compare_product left right]

theorem ordered_group_laws_extremes :
    let a : DimensionSet := { time := -100, length := 7, luminousIntensity := 126 }
    let b : DimensionSet := { time := -100, length := 8, luminousIntensity := -127 }
    let c : DimensionSet := { time := -28, length := 119, luminousIntensity := 1 }
    a.ProductFits c ∧ b.ProductFits c ∧
      a.product c = { time := -128, length := 126, luminousIntensity := 127 } ∧
      (compare a b = .lt ↔ compare (a.product c) (b.product c) = .lt) := by
  intro a b c
  have left : a.ProductFits c := by
    intro base
    cases base <;> decide
  have right : b.ProductFits c := by
    intro base
    cases base <;> decide
  exact ⟨left, right, by decide, (ordered_group_laws a b c 0 0).2.2.2.2 left right⟩

example :
    compare ({ mass := 127 } : DimensionSet) dimensionless = .gt ∧
      compare (product { mass := 127 } { mass := 1 }) (dimensionless.product { mass := 1 }) = .lt := by
  decide

end DimensionSet

end Metrology

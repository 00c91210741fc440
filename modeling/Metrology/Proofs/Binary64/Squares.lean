import Mathlib
import Metrology.Proofs.Binary64.Extremes

namespace Metrology.Binary64

variable {x y c d : Float} {n k : Bool} {r s t u v : Size}

theorem ofFloat_square (found : ofFloat c = .finite n s) :
    ofFloat (c * c) = rounded false (s.value * s.value) := by
  rw [ofFloat_mul found found, bne_self_eq_false]

theorem isNonneg_square (found : ofFloat c = .finite n s) : IsNonneg (ofFloat (c * c)) := by
  rw [ofFloat_square found]
  exact isNonneg_rounded (mul_self_nonneg _)

theorem square_lt_overflow (found : ofFloat c = .finite n s) (square : ofFloat (c * c) = .finite false t) :
    s.value * s.value < Size.overflow := by
  rw [ofFloat_square found] at square
  exact (lt_overflow_of_rounded (mul_self_nonneg _) square).1

/-- A square vanishes up to half the least double, this included. -/
theorem square_eq_zero_iff (found : ofFloat c = .finite n s) (square : ofFloat (c * c) = .finite false t) :
    t.mantissa = 0 ↔ s.value * s.value ≤ 2 ^ (-1075 : Int) := by
  rw [ofFloat_square found] at square
  obtain ⟨-, canonical, near⟩ := lt_overflow_of_rounded (mul_self_nonneg _) square
  refine ⟨Size.le_of_mantissa_eq_zero canonical near, fun small => ?_⟩
  have half : Size.zero.IsNearest (2 ^ (-1075 : Int)) :=
    (WithinTies.iff_of_even rfl).mpr (by decide +kernel)
  have below := Size.value_le_of_le canonical Size.zero_canonical near half (mul_self_nonneg _) small
  by_contra nonzero
  exact (Size.value_pos nonzero).not_ge (Size.value_zero ▸ below)

/-- A square that does not vanish is that of a number far above the least double. -/
theorem lt_of_lt_mul_self {q : ℚ} (nonneg : 0 ≤ q) (square : (2 : ℚ) ^ (-1075 : Int) < q * q) :
    (2 : ℚ) ^ (-538 : Int) < q := by
  by_contra small
  rw [not_lt] at small
  have tiny : q * q ≤ 2 ^ (-1075 : Int) :=
    calc q * q ≤ 2 ^ (-538 : Int) * 2 ^ (-538 : Int) := mul_self_le_mul_self nonneg small
      _ = 2 ^ (-1076 : Int) := (zpow_add₀ two_ne_zero _ _).symm
      _ ≤ 2 ^ (-1075 : Int) := zpow_le_zpow_right₀ (by norm_num) (by norm_num)
  exact tiny.not_gt square

theorem exists_square_le {bound : Size} (found : ofFloat c = .finite n s) (canonical : bound.Canonical)
    (small : s.value * s.value ≤ bound.value) :
    ∃ t, ofFloat (c * c) = .finite false t ∧ t.value ≤ bound.value := by
  rw [ofFloat_square found]
  exact exists_rounded_le canonical (mul_self_nonneg _) small false

/-- A product stays in range where both squares do, being no larger than the greater one. -/
theorem exists_size_mul (first : ofFloat c = .finite n s) (second : ofFloat d = .finite k t)
    (square : ofFloat (c * c) = .finite false u) (square' : ofFloat (d * d) = .finite false v) :
    ∃ g r, ofFloat (c * d) = .finite g r := by
  have inside : s.value * t.value < Size.overflow := by
    rcases le_total s.value t.value with order | order
    · exact (mul_le_mul_of_nonneg_right order t.value_nonneg).trans_lt (square_lt_overflow second square')
    · exact (mul_le_mul_of_nonneg_left order s.value_nonneg).trans_lt (square_lt_overflow first square)
  obtain ⟨r, -, -, result⟩ := exists_rounded (mul_nonneg s.value_nonneg t.value_nonneg) inside (n != k)
  exact ⟨_, r, (ofFloat_mul first second).trans result⟩

theorem IsNonneg.add (first : IsNonneg (ofFloat x)) (second : IsNonneg (ofFloat y)) :
    IsNonneg (ofFloat (x + y)) := by
  rcases add_cases_of_nonneg first second with infinite | ⟨s, t, -, -, result⟩
  · exact .inl infinite
  · rw [result]
    exact isNonneg_rounded (add_nonneg s.value_nonneg t.value_nonneg)

theorem le_value_of_sum (first : ofFloat x = .finite false s) (second : ofFloat y = .finite false t)
    (sum : ofFloat (x + y) = .finite false r) : s.value ≤ r.value ∧ t.value ≤ r.value := by
  have nonneg : 0 ≤ s.value + t.value := add_nonneg s.value_nonneg t.value_nonneg
  rw [ofFloat_add_of_nonneg first second] at sum
  obtain ⟨-, canonical, near⟩ := lt_overflow_of_rounded nonneg sum
  exact ⟨Size.value_le_of_le (ofFloat_eq_finite first).1 canonical s.isNearest_value near s.value_nonneg
      (le_add_of_nonneg_right t.value_nonneg),
    Size.value_le_of_le (ofFloat_eq_finite second).1 canonical t.isNearest_value near t.value_nonneg
      (le_add_of_nonneg_left s.value_nonneg)⟩

theorem exists_sum_le {bound : Size} (first : ofFloat x = .finite false s)
    (second : ofFloat y = .finite false t) (canonical : bound.Canonical) (small : s.value + t.value ≤ bound.value) :
    ∃ r, ofFloat (x + y) = .finite false r ∧ r.value ≤ bound.value := by
  rw [ofFloat_add_of_nonneg first second]
  exact exists_rounded_le canonical (add_nonneg s.value_nonneg t.value_nonneg) small false

/-- Where a sum without signs stays finite, its terms do, and it vanishes with both of them only. -/
theorem terms_of_sum (first : IsNonneg (ofFloat x)) (second : IsNonneg (ofFloat y))
    (sum : ofFloat (x + y) = .finite false r) :
    ∃ s t : Size, ofFloat x = .finite false s ∧ ofFloat y = .finite false t ∧
      (r.mantissa = 0 ↔ s.mantissa = 0 ∧ t.mantissa = 0) := by
  rcases add_cases_of_nonneg first second with infinite | ⟨s, t, left, right, result⟩
  · rw [infinite] at sum
    cases sum
  refine ⟨s, t, left, right, ?_, ?_⟩
  · intro zero
    obtain ⟨s_le, t_le⟩ := le_value_of_sum left right sum
    rw [Size.value_eq_zero zero] at s_le t_le
    constructor <;> by_contra nonzero
    · exact (Size.value_pos nonzero).not_ge s_le
    · exact (Size.value_pos nonzero).not_ge t_le
  · rintro ⟨s_zero, t_zero⟩
    rw [sum, Size.value_eq_zero s_zero, Size.value_eq_zero t_zero, add_zero, rounded_zero] at result
    cases result
    rfl

def greatestRoot : Size := ⟨2 * leadingBit - 1, 459⟩

theorem greatestRoot_bounds : greatestRoot.value * greatestRoot.value < Size.overflow ∧
    2 ^ (-1075 : Int) * greatestRoot.value ≤ 2 ^ (-538 : Int) := by
  decide +kernel

/-- Just below the middle between the greatest root of a double and the next double. -/
def rootLimit : ℚ := 2 ^ (512 : Int) - 2 ^ (458 : Int) - 2 ^ (403 : Int)

theorem rootLimit_bounds : 0 ≤ rootLimit ∧ rootLimit < Size.overflow ∧
    (2 * leadingBit - 1 : Nat) * 2 ^ greatestExponent ≤ rootLimit * rootLimit := by
  decide +kernel

theorem greatestRoot_isNearest : greatestRoot.IsNearest rootLimit := by
  have between : greatestRoot.lowerEdge < rootLimit / 2 ^ (459 : Int) ∧
      rootLimit / 2 ^ (459 : Int) < greatestRoot.mantissa + 1 / 2 := by decide +kernel
  exact WithinTies.of_lt between.1 between.2

/-- The root of a double lies between the roots of the least and the greatest one. -/
theorem sqrt_bounds (found : ofFloat x = .finite false s) (nonzero : s.mantissa ≠ 0) :
    ∃ r : Size, ofFloat x.sqrt = .finite false r ∧ (2 : ℚ) ^ (-537 : Int) ≤ r.value ∧
      r.value ≤ greatestRoot.value := by
  have canonical := (ofFloat_eq_finite found).1
  obtain ⟨limit, range, square⟩ := rootLimit_bounds
  have least : (2 : ℚ) ^ (-537 : Int) * 2 ^ (-537 : Int) ≤ s.value := by
    rw [← zpow_add₀ two_ne_zero]
    exact Size.least_le_value canonical nonzero
  have greatest : s.value ≤ rootLimit * rootLimit := (Size.value_le_greatest canonical).trans square
  obtain ⟨low, above, result⟩ := (isRoot_sqrt found _ (by positivity)).1 least
  obtain ⟨high, nonneg, below, result'⟩ := (isRoot_sqrt found rootLimit limit).2 greatest
  have inside : high < Size.overflow := below.trans_lt range
  obtain ⟨r, root, near, finite⟩ := exists_rounded nonneg inside false
  rw [finite] at result'
  have low_pos : 0 ≤ low := le_trans (by positivity) above
  have near' : r.IsNearest low := (lt_overflow_of_rounded low_pos (result.symm.trans result')).2.2
  refine ⟨r, result', ?_, ?_⟩
  · rw [← value_power] at above ⊢
    exact Size.value_le_of_le (power_canonical (by decide) (by decide)) root (Size.isNearest_value _) near'
      (Size.value_nonneg _) above
  · have bound_canonical : greatestRoot.Canonical := ⟨by decide, by decide, by decide, .inl (by decide)⟩
    exact Size.value_le_of_le root bound_canonical near greatestRoot_isNearest nonneg below

theorem sqrt_zero (found : ofFloat x = .finite false s) (zero : s.mantissa = 0) :
    ofFloat x.sqrt = .finite false .zero := by
  have root : s.value ≤ 0 * 0 := by rw [Size.value_eq_zero zero, mul_zero]
  obtain ⟨q, nonneg, below, result⟩ := (isRoot_sqrt found 0 le_rfl).2 root
  rw [result, le_antisymm below nonneg, rounded_zero]

end Metrology.Binary64

import Metrology.Precision
import Metrology.Proofs.Binary64.Nearest
import Metrology.Proofs.Decimal.Value

namespace Metrology

namespace Decimal

open Binary64.Size (overflow)

/-- The first fifteen digits of the numbers where the doubles end. -/
theorem overflow_digits : (179769313486231 : Nat) * (10 : ℚ) ^ (294 : Int) < overflow ∧
    (2 : ℚ) ^ (1024 : Int) < (179769313486231 + 1 : Nat) * 10 ^ (294 : Int) := by
  decide +kernel

theorem ten_zpow_add (n : Nat) : (10 : ℚ) ^ ((n : Int) + 294) = 10 ^ n * 10 ^ (294 : Int) := by
  rw [zpow_add₀ (by norm_num), zpow_natCast]

theorem ten_zpow_lt_overflow : (10 : ℚ) ^ (308 : Int) < overflow := by
  have step : (0 : ℚ) < 10 ^ (294 : Int) := by positivity
  calc (10 : ℚ) ^ (308 : Int) = 10 ^ 14 * 10 ^ (294 : Int) := ten_zpow_add 14
    _ ≤ (179769313486231 : Nat) * 10 ^ (294 : Int) := mul_le_mul_of_nonneg_right (by norm_num) step.le
    _ < overflow := overflow_digits.1

theorem power_lt_ten_zpow : (2 : ℚ) ^ (1024 : Int) < 10 ^ (309 : Int) := by
  have step : (0 : ℚ) < 10 ^ (294 : Int) := by positivity
  calc (2 : ℚ) ^ (1024 : Int) < (179769313486231 + 1 : Nat) * 10 ^ (294 : Int) := overflow_digits.2
    _ ≤ 10 ^ 15 * 10 ^ (294 : Int) := mul_le_mul_of_nonneg_right (by norm_num) step.le
    _ = 10 ^ (309 : Int) := (ten_zpow_add 15).symm

theorem toSize?_eq_none_iff (d : Decimal) : d.toSize? = none ↔ overflow ≤ d.value := by
  unfold toSize?
  dsimp only
  by_cases zero : d.digits = 0
  · have nothing : d.value = 0 := by
      rw [value, zero]
      simp
    rw [if_pos (Or.inl zero), nothing]
    exact iff_of_false (Option.some_ne_none _) (not_le.mpr Binary64.Size.overflow_pos)
  · obtain ⟨lower, upper⟩ := value_bounds zero
    set top := (digitCount d.digits : Int) + d.exponent
    rcases lt_or_ge top (-330) with small | normal
    · have below : d.value < overflow := by
        calc d.value < 10 ^ top := upper
          _ ≤ (10 : ℚ) ^ (308 : Int) := zpow_le_zpow_right₀ (by norm_num) (by omega)
          _ < overflow := ten_zpow_lt_overflow
      rw [if_pos (Or.inr small)]
      exact iff_of_false (Option.some_ne_none _) (not_le.mpr below)
    · have inside : ¬(d.digits = 0 ∨ top < -330) := by
        rintro (h | h)
        · exact zero h
        · exact absurd h (not_lt.mpr normal)
      rw [if_neg inside]
      split
      · next large =>
        have above : overflow ≤ d.value := by
          calc overflow ≤ (2 : ℚ) ^ (1024 : Int) := Binary64.Size.overflow_lt_power.le
            _ ≤ 10 ^ (309 : Int) := power_lt_ten_zpow.le
            _ ≤ 10 ^ (top - 1) := zpow_le_zpow_right₀ (by norm_num) (by omega)
            _ ≤ d.value := lower
        exact iff_of_true rfl above
      · rw [Binary64.Size.nearest?_eq_none_iff (num_fraction_pos zero) d.den_fraction_pos, value_fraction]

variable {f : Fraction}

theorem value_scaled (count : Nat) :
    (f.shift 10 (-gridExponent count f)).value = f.value / (10 : ℚ) ^ gridExponent count f := by
  rw [Fraction.value_shift_neg (by norm_num), Nat.cast_ofNat]

theorem even_le_digits_iff (den_pos : 0 < f.den) (count : Nat) {k : Nat} (even : k % 2 = 0) :
    k ≤ (round count f).digits ↔ ((k : ℚ) - 1 / 2) * 10 ^ gridExponent count f ≤ f.value := by
  have step : (0 : ℚ) < 10 ^ gridExponent count f := by positivity
  change k ≤ (f.shift 10 (-gridExponent count f)).round ↔ _
  rw [Fraction.even_le_round_iff (Fraction.den_shift_pos den_pos (by norm_num) _) even, value_scaled,
    le_div_iff₀ step]

theorem zpow_floorLog10_add_one (count : Nat) (f : Fraction) :
    (10 : ℚ) ^ (f.floorLog10 + 1) = 10 ^ count * 10 ^ gridExponent count f := by
  rw [← zpow_natCast, ← zpow_add₀ (by norm_num)]
  congr 1
  unfold gridExponent
  omega

theorem digits_round_le (num_pos : 0 < f.num) (den_pos : 0 < f.den) (count : Nat) :
    (round count f).digits ≤ 10 ^ count := by
  have power : (0 : ℚ) < 10 ^ gridExponent count f := by positivity
  apply Fraction.round_le (Fraction.den_shift_pos den_pos (by norm_num) _)
  rw [value_scaled, div_le_iff₀ power, Nat.cast_pow, Nat.cast_ofNat, ← zpow_floorLog10_add_one]
  exact (Fraction.floorLog10_spec num_pos den_pos).2.le

theorem value_round_le (num_pos : 0 < f.num) (den_pos : 0 < f.den) (count : Nat) :
    (round count f).value ≤ (10 : ℚ) ^ (f.floorLog10 + 1) := by
  have power : (0 : ℚ) < 10 ^ gridExponent count f := by positivity
  rw [value, zpow_floorLog10_add_one count]
  apply mul_le_mul_of_nonneg_right _ power.le
  exact_mod_cast digits_round_le num_pos den_pos count

theorem floorLog10_le (num_pos : 0 < f.num) (den_pos : 0 < f.den) (within : f.value < (2 : ℚ) ^ (1024 : Int)) :
    f.floorLog10 ≤ 308 := by
  by_contra large
  have above : (2 : ℚ) ^ (1024 : Int) ≤ f.value := by
    calc (2 : ℚ) ^ (1024 : Int) ≤ 10 ^ (309 : Int) := power_lt_ten_zpow.le
      _ ≤ 10 ^ f.floorLog10 := zpow_le_zpow_right₀ (by norm_num) (by omega)
      _ ≤ f.value := (Fraction.floorLog10_spec num_pos den_pos).1
  exact absurd within (not_lt.mpr above)

theorem value_round_lt_of_small (num_pos : 0 < f.num) (den_pos : 0 < f.den) (small : f.floorLog10 < 308)
    (count : Nat) : (round count f).value < overflow := by
  calc (round count f).value ≤ 10 ^ (f.floorLog10 + 1) := value_round_le num_pos den_pos count
    _ ≤ (10 : ℚ) ^ (308 : Int) := zpow_le_zpow_right₀ (by norm_num) (by omega)
    _ < overflow := ten_zpow_lt_overflow

/-- From here upwards, rounding to fifteen digits goes up to `1.79769313486232e308`. -/
def doubleLimit : ℚ := (179769313486232 - 1 / 2) * (10 : ℚ) ^ (294 : Int)

theorem ten_zpow_lt_doubleLimit : (10 : ℚ) ^ (308 : Int) < doubleLimit := by
  have step : (0 : ℚ) < 10 ^ (294 : Int) := by positivity
  calc (10 : ℚ) ^ (308 : Int) = 10 ^ 14 * 10 ^ (294 : Int) := ten_zpow_add 14
    _ < doubleLimit := mul_lt_mul_of_pos_right (by norm_num) step

theorem overflow_le_round_double_iff (num_pos : 0 < f.num) (den_pos : 0 < f.den)
    (within : f.value < (2 : ℚ) ^ (1024 : Int)) :
    overflow ≤ (round 15 f).value ↔ doubleLimit ≤ f.value := by
  rcases (floorLog10_le num_pos den_pos within).lt_or_eq with small | edge
  · have below : f.value < doubleLimit := by
      calc f.value < 10 ^ (f.floorLog10 + 1) := (Fraction.floorLog10_spec num_pos den_pos).2
        _ ≤ (10 : ℚ) ^ (308 : Int) := zpow_le_zpow_right₀ (by norm_num) (by omega)
        _ < doubleLimit := ten_zpow_lt_doubleLimit
    have rounded := value_round_lt_of_small num_pos den_pos small 15
    exact iff_of_false (not_le.mpr rounded) (not_le.mpr below)
  · have grid : gridExponent 15 f = 294 := by
      rw [gridExponent, edge]
      rfl
    have exponent : (round 15 f).exponent = 294 := grid
    have digits : 179769313486232 ≤ (round 15 f).digits ↔ doubleLimit ≤ f.value := by
      rw [even_le_digits_iff den_pos 15 (by decide), grid]
      rfl
    have reached : overflow ≤ (round 15 f).value ↔ 179769313486231 + 1 ≤ (round 15 f).digits := by
      obtain ⟨below, above⟩ := overflow_digits
      have inside := Binary64.Size.overflow_lt_power.trans above
      rw [value, exponent]
      exact le_mul_step_iff (by positivity) below inside.le
    exact reached.trans digits

theorem value_round_single_lt (num_pos : 0 < f.num) (den_pos : 0 < f.den)
    (within : f.value < (2 : ℚ) ^ (1024 : Int)) : (round 6 f).value < overflow := by
  rcases (floorLog10_le num_pos den_pos within).lt_or_eq with small | edge
  · exact value_round_lt_of_small num_pos den_pos small 6
  · obtain ⟨below, above⟩ := overflow_digits
    have step : (0 : ℚ) < 10 ^ (294 : Int) := by positivity
    have nine : (10 : ℚ) ^ (303 : Int) = 10 ^ 9 * 10 ^ (294 : Int) := ten_zpow_add 9
    have grid : gridExponent 6 f = 303 := by
      rw [gridExponent, edge]
      rfl
    have fewer : ¬179770 ≤ (round 6 f).digits := by
      rw [even_le_digits_iff den_pos 6 (by decide), grid, not_le]
      calc f.value < 2 ^ (1024 : Int) := within
        _ ≤ (179769313486231 + 1 : Nat) * 10 ^ (294 : Int) := above.le
        _ ≤ ((179770 : Nat) - 1 / 2 : ℚ) * 10 ^ 9 * 10 ^ (294 : Int) :=
          mul_le_mul_of_nonneg_right (by norm_num) step.le
        _ = ((179770 : Nat) - 1 / 2 : ℚ) * 10 ^ (303 : Int) := by rw [nine, mul_assoc]
    have cast : ((round 6 f).digits : ℚ) ≤ 179769 := by
      exact_mod_cast Nat.le_of_lt_succ (not_le.mp fewer)
    have exponent : (round 6 f).exponent = 303 := grid
    rw [value, exponent]
    calc ((round 6 f).digits : ℚ) * 10 ^ (303 : Int) ≤ 179769 * 10 ^ (303 : Int) := by gcongr
      _ = 179769 * 10 ^ 9 * 10 ^ (294 : Int) := by rw [nine, mul_assoc]
      _ ≤ (179769313486231 : Nat) * 10 ^ (294 : Int) := mul_le_mul_of_nonneg_right (by norm_num) step.le
      _ < overflow := below

end Decimal

namespace Binary64.Size

variable {s : Size}

theorem doubleLimit_bounds : (2 * leadingBit - 5 : Nat) * (2 : ℚ) ^ greatestExponent < Decimal.doubleLimit ∧
    Decimal.doubleLimit ≤ (2 * leadingBit - 4 : Nat) * (2 : ℚ) ^ greatestExponent := by
  decide +kernel

/-- The four greatest doubles are those that fifteen digits round up beyond all doubles. -/
theorem doubleLimit_le_value_iff (canonical : s.Canonical) :
    Decimal.doubleLimit ≤ s.value ↔ infinityBits - 4 ≤ s.bits := by
  obtain ⟨full, least, greatest, -⟩ := canonical
  rcases greatest.lt_or_eq with lower | edge
  · have below : s.value < Decimal.doubleLimit := by
      have power : (0 : ℚ) < 2 ^ s.exponent := by positivity
      have mantissa : (s.mantissa : ℚ) ≤ 2 * leadingBit := by exact_mod_cast full.le
      have step : (0 : ℚ) ≤ 2 ^ greatestExponent := by positivity
      calc s.value ≤ 2 * leadingBit * 2 ^ s.exponent := mul_le_mul_of_nonneg_right mantissa power.le
        _ = leadingBit * 2 ^ (s.exponent + 1) := by rw [zpow_add_one₀ two_ne_zero]; ring
        _ ≤ leadingBit * 2 ^ greatestExponent :=
          mul_le_mul_of_nonneg_left (zpow_le_zpow_right₀ (by norm_num) lower) (Nat.cast_nonneg _)
        _ ≤ (2 * leadingBit - 5 : Nat) * 2 ^ greatestExponent :=
          mul_le_mul_of_nonneg_right (by norm_num [leadingBit]) step
        _ < Decimal.doubleLimit := doubleLimit_bounds.1
    have bits : s.bits < infinityBits - 4 := by
      simp only [Size.bits, infinityBits, leadingBit, leastExponent, greatestExponent] at *
      omega
    exact iff_of_false (not_le.mpr below) (not_le.mpr bits)
  · have bits : infinityBits - 4 ≤ s.bits ↔ 2 * leadingBit - 5 + 1 ≤ s.mantissa := by
      simp only [Size.bits, infinityBits, leadingBit, edge, leastExponent, greatestExponent] at *
      omega
    rw [bits, value, edge]
    exact le_mul_step_iff (by positivity) doubleLimit_bounds.1 doubleLimit_bounds.2

/-- Only the four greatest doubles have no rounding, and only to the digits of double precision. -/
theorem roundTo?_eq_none_iff (canonical : s.Canonical) (p : Precision) :
    s.roundTo? p.significantDigits = none ↔ p = .double ∧ infinityBits - 4 ≤ s.bits := by
  unfold roundTo?
  split
  · next zero =>
    have bits : s.bits < infinityBits - 4 := by
      obtain ⟨-, -, -, leading | exponent⟩ := canonical
      · rw [zero] at leading
        exact absurd leading (by decide)
      · rw [Size.bits, zero, exponent]
        decide
    exact iff_of_false (Option.some_ne_none _) (fun both => absurd both.2 (not_le.mpr bits))
  · next nonzero =>
    have num_pos := num_fraction_pos nonzero
    have den_pos := s.den_fraction_pos
    have within : s.fraction.value < (2 : ℚ) ^ (1024 : Int) := by
      rw [value_fraction]
      exact (value_lt_overflow canonical).trans overflow_lt_power
    rw [Decimal.toSize?_eq_none_iff]
    cases p with
    | double =>
        rw [Precision.significantDigits, Decimal.overflow_le_round_double_iff num_pos den_pos within,
          value_fraction, doubleLimit_le_value_iff canonical]
        simp
    | single =>
        have rounded := Decimal.value_round_single_lt num_pos den_pos within
        exact iff_of_false (not_le.mpr rounded) (fun both => absurd both.1 (by decide))

end Binary64.Size

end Metrology

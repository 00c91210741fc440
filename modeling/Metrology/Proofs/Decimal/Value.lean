import Metrology.Proofs.Fraction

namespace Metrology.Decimal

def value (d : Decimal) : ℚ := d.digits * (10 : ℚ) ^ d.exponent

theorem value_fraction (d : Decimal) : d.fraction.value = d.value := by
  rw [fraction, Fraction.value_shift (by norm_num), Fraction.value_natural]
  rfl

theorem den_fraction_pos (d : Decimal) : 0 < d.fraction.den :=
  Fraction.den_shift_pos (f := ⟨d.digits, 1⟩) Nat.one_pos (by norm_num) d.exponent

theorem num_fraction_pos {d : Decimal} (nonzero : d.digits ≠ 0) : 0 < d.fraction.num :=
  Fraction.num_shift_pos (f := ⟨d.digits, 1⟩) (Nat.pos_of_ne_zero nonzero) (by norm_num) d.exponent

theorem value_eq_zero_iff (d : Decimal) : d.value = 0 ↔ d.digits = 0 := by
  have power : (10 : ℚ) ^ d.exponent ≠ 0 := by positivity
  rw [value, mul_eq_zero, or_iff_left power, Nat.cast_eq_zero]

theorem exists_value_eq {d : Decimal} {exponent : Int} (finer : exponent ≤ d.exponent) :
    ∃ n : Nat, d.value = n * (10 : ℚ) ^ exponent := by
  obtain ⟨zeros, difference⟩ := Int.le.dest finer
  refine ⟨d.digits * 10 ^ zeros, ?_⟩
  rw [value, ← difference, zpow_add₀ (by norm_num), zpow_natCast]
  push_cast
  ring

theorem value_bounds {d : Decimal} (nonzero : d.digits ≠ 0) :
    (10 : ℚ) ^ ((digitCount d.digits : Int) + d.exponent - 1) ≤ d.value ∧
      d.value < (10 : ℚ) ^ ((digitCount d.digits : Int) + d.exponent) := by
  obtain ⟨lower, upper⟩ := digitCount_spec d.digits
  have count := digitCount_pos d.digits
  have ten : (10 : ℚ) ≠ 0 := by norm_num
  have power : (0 : ℚ) < 10 ^ d.exponent := by positivity
  constructor
  · have exponent : (digitCount d.digits : Int) + d.exponent - 1 =
        ((digitCount d.digits - 1 : Nat) : Int) + d.exponent := by omega
    rw [exponent, zpow_add₀ ten, zpow_natCast, value]
    apply mul_le_mul_of_nonneg_right _ power.le
    exact_mod_cast lower (Nat.pos_of_ne_zero nonzero)
  · rw [zpow_add₀ ten, zpow_natCast, value]
    apply mul_lt_mul_of_pos_right _ power
    exact_mod_cast upper

end Metrology.Decimal

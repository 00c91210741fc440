import Metrology.Proofs.Fraction

namespace Metrology.Binary64.Size

def value (s : Size) : ℚ := s.mantissa * (2 : ℚ) ^ s.exponent

theorem value_fraction (s : Size) : s.fraction.value = s.value := by
  rw [fraction, Fraction.value_shift two_pos, Fraction.value_natural]
  rfl

theorem den_fraction_pos (s : Size) : 0 < s.fraction.den :=
  Fraction.den_shift_pos (f := ⟨s.mantissa, 1⟩) Nat.one_pos two_pos s.exponent

theorem num_fraction_pos {s : Size} (nonzero : s.mantissa ≠ 0) : 0 < s.fraction.num :=
  Fraction.num_shift_pos (f := ⟨s.mantissa, 1⟩) (Nat.pos_of_ne_zero nonzero) two_pos s.exponent

theorem value_pos {s : Size} (nonzero : s.mantissa ≠ 0) : 0 < s.value := by
  have mantissa : (0 : ℚ) < s.mantissa := by exact_mod_cast Nat.pos_of_ne_zero nonzero
  exact mul_pos mantissa (by positivity)

theorem value_nonneg (s : Size) : 0 ≤ s.value := mul_nonneg (Nat.cast_nonneg _) (by positivity)

theorem value_eq_zero {s : Size} (zero : s.mantissa = 0) : s.value = 0 := by
  rw [value, zero, Nat.cast_zero, zero_mul]

theorem value_zero : zero.value = 0 := value_eq_zero rfl

theorem bits_ofBits (n : Nat) : (ofBits n).bits = n := by
  by_cases least : n / leadingBit = 0
  · rw [ofBits, if_pos least]
    simp [bits]
  · rw [ofBits, if_neg least]
    simp only [bits, leadingBit, leastExponent] at least ⊢
    omega

theorem ofBits_canonical {n : Nat} (finite : n < infinityBits) : (ofBits n).Canonical := by
  by_cases least : n / leadingBit = 0
  · rw [ofBits, if_pos least]
    have ends : leastExponent ≤ greatestExponent := by decide
    refine ⟨?_, le_refl _, ends, Or.inr rfl⟩
    simp only [leadingBit] at least ⊢
    omega
  · rw [ofBits, if_neg least]
    simp only [Canonical, leadingBit, infinityBits, leastExponent, greatestExponent] at finite least ⊢
    omega

/-- Where doubles end: half a step above the greatest one. -/
def overflow : ℚ := (2 * leadingBit - 1 / 2) * (2 : ℚ) ^ greatestExponent

theorem overflow_lt_power : overflow < (2 : ℚ) ^ (1024 : Int) := by
  have power : (2 : ℚ) ^ (1024 : Int) = 2 ^ (53 : Int) * 2 ^ greatestExponent :=
    zpow_add₀ two_ne_zero 53 greatestExponent
  rw [power, overflow]
  exact mul_lt_mul_of_pos_right (by norm_num [leadingBit]) (by positivity)

theorem power_lt_overflow : (2 : ℚ) ^ (1023 : Int) < overflow := by
  have power : (2 : ℚ) ^ (1023 : Int) = 2 ^ (52 : Int) * 2 ^ greatestExponent :=
    zpow_add₀ two_ne_zero 52 greatestExponent
  rw [power, overflow]
  exact mul_lt_mul_of_pos_right (by norm_num [leadingBit]) (by positivity)

theorem overflow_pos : 0 < overflow := lt_trans (by positivity) power_lt_overflow

theorem value_le_greatest {s : Size} (canonical : s.Canonical) :
    s.value ≤ (2 * leadingBit - 1 : Nat) * 2 ^ greatestExponent := by
  have mantissa : (s.mantissa : ℚ) ≤ (2 * leadingBit - 1 : Nat) := by
    exact_mod_cast Nat.le_sub_one_of_lt canonical.1
  have power : (2 : ℚ) ^ s.exponent ≤ 2 ^ greatestExponent :=
    zpow_le_zpow_right₀ (by norm_num) canonical.2.2.1
  exact mul_le_mul mantissa power (by positivity) (Nat.cast_nonneg _)

theorem value_lt_overflow {s : Size} (canonical : s.Canonical) : s.value < overflow :=
  (value_le_greatest canonical).trans_lt (mul_lt_mul_of_pos_right (by norm_num [leadingBit]) (by positivity))

theorem half_least_step : 1 / 2 * (2 : ℚ) ^ leastExponent = 2 ^ (-1075 : Int) := by
  have half : (2 : ℚ) ^ (-1075 : Int) = 2 ^ leastExponent * 2⁻¹ := zpow_sub_one₀ two_ne_zero leastExponent
  rw [half, one_div, mul_comm]

theorem round_mantissa_le {f : Fraction} (num_pos : 0 < f.num) (den_pos : 0 < f.den) :
    (f.shift 2 (-gridExponent f)).round ≤ 2 * leadingBit := by
  have high := (Fraction.floorLog2_spec num_pos den_pos).2
  have grid : f.floorLog2 + 1 ≤ 53 + gridExponent f := by
    unfold gridExponent
    omega
  have full : ((2 * leadingBit : Nat) : ℚ) = (2 : ℚ) ^ (53 : Int) := by norm_num [leadingBit]
  apply Fraction.round_le (Fraction.den_shift_pos den_pos two_pos _)
  rw [Fraction.value_shift_neg two_pos, Nat.cast_ofNat,
    div_le_iff₀ (by positivity), full, ← zpow_add₀ two_ne_zero]
  exact high.le.trans (zpow_le_zpow_right₀ (by norm_num) grid)

theorem nearest?_eq_none_iff_exponent (f : Fraction) :
    nearest? f = none ↔
      greatestExponent < if (f.shift 2 (-gridExponent f)).round = 2 * leadingBit then gridExponent f + 1
        else gridExponent f := by
  unfold nearest?
  dsimp only
  split <;> split <;> simp_all

theorem round_mantissa_eq_iff {f : Fraction} (num_pos : 0 < f.num) (den_pos : 0 < f.den)
    (grid : gridExponent f = greatestExponent) :
    (f.shift 2 (-gridExponent f)).round = 2 * leadingBit ↔ overflow ≤ f.value := by
  have carry := round_mantissa_le num_pos den_pos
  have step : (0 : ℚ) < 2 ^ greatestExponent := by positivity
  have full : (f.shift 2 (-gridExponent f)).round = 2 * leadingBit ↔
      2 * leadingBit ≤ (f.shift 2 (-gridExponent f)).round :=
    ⟨fun same => same.ge, fun reached => le_antisymm carry reached⟩
  rw [full, Fraction.even_le_round_iff (Fraction.den_shift_pos den_pos two_pos _) (by decide),
    Fraction.value_shift_neg two_pos, grid, Nat.cast_ofNat, le_div_iff₀ step,
    overflow]
  push_cast
  rfl

theorem nearest?_eq_none_iff {f : Fraction} (num_pos : 0 < f.num) (den_pos : 0 < f.den) :
    nearest? f = none ↔ overflow ≤ f.value := by
  obtain ⟨low, high⟩ := Fraction.floorLog2_spec num_pos den_pos
  rw [nearest?_eq_none_iff_exponent]
  rcases Int.lt_trichotomy f.floorLog2 1023 with small | edge | large
  · have fits : gridExponent f + 1 ≤ greatestExponent := by
      simp only [gridExponent, leastExponent, greatestExponent]
      omega
    have below : f.value < overflow := by
      calc f.value < 2 ^ (f.floorLog2 + 1) := high
        _ ≤ 2 ^ (1023 : Int) := zpow_le_zpow_right₀ (by norm_num) (by omega)
        _ < overflow := power_lt_overflow
    apply iff_of_false _ (not_le.mpr below)
    split <;> omega
  · have grid : gridExponent f = greatestExponent := by
      rw [gridExponent, edge]
      rfl
    rw [← round_mantissa_eq_iff num_pos den_pos grid]
    split
    · next full => exact iff_of_true (by omega) full
    · next partly => exact iff_of_false (by omega) partly
  · have outside : greatestExponent < gridExponent f := by
      simp only [gridExponent, leastExponent, greatestExponent]
      omega
    have above : overflow ≤ f.value := by
      calc overflow ≤ 2 ^ (1024 : Int) := overflow_lt_power.le
        _ ≤ 2 ^ f.floorLog2 := zpow_le_zpow_right₀ (by norm_num) (by omega)
        _ ≤ f.value := low
    apply iff_of_true _ above
    split <;> omega

end Metrology.Binary64.Size

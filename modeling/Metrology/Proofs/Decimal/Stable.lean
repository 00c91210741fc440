import Metrology.Proofs.Decimal.Nearest

namespace Metrology.Binary64.Size

variable {r : Size}

/-- Away from the finest grid, doubles lie closer together than numbers of fifteen digits. -/
theorem step_lt_grid_step (canonical : r.Canonical) (coarse : r.exponent ≠ leastExponent) {count : Nat}
    (few : count ≤ 15) : (2 : ℚ) ^ r.exponent < 10 ^ Decimal.gridExponent count r.fraction := by
  have power : (0 : ℚ) < 2 ^ r.exponent := by positivity
  have grid : (0 : ℚ) < 10 ^ Decimal.gridExponent count r.fraction := by positivity
  have leading : leadingBit ≤ r.mantissa := canonical.2.2.2.resolve_right coarse
  have nonzero : r.mantissa ≠ 0 := fun zero => absurd (zero ▸ leading) (by decide)
  have decade := (Fraction.floorLog10_spec (num_fraction_pos nonzero) r.den_fraction_pos).2
  rw [value_fraction, Decimal.zpow_floorLog10_add_one count] at decade
  have bits : (2 : ℚ) ^ 52 ≤ r.mantissa := by exact_mod_cast leading
  have digits : (10 : ℚ) ^ count ≤ 10 ^ 15 := pow_le_pow_right₀ (by norm_num) few
  have low : (2 : ℚ) ^ 52 * 2 ^ r.exponent ≤ r.value := mul_le_mul_of_nonneg_right bits power.le
  have high : (10 : ℚ) ^ count * 10 ^ Decimal.gridExponent count r.fraction ≤
      10 ^ 15 * 10 ^ Decimal.gridExponent count r.fraction := mul_le_mul_of_nonneg_right digits grid.le
  linarith

/-- If a number on the grid of a double is read as the double, so is the number that the double is rounded to
on this grid. -/
theorem toSize?_round_of_isNearest (canonical : r.Canonical) {count n : Nat} (few : count ≤ 15)
    (near : r.IsNearest (n * (10 : ℚ) ^ Decimal.gridExponent count r.fraction)) :
    (Decimal.round count r.fraction).toSize? = some r := by
  rw [Decimal.toSize?_eq_some_iff]
  refine ⟨canonical, ?_⟩
  by_cases finest : r.exponent = leastExponent
  · have closer := Decimal.abs_value_round_sub_le r.den_fraction_pos count n
    rw [value_fraction] at closer
    exact near.of_closer finest closer
  · -- The number is within half a step of the double, so it is what the double is rounded to.
    have grid : (0 : ℚ) < 10 ^ Decimal.gridExponent count r.fraction := by positivity
    have steps := step_lt_grid_step canonical finest few
    have close := near.abs_sub_le
    rw [← value_fraction, Decimal.abs_sub_scaled] at close
    have within : |(n : ℚ) - (r.fraction.shift 10 (-Decimal.gridExponent count r.fraction)).value| < 1 / 2 :=
      lt_of_mul_lt_mul_right (close.trans_lt (mul_lt_mul_of_pos_left steps one_half_pos)) grid.le
    obtain ⟨above, below⟩ := abs_lt.mp within
    have same : (Decimal.round count r.fraction).digits = n := by
      refine (Fraction.round_eq_iff ?_ n).mpr (WithinTies.of_lt ?_ ?_)
      · exact Fraction.den_shift_pos r.den_fraction_pos (by norm_num) _
      · linarith
      · linarith
    rw [Decimal.value, same]
    exact near

/-- What a double was rounded to and read from lies on the grid of the double that was read, or else a power
of ten between the two does. -/
theorem exists_isNearest_on_grid {f : Fraction} (num_pos : 0 < f.num) (den_pos : 0 < f.den) {count : Nat}
    (some_digit : 0 < count) (nonzero : r.mantissa ≠ 0) (near : r.IsNearest (Decimal.round count f).value) :
    ∃ n : Nat, r.IsNearest (n * (10 : ℚ) ^ Decimal.gridExponent count r.fraction) := by
  have ten : (10 : ℚ) ≠ 0 := by norm_num
  rcases lt_or_ge f.floorLog10 r.fraction.floorLog10 with lower | higher
  · have decade := (Fraction.floorLog10_spec (num_fraction_pos nonzero) r.den_fraction_pos).1
    have below : (Decimal.round count f).value ≤ (10 : ℚ) ^ r.fraction.floorLog10 :=
      (Decimal.value_round_le num_pos den_pos count).trans (zpow_le_zpow_right₀ (by norm_num) lower)
    rw [value_fraction] at decade
    have power : ((10 ^ (count - 1) : Nat) : ℚ) * 10 ^ Decimal.gridExponent count r.fraction =
        10 ^ r.fraction.floorLog10 := by
      rw [Nat.cast_pow, Nat.cast_ofNat, ← zpow_natCast, ← zpow_add₀ ten]
      congr 1
      unfold Decimal.gridExponent
      omega
    refine ⟨10 ^ (count - 1), ?_⟩
    rw [power]
    exact near.between r.isNearest_value below decade
  · have finer : Decimal.gridExponent count r.fraction ≤ (Decimal.round count f).exponent := by
      change Decimal.gridExponent count r.fraction ≤ Decimal.gridExponent count f
      unfold Decimal.gridExponent
      omega
    obtain ⟨n, onGrid⟩ := Decimal.exists_value_eq finer
    exact ⟨n, onGrid ▸ near⟩

/-- Rounding to at most fifteen digits and reading back a second time changes nothing. -/
theorem roundTo?_roundTo? {s : Size} {count : Nat} (some_digit : 0 < count) (few : count ≤ 15)
    (rounded : s.roundTo? count = some r) : r.roundTo? count = some r := by
  by_cases zero : r.mantissa = 0
  · rw [roundTo?, if_pos zero]
  · by_cases nothing : s.mantissa = 0
    · rw [roundTo?, if_pos nothing] at rounded
      cases rounded
      exact absurd nothing zero
    · rw [roundTo?, if_neg nothing, Decimal.toSize?_eq_some_iff] at rounded
      obtain ⟨canonical, near⟩ := rounded
      obtain ⟨n, onGrid⟩ := exists_isNearest_on_grid (num_fraction_pos nothing) s.den_fraction_pos some_digit
        zero near
      rw [roundTo?, if_neg zero]
      exact toSize?_round_of_isNearest canonical few onGrid

end Metrology.Binary64.Size

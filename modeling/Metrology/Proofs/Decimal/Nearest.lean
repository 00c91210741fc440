import Metrology.Decimal
import Metrology.Proofs.Binary64.Interval
import Metrology.Proofs.Decimal.Overflow

namespace Metrology

namespace Binary64.Size

theorem zero_isNearest {x : ℚ} (nonneg : 0 ≤ x) (small : x < (10 : ℚ) ^ (-330 : Int)) :
    zero.IsNearest x := by
  have power : (0 : ℚ) < 2 ^ leastExponent := by positivity
  have edge : zero.lowerEdge = -1 / 2 := by
    rw [lowerEdge, if_neg (by decide)]
    norm_num [zero]
  have tiny : (10 : ℚ) ^ (-330 : Int) ≤ 1 / 2 * 2 ^ leastExponent := by decide +kernel
  have low : 0 ≤ x / (2 : ℚ) ^ leastExponent := div_nonneg nonneg power.le
  have high : x / (2 : ℚ) ^ leastExponent < 1 / 2 := (div_lt_iff₀ power).mpr (small.trans_le tiny)
  rw [IsNearest, edge]
  apply WithinTies.of_lt
  · exact lt_of_lt_of_le (by norm_num) low
  · simpa [zero] using high

end Binary64.Size

open Binary64 (Size)

namespace Decimal

/-- The branches for very small and very large decimals give the nearest double too. -/
theorem toSize?_eq_nearest? {d : Decimal} (nonzero : d.digits ≠ 0) :
    d.toSize? = Size.nearest? d.fraction := by
  have num_pos := num_fraction_pos nonzero
  have den_pos := d.den_fraction_pos
  cases read : d.toSize? with
  | none =>
      rw [toSize?_eq_none_iff, ← value_fraction] at read
      exact ((Size.nearest?_eq_none_iff num_pos den_pos).mpr read).symm
  | some s =>
      unfold toSize? at read
      dsimp only at read
      split at read
      · next tiny =>
        have small := tiny.resolve_left nonzero
        have nonneg : 0 ≤ d.value := mul_nonneg (Nat.cast_nonneg _) (by positivity)
        have below : d.value < (10 : ℚ) ^ (-330 : Int) :=
          (value_bounds nonzero).2.trans_le (zpow_le_zpow_right₀ (by norm_num) small.le)
        cases read
        symm
        rw [Size.nearest?_eq_some_iff num_pos den_pos, value_fraction]
        exact ⟨Size.zero_canonical, Size.zero_isNearest nonneg below⟩
      · split at read
        · cases read
        · exact read.symm

theorem toSize?_eq_some_iff (d : Decimal) (s : Size) :
    d.toSize? = some s ↔ s.Canonical ∧ s.IsNearest d.value := by
  by_cases zero : d.digits = 0
  · have nothing : d.value = 0 := by
      rw [value, zero, Nat.cast_zero, zero_mul]
    have read : d.toSize? = some .zero := by
      unfold toSize?
      rw [if_pos (Or.inl zero)]
    rw [read, nothing]
    constructor
    · rintro ⟨⟩
      exact ⟨Size.zero_canonical, Size.zero_isNearest le_rfl (by positivity)⟩
    · rintro ⟨canonical, near⟩
      rw [Size.eq_zero_of_isNearest_zero canonical near]
  · rw [toSize?_eq_nearest? zero, Size.nearest?_eq_some_iff (num_fraction_pos zero) d.den_fraction_pos,
      value_fraction]

theorem toSize?_congr {d e : Decimal} (same : d.value = e.value) : d.toSize? = e.toSize? := by
  apply Option.ext
  intro s
  rw [toSize?_eq_some_iff, toSize?_eq_some_iff, same]

theorem value_trim (d : Decimal) : d.trim.value = d.value := by
  fun_induction trim d with
  | case1 d zero => simp [value, zero]
  | case2 d nonzero tens ih =>
      have digits : (d.digits : ℚ) = (d.digits / 10 : Nat) * 10 := by
        exact_mod_cast (Nat.div_mul_cancel (Nat.dvd_of_mod_eq_zero tens)).symm
      rw [ih, value, value, digits, zpow_add_one₀ (by norm_num)]
      ring
  | case3 d nonzero ends => rfl

variable {f : Fraction}

theorem abs_sub_scaled (count : Nat) (k : ℚ) :
    |k * (10 : ℚ) ^ gridExponent count f - f.value| =
      |k - (f.shift 10 (-gridExponent count f)).value| * 10 ^ gridExponent count f := by
  have power : (0 : ℚ) < 10 ^ gridExponent count f := by positivity
  rw [value_scaled, ← abs_of_pos power, ← abs_mul, abs_of_pos power, sub_mul, div_mul_cancel₀ _ power.ne']

/-- No number on the grid of a count of digits is nearer than the rounded one. -/
theorem abs_value_round_sub_le (den_pos : 0 < f.den) (count n : Nat) :
    |(round count f).value - f.value| ≤ |n * (10 : ℚ) ^ gridExponent count f - f.value| := by
  have shifted := Fraction.den_shift_pos den_pos (by norm_num : 0 < 10) (-gridExponent count f)
  have rounded := abs_sub_scaled (f := f) count (round count f).digits
  rw [abs_sub_scaled]
  exact rounded.trans_le (mul_le_mul_of_nonneg_right (Fraction.abs_round_sub_le shifted n) (by positivity))

theorem abs_value_round_sub_le_half (den_pos : 0 < f.den) (count : Nat) :
    |(round count f).value - f.value| ≤ 1 / 2 * (10 : ℚ) ^ gridExponent count f := by
  have shifted := Fraction.den_shift_pos den_pos (by norm_num : 0 < 10) (-gridExponent count f)
  have rounded := abs_sub_scaled (f := f) count (round count f).digits
  exact rounded.trans_le (mul_le_mul_of_nonneg_right (Fraction.abs_round_sub_le_half shifted) (by positivity))

theorem grid_step_le (num_pos : 0 < f.num) (den_pos : 0 < f.den) (count : Nat) :
    (10 : ℚ) ^ count * 10 ^ gridExponent count f ≤ 10 * f.value := by
  have low := (Fraction.floorLog10_spec num_pos den_pos).1
  rw [← zpow_floorLog10_add_one, zpow_add_one₀ (by norm_num)]
  linarith

end Decimal

namespace Binary64.Size

variable {s : Size}

/-- Seventeen digits are enough to tell a double from its neighbours. -/
theorem toSize?_round_seventeen (canonical : s.Canonical) (nonzero : s.mantissa ≠ 0) :
    (Decimal.round 17 s.fraction).toSize? = some s := by
  have positive := value_pos nonzero
  have step := Decimal.grid_step_le (num_fraction_pos nonzero) s.den_fraction_pos 17
  have error := Decimal.abs_value_round_sub_le_half s.den_fraction_pos 17
  rw [value_fraction] at step error
  rw [Decimal.toSize?_eq_some_iff]
  refine ⟨canonical, isNearest_of_abs_sub_lt canonical (error.trans_lt ?_)⟩
  linarith

theorem toSize?_of_shortestOfCount? {count : Nat} {d : Decimal} (found : s.shortestOfCount? count = some d) :
    d.toSize? = some s := by
  unfold shortestOfCount? at found
  dsimp only at found
  split at found
  · next below above =>
    cases found
    split
    · exact eq_of_beq below
    · exact eq_of_beq above
  · next below _ =>
    cases found
    exact eq_of_beq below
  · next _ above =>
    cases found
    exact eq_of_beq above
  · cases found

theorem toSize?_shortest (canonical : s.Canonical) (nonzero : s.mantissa ≠ 0) :
    s.shortest.toSize? = some s := by
  rw [shortest, Decimal.toSize?_congr (Decimal.value_trim _)]
  cases search : (List.range 17).findSome? fun i => s.shortestOfCount? (i + 1) with
  | none => exact toSize?_round_seventeen canonical nonzero
  | some d =>
      obtain ⟨count, -, found⟩ := List.exists_of_findSome?_eq_some search
      exact toSize?_of_shortestOfCount? found

end Binary64.Size

end Metrology

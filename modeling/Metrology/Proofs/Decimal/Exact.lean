import Metrology.Proofs.Binary64.Stored
import Metrology.Proofs.Decimal.Stable

/-!
Decimals of few digits survive the way through a double: where doubles lie closer together than these
decimals, a double is the nearest one to only one of them, and this one is its shortest decimal.
-/

namespace Metrology

namespace Decimal

variable {d e : Decimal}

theorem trim_ends (nonzero : d.digits ≠ 0) : d.trim.digits % 10 ≠ 0 := by
  fun_induction trim d with
  | case1 d zero => exact absurd zero nonzero
  | case2 d nonzero tens ih =>
      apply ih
      change d.digits / 10 ≠ 0
      omega
  | case3 d nonzero other => exact other

theorem digits_trim_le (d : Decimal) : d.trim.digits ≤ d.digits := by
  fun_induction trim d with
  | case1 d zero => exact Nat.zero_le _
  | case2 d nonzero zeros ih => exact ih.trans (Nat.div_le_self _ _)
  | case3 d nonzero other => exact le_rfl

theorem exponent_le_of_value_eq (same : d.value = e.value) (ends : d.digits % 10 ≠ 0) :
    e.exponent ≤ d.exponent := by
  by_contra coarser
  have finer : d.exponent + 1 ≤ e.exponent := by omega
  obtain ⟨n, onGrid⟩ := exists_value_eq finer
  have power : (10 : ℚ) ^ d.exponent ≠ 0 := by positivity
  have tens : (d.digits : ℚ) = (n * 10 : Nat) := by
    apply mul_right_cancel₀ power
    rw [← value, same, onGrid, zpow_add_one₀ (by norm_num)]
    push_cast
    ring
  rw [Nat.cast_inj.mp tens] at ends
  exact ends (Nat.mul_mod_left n 10)

/-- The trimmed form of a decimal depends on its value alone. -/
theorem trim_eq_of_value_eq (same : d.value = e.value) : d.trim = e.trim := by
  by_cases zero : d.digits = 0
  · have zero' : e.digits = 0 := by
      rw [← value_eq_zero_iff, ← same, value_eq_zero_iff]
      exact zero
    rw [trim, if_pos zero, trim, if_pos zero']
  · have nonzero : e.digits ≠ 0 := by
      rw [ne_eq, ← value_eq_zero_iff, ← same, value_eq_zero_iff]
      exact zero
    have trimmed : d.trim.value = e.trim.value := by rw [value_trim, value_trim, same]
    have exponent : d.trim.exponent = e.trim.exponent :=
      le_antisymm (exponent_le_of_value_eq trimmed.symm (trim_ends nonzero))
        (exponent_le_of_value_eq trimmed (trim_ends zero))
    have power : (10 : ℚ) ^ e.trim.exponent ≠ 0 := by positivity
    rw [value, value, exponent] at trimmed
    have digits : d.trim.digits = e.trim.digits := Nat.cast_inj.mp (mul_right_cancel₀ power trimmed)
    calc d.trim = ⟨d.trim.digits, d.trim.exponent⟩ := rfl
      _ = ⟨e.trim.digits, e.trim.exponent⟩ := by rw [digits, exponent]

theorem step_le_sub (less : d.value < e.value) :
    (10 : ℚ) ^ min d.exponent e.exponent ≤ e.value - d.value := by
  obtain ⟨m, first⟩ := exists_value_eq (min_le_left d.exponent e.exponent)
  obtain ⟨n, second⟩ := exists_value_eq (min_le_right d.exponent e.exponent)
  have step : (0 : ℚ) < 10 ^ min d.exponent e.exponent := by positivity
  rw [first, second] at less ⊢
  have apart : m < n := by exact_mod_cast lt_of_mul_lt_mul_right less step.le
  have one : (m : ℚ) + 1 ≤ n := by exact_mod_cast apart
  calc (10 : ℚ) ^ min d.exponent e.exponent = (m + 1) * 10 ^ min d.exponent e.exponent -
        m * 10 ^ min d.exponent e.exponent := by ring
    _ ≤ n * 10 ^ min d.exponent e.exponent - m * 10 ^ min d.exponent e.exponent := by gcongr

end Decimal

namespace Binary64.Size

variable {r s t : Size} {x y : ℚ} {d e : Decimal} {count : Nat}

theorem leadingBit_le_of_exponent_lt (first : s.Canonical) (second : t.Canonical)
    (finer : s.exponent < t.exponent) : leadingBit ≤ t.mantissa :=
  second.2.2.2.resolve_right (first.2.1.trans_lt finer).ne'

theorem bits_lt_of_exponent_lt (first : s.Canonical) (second : t.Canonical)
    (finer : s.exponent < t.exponent) : s.bits < t.bits := by
  have leading := leadingBit_le_of_exponent_lt first second finer
  have full := first.1
  have least := first.2.1
  simp only [bits, leadingBit] at *
  omega

theorem value_lt_of_bits_lt (first : s.Canonical) (second : t.Canonical) (less : s.bits < t.bits) :
    s.value < t.value := by
  have step : (0 : ℚ) < 2 ^ s.exponent := by positivity
  have step' : (0 : ℚ) < 2 ^ t.exponent := by positivity
  rcases lt_trichotomy s.exponent t.exponent with finer | same | coarser
  · have leading := leadingBit_le_of_exponent_lt first second finer
    have full : (s.mantissa : ℚ) < 2 * leadingBit := by exact_mod_cast first.1
    have cast : (leadingBit : ℚ) ≤ t.mantissa := by exact_mod_cast leading
    have twice : 2 * (2 : ℚ) ^ s.exponent ≤ 2 ^ t.exponent := by
      rw [← zpow_one_add₀ two_ne_zero]
      exact zpow_le_zpow_right₀ (by norm_num) (by omega)
    calc s.value < 2 * leadingBit * 2 ^ s.exponent := mul_lt_mul_of_pos_right full step
      _ = leadingBit * (2 * 2 ^ s.exponent) := by ring
      _ ≤ leadingBit * 2 ^ t.exponent := mul_le_mul_of_nonneg_left twice (Nat.cast_nonneg _)
      _ ≤ t.value := mul_le_mul_of_nonneg_right cast step'.le
  · have mantissa : s.mantissa < t.mantissa := by
      rw [bits, bits, same] at less
      omega
    rw [value, value, same]
    exact mul_lt_mul_of_pos_right (by exact_mod_cast mantissa) step'
  · exact absurd (bits_lt_of_exponent_lt second first coarser) less.asymm

theorem bits_injective (first : s.Canonical) (second : t.Canonical) (same : s.bits = t.bits) : s = t := by
  rw [← ofBits_bits first, same, ofBits_bits second]

theorem eq_of_isNearest (first : s.Canonical) (second : t.Canonical) (positive : 0 < x) (near : s.IsNearest x)
    (near' : t.IsNearest x) : s = t := by
  obtain ⟨f, num_pos, den_pos, rfl⟩ := Fraction.exists_value_eq positive
  have read := (nearest?_eq_some_iff num_pos den_pos).mpr ⟨first, near⟩
  have read' := (nearest?_eq_some_iff num_pos den_pos).mpr ⟨second, near'⟩
  exact Option.some.inj (read.symm.trans read')

theorem bits_le_of_le (first : s.Canonical) (second : t.Canonical) (positive : 0 < x) (order : x ≤ y)
    (near : s.IsNearest x) (near' : t.IsNearest y) : s.bits ≤ t.bits := by
  by_contra less
  have values := value_lt_of_bits_lt second first (not_le.mp less)
  have apart : s ≠ t := fun same => less (by rw [same])
  rcases le_or_gt s.value y with inside | beyond
  · have nonneg : 0 ≤ t.value := mul_nonneg (Nat.cast_nonneg _) (by positivity)
    have both := t.isNearest_value.between near' values.le inside
    exact apart (eq_of_isNearest first second (nonneg.trans_lt values) s.isNearest_value both)
  · have both := near.between s.isNearest_value order beyond.le
    exact apart (eq_of_isNearest first second (positive.trans_le order) both near')

/-- A double that a decimal of at most so many digits is read as, where more doubles than such decimals lead up
to it. -/
structure StandsFor (r : Size) (count : Nat) (d : Decimal) : Prop where
  canonical : r.Canonical
  near : r.IsNearest d.value
  digits : d.digits ≤ 10 ^ count
  many : 10 ^ count < r.mantissa

theorem standsFor_of_toSize? (read : d.toSize? = some r) (digits : d.digits ≤ 10 ^ count)
    (many : 10 ^ count < r.mantissa) : r.StandsFor count d := by
  obtain ⟨canonical, near⟩ := (Decimal.toSize?_eq_some_iff d r).mp read
  exact ⟨canonical, near, digits, many⟩

namespace StandsFor

theorem value_pos (stands : r.StandsFor count d) : 0 < d.value := by
  have step : (0 : ℚ) < 2 ^ r.exponent := by positivity
  have one : (1 : ℚ) ≤ r.mantissa := by exact_mod_cast Nat.one_le_of_lt stands.many
  exact (mul_pos (by linarith) step).trans_le stands.near.bounds.1

theorem digits_ne_zero (stands : r.StandsFor count d) : d.digits ≠ 0 := by
  rw [ne_eq, ← Decimal.value_eq_zero_iff]
  exact stands.value_pos.ne'

theorem not_value_lt (stands : r.StandsFor count d) (stands' : r.StandsFor count e) : ¬d.value < e.value := by
  intro less
  obtain ⟨low, -⟩ := stands.near.bounds
  obtain ⟨-, high⟩ := stands'.near.bounds
  have step : (0 : ℚ) < 2 ^ r.exponent := by positivity
  have close := Decimal.step_le_sub less
  set finer := min d.exponent e.exponent with finer_def
  have grids : (10 : ℚ) ^ finer ≤ 2 ^ r.exponent := by linarith
  -- The decimal on the finer grid is too small for the double.
  have small : (r.mantissa - 1 / 2) * (2 : ℚ) ^ r.exponent ≤ 10 ^ count * 10 ^ finer := by
    rcases min_choice d.exponent e.exponent with first | second
    · have digits : (d.digits : ℚ) ≤ 10 ^ count := by exact_mod_cast stands.digits
      calc (r.mantissa - 1 / 2) * (2 : ℚ) ^ r.exponent ≤ d.value := low
        _ ≤ 10 ^ count * 10 ^ finer := by rw [finer_def, first, Decimal.value]; gcongr
    · have digits : (e.digits : ℚ) ≤ 10 ^ count := by exact_mod_cast stands'.digits
      calc (r.mantissa - 1 / 2) * (2 : ℚ) ^ r.exponent ≤ e.value := low.trans less.le
        _ ≤ 10 ^ count * 10 ^ finer := by rw [finer_def, second, Decimal.value]; gcongr
  have mantissa : (r.mantissa : ℚ) - 1 / 2 ≤ 10 ^ count := by
    apply le_of_mul_le_mul_right _ step
    exact small.trans (mul_le_mul_of_nonneg_left grids (by positivity))
  have more : (10 : ℚ) ^ count + 1 ≤ r.mantissa := by exact_mod_cast stands.many
  linarith

theorem value_eq (stands : r.StandsFor count d) (stands' : r.StandsFor count e) : d.value = e.value :=
  le_antisymm (not_lt.mp (stands'.not_value_lt stands)) (not_lt.mp (stands.not_value_lt stands'))

theorem bits_le_iff (stands : r.StandsFor count d) (stands' : s.StandsFor count e) :
    r.bits ≤ s.bits ↔ d.value ≤ e.value := by
  have monotone := fun order => bits_le_of_le stands.canonical stands'.canonical stands.value_pos order
    stands.near stands'.near
  refine ⟨fun order => ?_, monotone⟩
  by_contra less
  rw [not_le] at less
  have turned := bits_le_of_le stands'.canonical stands.canonical stands'.value_pos less.le stands'.near
    stands.near
  have same := bits_injective stands.canonical stands'.canonical (le_antisymm order turned)
  subst same
  exact less.ne (stands'.value_eq stands)

end StandsFor

/-- On the grid of a double, a decimal below or above it is read as the double if any decimal is. -/
theorem shortestOfCount?_isSome (canonical : s.Canonical) {n : Nat}
    (near : s.IsNearest (n * (10 : ℚ) ^ Decimal.gridExponent count s.fraction)) :
    (s.shortestOfCount? count).isSome = true := by
  set grid := Decimal.gridExponent count s.fraction with grid_def
  set scaled := s.fraction.shift 10 (-grid) with scaled_def
  have step : (0 : ℚ) < 10 ^ grid := by positivity
  have den_pos : 0 < scaled.den := Fraction.den_shift_pos s.den_fraction_pos (by norm_num) _
  have onGrid : scaled.value * 10 ^ grid = s.value := by
    rw [Decimal.value_scaled, value_fraction, div_mul_cancel₀ _ step.ne']
  have one_reads : s.reads ⟨scaled.floor, grid⟩ = true ∨ s.reads ⟨scaled.floor + 1, grid⟩ = true := by
    rcases le_or_gt n scaled.floor with below | above
    · left
      have cast : (n : ℚ) ≤ scaled.floor := by exact_mod_cast below
      have low : (n : ℚ) * 10 ^ grid ≤ scaled.floor * 10 ^ grid := mul_le_mul_of_nonneg_right cast step.le
      have high : (scaled.floor : ℚ) * 10 ^ grid ≤ s.value := by
        rw [← onGrid]
        exact mul_le_mul_of_nonneg_right (Fraction.floor_le den_pos) step.le
      rw [reads, beq_iff_eq, Decimal.toSize?_eq_some_iff]
      exact ⟨canonical, near.between s.isNearest_value low high⟩
    · right
      have cast : ((scaled.floor + 1 : Nat) : ℚ) ≤ n := by exact_mod_cast above
      have high : ((scaled.floor + 1 : Nat) : ℚ) * 10 ^ grid ≤ n * 10 ^ grid :=
        mul_le_mul_of_nonneg_right cast step.le
      have low : s.value ≤ ((scaled.floor + 1 : Nat) : ℚ) * 10 ^ grid := by
        rw [← onGrid]
        exact mul_le_mul_of_nonneg_right (Fraction.lt_floor_add_one den_pos).le step.le
      rw [reads, beq_iff_eq, Decimal.toSize?_eq_some_iff]
      exact ⟨canonical, s.isNearest_value.between near low high⟩
  unfold shortestOfCount?
  dsimp only
  split
  · rfl
  · rfl
  · rfl
  · next no_below no_above =>
    rw [no_below, no_above] at one_reads
    rcases one_reads with no | no <;> cases no

theorem digits_of_shortestOfCount? (nonzero : s.mantissa ≠ 0) (found : s.shortestOfCount? count = some d) :
    d.digits ≤ 10 ^ count := by
  have den_pos : 0 < (s.fraction.shift 10 (-Decimal.gridExponent count s.fraction)).den :=
    Fraction.den_shift_pos s.den_fraction_pos (by norm_num) _
  have floor : (s.fraction.shift 10 (-Decimal.gridExponent count s.fraction)).floor < 10 ^ count := by
    have decade := (Fraction.floorLog10_spec (num_fraction_pos nonzero) s.den_fraction_pos).2
    have cast : ((s.fraction.shift 10 (-Decimal.gridExponent count s.fraction)).floor : ℚ) < 10 ^ count := by
      refine (Fraction.floor_le den_pos).trans_lt ?_
      rwa [Decimal.value_scaled, div_lt_iff₀ (by positivity), ← Decimal.zpow_floorLog10_add_one]
    exact_mod_cast cast
  unfold shortestOfCount? at found
  dsimp only at found
  split at found
  · cases found
    split
    · exact floor.le
    · exact floor
  · cases found
    exact floor.le
  · cases found
    exact floor
  · cases found

theorem exists_shortest (nonzero : s.mantissa ≠ 0) (few : count < 17)
    (found : (s.shortestOfCount? (count + 1)).isSome = true) :
    ∃ d : Decimal, d.digits ≤ 10 ^ (count + 1) ∧ s.IsNearest d.value ∧ s.shortest = d.trim := by
  have early : ((List.range (count + 1)).findSome? fun i => s.shortestOfCount? (i + 1)).isSome = true := by
    rw [List.findSome?_isSome_iff]
    exact ⟨count, List.self_mem_range_succ, found⟩
  obtain ⟨d, first⟩ := Option.isSome_iff_exists.mp early
  obtain ⟨index, inside, hit⟩ := List.exists_of_findSome?_eq_some first
  have fewer : index ≤ count := Nat.le_of_lt_succ (List.mem_range.mp inside)
  have parts : List.range 17 = List.range (count + 1) ++ (List.range (16 - count)).map (count + 1 + ·) := by
    rw [← List.range_add]
    congr 1
    omega
  have search : ((List.range 17).findSome? fun i => s.shortestOfCount? (i + 1)) = some d := by
    rw [parts, List.findSome?_append, first, Option.some_or]
  refine ⟨d, ?_, ((Decimal.toSize?_eq_some_iff d s).mp (toSize?_of_shortestOfCount? hit)).2, ?_⟩
  · exact (digits_of_shortestOfCount? nonzero hit).trans (Nat.pow_le_pow_right (by norm_num) (by omega))
  · rw [shortest, search, Option.getD_some]

/-- A double that stands for a decimal has it as its shortest decimal, if its own grid has a number that is
read as it. -/
theorem StandsFor.shortest_eq_trim (stands : s.StandsFor count d) (some_digit : 0 < count) (few : count ≤ 17)
    {n : Nat} (onGrid : s.IsNearest (n * (10 : ℚ) ^ Decimal.gridExponent count s.fraction)) :
    s.shortest = d.trim := by
  obtain ⟨fewer, rfl⟩ : ∃ fewer, count = fewer + 1 := ⟨count - 1, by omega⟩
  obtain ⟨e, digits, near, shortest⟩ := exists_shortest (Nat.ne_zero_of_lt stands.many) (by omega)
    (shortestOfCount?_isSome stands.canonical onGrid)
  have found : s.StandsFor (fewer + 1) e := ⟨stands.canonical, near, digits, stands.many⟩
  rw [shortest, Decimal.trim_eq_of_value_eq (found.value_eq stands)]

theorem half_le_value_round (nonzero : s.mantissa ≠ 0) (some_digit : 0 < count) :
    s.value / 2 ≤ (Decimal.round count s.fraction).value := by
  have step := Decimal.grid_step_le (num_fraction_pos nonzero) s.den_fraction_pos count
  have error := Decimal.abs_value_round_sub_le_half s.den_fraction_pos count
  have digits : (10 : ℚ) ^ 1 ≤ 10 ^ count := pow_le_pow_right₀ (by norm_num) some_digit
  have grid : (0 : ℚ) < 10 ^ Decimal.gridExponent count s.fraction := by positivity
  have ten := mul_le_mul_of_nonneg_right digits grid.le
  rw [value_fraction] at step error
  have low := (abs_le.mp error).1
  linarith

/-- The double that a rounded normal double is read as has more steps than there are decimals. -/
theorem pow_lt_mantissa (nonzero : s.mantissa ≠ 0) (normal : (2 : ℚ) ^ (-1022 : Int) ≤ s.value)
    (some_digit : 0 < count) (few : count ≤ 15) (canonical : r.Canonical)
    (near : r.IsNearest (Decimal.round count s.fraction).value) : 10 ^ count < r.mantissa := by
  have digits : 10 ^ count ≤ 10 ^ 15 := Nat.pow_le_pow_right (by norm_num) few
  rcases canonical.2.2.2 with leading | finest
  · rw [leadingBit] at leading
    omega
  · have half := half_le_value_round nonzero some_digit
    have high := near.bounds.2
    rw [finest] at high
    have step : (0 : ℚ) < 2 ^ leastExponent := by positivity
    have scale : (2 : ℚ) ^ (-1022 : Int) / 2 = 2 ^ 51 * 2 ^ leastExponent := by
      have step : (2 : ℚ) ^ (-1022 : Int) = 2 ^ 52 * 2 ^ leastExponent := zpow_add₀ two_ne_zero 52 leastExponent
      rw [step]
      ring
    have mantissa : (2 : ℚ) ^ 51 ≤ r.mantissa + 1 / 2 := by
      apply le_of_mul_le_mul_right _ step
      rw [← scale]
      linarith
    have many : ((10 ^ 15 : Nat) : ℚ) < r.mantissa := by
      push_cast
      linarith
    exact digits.trans_lt (by exact_mod_cast many)

/-- What a rounded normal double is read as stands for the rounded number. -/
theorem standsFor_round (nonzero : s.mantissa ≠ 0) (normal : (2 : ℚ) ^ (-1022 : Int) ≤ s.value)
    (some_digit : 0 < count) (few : count ≤ 15) (canonical : r.Canonical)
    (near : r.IsNearest (Decimal.round count s.fraction).value) :
    r.StandsFor count (Decimal.round count s.fraction) where
  canonical := canonical
  near := near
  digits := Decimal.digits_round_le (num_fraction_pos nonzero) s.den_fraction_pos count
  many := pow_lt_mantissa nonzero normal some_digit few canonical near

theorem StandsFor.shortest_eq_trim_round (stands : r.StandsFor count (Decimal.round count s.fraction))
    (nonzero : s.mantissa ≠ 0) (some_digit : 0 < count) (few : count ≤ 17) :
    r.shortest = (Decimal.round count s.fraction).trim := by
  obtain ⟨n, onGrid⟩ := exists_isNearest_on_grid (num_fraction_pos nonzero) s.den_fraction_pos some_digit
    (Nat.ne_zero_of_lt stands.many) stands.near
  exact stands.shortest_eq_trim some_digit few onGrid

end Binary64.Size

end Metrology

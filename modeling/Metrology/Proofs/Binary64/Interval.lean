import Metrology.Proofs.Binary64.Nearest

/-!
The numbers that a double is the nearest one to: an interval of half a step on both sides, or of a quarter of
a step below a power of two, where the doubles lie twice as close.
-/

namespace Metrology.Binary64.Size

/-- Where the numbers begin that a size is nearest to, in steps of its grid. -/
def lowerEdge (s : Size) : ℚ :=
  if s.mantissa = leadingBit ∧ leastExponent < s.exponent then s.mantissa - 1 / 4 else s.mantissa - 1 / 2

/-- Whether a size is the nearest one to a number. Between two of them it takes the even mantissa. -/
def IsNearest (s : Size) (x : ℚ) : Prop :=
  WithinTies s.mantissa s.lowerEdge (s.mantissa + 1 / 2) (x / (2 : ℚ) ^ s.exponent)

variable {s : Size} {x y z : ℚ}

theorem value_div (s : Size) : s.value / (2 : ℚ) ^ s.exponent = s.mantissa := by
  have power : (2 : ℚ) ^ s.exponent ≠ 0 := by positivity
  rw [value, mul_div_assoc, div_self power, mul_one]

theorem lowerEdge_lt (s : Size) : s.lowerEdge < s.mantissa := by
  unfold lowerEdge
  split <;> linarith

theorem le_lowerEdge (s : Size) : (s.mantissa : ℚ) - 1 / 2 ≤ s.lowerEdge := by
  unfold lowerEdge
  split <;> linarith

theorem isNearest_value (s : Size) : s.IsNearest s.value := by
  rw [IsNearest, value_div]
  exact WithinTies.of_lt s.lowerEdge_lt (by linarith)

theorem IsNearest.between (first : s.IsNearest x) (last : s.IsNearest z) (above : x ≤ y) (below : y ≤ z) :
    s.IsNearest y := by
  have power : (0 : ℚ) ≤ 2 ^ s.exponent := by positivity
  exact WithinTies.between first last (div_le_div_of_nonneg_right above power)
    (div_le_div_of_nonneg_right below power)

theorem abs_sub_value_div (s : Size) (x : ℚ) :
    |x - s.value| / (2 : ℚ) ^ s.exponent = |x / (2 : ℚ) ^ s.exponent - s.mantissa| := by
  have power : (0 : ℚ) < 2 ^ s.exponent := by positivity
  rw [← value_div, ← sub_div, abs_div, abs_of_pos power]

theorem IsNearest.abs_sub_le (near : s.IsNearest x) : |x - s.value| ≤ 1 / 2 * (2 : ℚ) ^ s.exponent := by
  have power : (0 : ℚ) < 2 ^ s.exponent := by positivity
  obtain ⟨low, high⟩ := WithinTies.bounds near
  rw [← div_le_iff₀ power, abs_sub_value_div, abs_le]
  constructor <;> linarith [s.le_lowerEdge]

theorem IsNearest.bounds (near : s.IsNearest x) :
    (s.mantissa - 1 / 2) * (2 : ℚ) ^ s.exponent ≤ x ∧ x ≤ (s.mantissa + 1 / 2) * (2 : ℚ) ^ s.exponent := by
  obtain ⟨low, high⟩ := abs_le.mp near.abs_sub_le
  rw [value] at low high
  constructor <;> linarith

theorem IsNearest.of_closer (finest : s.exponent = leastExponent) (near : s.IsNearest x)
    (closer : |y - s.value| ≤ |x - s.value|) : s.IsNearest y := by
  have power : (0 : ℚ) < 2 ^ s.exponent := by positivity
  have edge : s.lowerEdge = s.mantissa - 1 / 2 := if_neg fun power => power.2.ne' finest
  have steps := div_le_div_of_nonneg_right closer power.le
  rw [abs_sub_value_div, abs_sub_value_div] at steps
  unfold IsNearest at near ⊢
  rw [edge, WithinTies.iff_abs] at near ⊢
  split at near
  · next even => rw [if_pos even]; exact steps.trans near
  · next odd => rw [if_neg odd]; exact steps.trans_lt near

theorem isNearest_of_abs_sub_lt (canonical : s.Canonical) (close : |x - s.value| < s.value / 2 ^ 54) :
    s.IsNearest x := by
  have power : (0 : ℚ) < 2 ^ s.exponent := by positivity
  have steps := div_lt_div_of_pos_right close power
  rw [abs_sub_value_div, div_right_comm, value_div, abs_lt] at steps
  have full : (s.mantissa : ℚ) < 2 * leadingBit := by exact_mod_cast canonical.1
  have bit : (leadingBit : ℚ) = 2 ^ 52 := by norm_num [leadingBit]
  have half : (s.mantissa : ℚ) / 2 ^ 54 < 1 / 2 := by linarith
  have edge : (s.mantissa : ℚ) / 2 ^ 54 ≤ s.mantissa - s.lowerEdge := by
    unfold lowerEdge
    split
    · next power => rw [power.1, bit]; norm_num
    · linarith
  exact WithinTies.of_lt (by linarith) (by linarith)

theorem zero_canonical : zero.Canonical :=
  ⟨by decide, le_rfl, by decide, Or.inr rfl⟩

theorem eq_zero_of_mantissa {s : Size} (canonical : s.Canonical) (nothing : s.mantissa = 0) : s = zero := by
  obtain ⟨-, -, -, leading | least⟩ := canonical
  · rw [nothing] at leading
    exact absurd leading (by decide)
  · obtain ⟨mantissa, exponent⟩ := s
    cases nothing
    cases least
    rfl

theorem eq_zero_of_isNearest_zero {s : Size} (canonical : s.Canonical) (near : s.IsNearest 0) : s = zero := by
  have low := (WithinTies.bounds near).1
  have edge := s.le_lowerEdge
  rw [zero_div] at low
  have less : (s.mantissa : ℚ) < 1 := by linarith
  have nothing : s.mantissa < 1 := by exact_mod_cast less
  exact eq_zero_of_mantissa canonical (Nat.lt_one_iff.mp nothing)

variable {f : Fraction}

structure IsGrid (f : Fraction) (exponent : Int) : Prop where
  least : leastExponent ≤ exponent
  below : f.value / (2 : ℚ) ^ exponent < 2 * leadingBit
  above : exponent = leastExponent ∨ leadingBit ≤ f.value / (2 : ℚ) ^ exponent

theorem isGrid_gridExponent (num_pos : 0 < f.num) (den_pos : 0 < f.den) : IsGrid f (gridExponent f) := by
  obtain ⟨low, high⟩ := Fraction.floorLog2_spec num_pos den_pos
  have power : (0 : ℚ) < 2 ^ gridExponent f := by positivity
  have bit : (leadingBit : ℚ) = 2 ^ (52 : Int) := by norm_num [leadingBit]
  have twice : (2 : ℚ) * leadingBit = 2 ^ (53 : Int) := by norm_num [leadingBit]
  refine ⟨le_max_left _ _, ?_, ?_⟩
  · rw [div_lt_iff₀ power, twice, ← zpow_add₀ two_ne_zero]
    refine high.trans_le (zpow_le_zpow_right₀ (by norm_num) ?_)
    unfold gridExponent
    omega
  · rcases max_choice leastExponent (f.floorLog2 - 52) with finest | full
    · exact Or.inl finest
    · right
      rw [le_div_iff₀ power, bit, ← zpow_add₀ two_ne_zero, gridExponent, full, add_sub_cancel]
      exact low

theorem IsGrid.not_lt {first second : Int} (fine : IsGrid f first) (coarse : IsGrid f second) :
    ¬first < second := by
  intro finer
  have full := coarse.above.resolve_left (by have := fine.least; omega)
  have short := fine.below
  rw [le_div_iff₀ (by positivity)] at full
  rw [div_lt_iff₀ (by positivity)] at short
  have step : (2 : ℚ) * 2 ^ first ≤ 2 ^ second := by
    rw [← zpow_one_add₀ two_ne_zero]
    exact zpow_le_zpow_right₀ (by norm_num) (by omega)
  have apart : (leadingBit : ℚ) * (2 * 2 ^ first) ≤ leadingBit * 2 ^ second :=
    mul_le_mul_of_nonneg_left step (Nat.cast_nonneg _)
  linarith

theorem gridExponent_eq (num_pos : 0 < f.num) (den_pos : 0 < f.den) {exponent : Int}
    (grid : IsGrid f exponent) : gridExponent f = exponent := by
  have own := isGrid_gridExponent num_pos den_pos
  exact le_antisymm (Int.not_lt.mp (grid.not_lt own)) (Int.not_lt.mp (own.not_lt grid))

/-- A rounded mantissa with its exponent; a mantissa of 54 bits moves to the next grid. -/
def carry (mantissa : Nat) (exponent : Int) : Size :=
  if mantissa = 2 * leadingBit then ⟨leadingBit, exponent + 1⟩ else ⟨mantissa, exponent⟩

theorem nearest?_eq (f : Fraction) :
    nearest? f =
      let size := carry (f.shift 2 (-gridExponent f)).round (gridExponent f)
      if greatestExponent < size.exponent then none else some size := rfl

theorem round_shift_eq_iff (den_pos : 0 < f.den) (exponent : Int) (mantissa : Nat) :
    (f.shift 2 (-exponent)).round = mantissa ↔
      WithinTies mantissa ((mantissa : ℚ) - 1 / 2) (mantissa + 1 / 2) (f.value / (2 : ℚ) ^ exponent) := by
  rw [Fraction.round_eq_iff (Fraction.den_shift_pos den_pos two_pos _), Fraction.value_shift_neg two_pos,
    Nat.cast_ofNat]

structure IsRounding (f : Fraction) (mantissa : Nat) (exponent : Int) : Prop where
  grid : IsGrid f exponent
  rounded : WithinTies mantissa ((mantissa : ℚ) - 1 / 2) (mantissa + 1 / 2) (f.value / (2 : ℚ) ^ exponent)

theorem isRounding_round (num_pos : 0 < f.num) (den_pos : 0 < f.den) :
    IsRounding f (f.shift 2 (-gridExponent f)).round (gridExponent f) :=
  ⟨isGrid_gridExponent num_pos den_pos, (round_shift_eq_iff den_pos _ _).mp rfl⟩

theorem div_zpow_add_one (x : ℚ) (exponent : Int) :
    x / (2 : ℚ) ^ (exponent + 1) = x / (2 : ℚ) ^ exponent / 2 := by
  rw [zpow_add_one₀ two_ne_zero, div_div]

namespace IsRounding

variable {mantissa : Nat} {exponent : Int}

theorem carry_canonical (rounding : IsRounding f mantissa exponent)
    (finite : (carry mantissa exponent).exponent ≤ greatestExponent) :
    (carry mantissa exponent).Canonical := by
  obtain ⟨low, high⟩ := rounding.rounded.bounds
  have least := rounding.grid.least
  revert finite
  unfold carry
  split
  · intro finite
    exact ⟨by change leadingBit < 2 * leadingBit; decide, Int.le_add_one least, finite, Or.inl le_rfl⟩
  · next partly =>
    intro finite
    have full : (mantissa : ℚ) < 2 * leadingBit + 1 := by linarith [rounding.grid.below]
    have whole : mantissa < 2 * leadingBit + 1 := by exact_mod_cast full
    refine ⟨Nat.lt_of_le_of_ne (Nat.le_of_lt_succ whole) partly, least, finite, ?_⟩
    rcases rounding.grid.above with finest | leading
    · exact Or.inr finest
    · left
      have reached : (leadingBit : ℚ) < mantissa + 1 := by linarith
      have cast : leadingBit < mantissa + 1 := by exact_mod_cast reached
      exact Nat.le_of_lt_succ cast

theorem carry_isNearest (rounding : IsRounding f mantissa exponent) :
    (carry mantissa exponent).IsNearest f.value := by
  obtain ⟨low, high⟩ := rounding.rounded.bounds
  have least := rounding.grid.least
  unfold carry
  split
  · next full =>
    have cast : (mantissa : ℚ) = 2 * leadingBit := by rw [full]; push_cast; rfl
    have edge : lowerEdge ⟨leadingBit, exponent + 1⟩ = leadingBit - 1 / 4 :=
      if_pos ⟨rfl, Int.lt_add_one_of_le least⟩
    have even : leadingBit % 2 = 0 := by decide
    rw [IsNearest, WithinTies.iff_of_even even, edge, div_zpow_add_one]
    constructor <;> linarith
  · next partly =>
    unfold IsNearest lowerEdge
    split
    · next power =>
      obtain ⟨leading, coarse⟩ := power
      simp only at leading coarse
      have reached := rounding.grid.above.resolve_left coarse.ne'
      have even : mantissa % 2 = 0 := by rw [leading]; decide
      rw [WithinTies.iff_of_even even, leading]
      rw [leading] at high
      constructor <;> linarith
    · exact rounding.rounded

end IsRounding

/-- Every size that is nearest to a fraction comes from rounding on the grid of the fraction. -/
theorem exists_isRounding (canonical : s.Canonical) (near : s.IsNearest f.value) :
    ∃ mantissa exponent, IsRounding f mantissa exponent ∧ carry mantissa exponent = s := by
  obtain ⟨full, least, -, leading⟩ := canonical
  obtain ⟨low, high⟩ := WithinTies.bounds near
  have whole : (s.mantissa : ℚ) + 1 ≤ 2 * leadingBit := by exact_mod_cast full
  by_cases own : s.exponent = leastExponent ∨ leadingBit ≤ f.value / (2 : ℚ) ^ s.exponent
  · refine ⟨s.mantissa, s.exponent, ⟨⟨least, by linarith, own⟩, ?_⟩, if_neg full.ne⟩
    unfold IsNearest lowerEdge at near
    split at near
    · next power =>
      have reached := own.resolve_left power.2.ne'
      rw [WithinTies.iff_of_even (by rw [power.1]; decide), power.1] at near ⊢
      exact ⟨by linarith, near.2⟩
    · exact near
  · -- Only a power of two is nearest to numbers on the finer grid below it.
    obtain ⟨coarse, short⟩ := not_or.mp own
    rw [not_le] at short
    have reached := leading.resolve_right coarse
    have power : s.mantissa = leadingBit := by
      by_contra more
      have beyond : (leadingBit : ℚ) + 1 ≤ s.mantissa := by
        exact_mod_cast Nat.lt_of_le_of_ne reached (Ne.symm more)
      linarith [s.le_lowerEdge]
    have edge : s.lowerEdge = leadingBit - 1 / 4 := by
      rw [lowerEdge, if_pos ⟨power, lt_of_le_of_ne least (Ne.symm coarse)⟩, power]
    have halved := div_zpow_add_one f.value (s.exponent - 1)
    rw [sub_add_cancel] at halved
    have bit : (1 : ℚ) ≤ leadingBit := by norm_num [leadingBit]
    refine ⟨2 * leadingBit, s.exponent - 1, ⟨⟨?_, by linarith, Or.inr (by linarith)⟩, ?_⟩, ?_⟩
    · exact Int.le_sub_one_of_lt (lt_of_le_of_ne least (Ne.symm coarse))
    · rw [WithinTies.iff_of_even (by decide)]
      push_cast
      constructor <;> linarith
    · rw [carry, if_pos rfl, sub_add_cancel, ← power]

theorem nearest?_eq_some_iff (num_pos : 0 < f.num) (den_pos : 0 < f.den) :
    nearest? f = some s ↔ s.Canonical ∧ s.IsNearest f.value := by
  rw [nearest?_eq]
  dsimp only
  constructor
  · intro found
    have rounding := isRounding_round num_pos den_pos
    split at found
    · cases found
    · next finite =>
      cases found
      exact ⟨rounding.carry_canonical (not_lt.mp finite), rounding.carry_isNearest⟩
  · rintro ⟨canonical, near⟩
    obtain ⟨mantissa, exponent, rounding, rfl⟩ := exists_isRounding canonical near
    have grid := gridExponent_eq num_pos den_pos rounding.grid
    have round := (round_shift_eq_iff den_pos exponent mantissa).mpr rounding.rounded
    rw [grid, round, if_neg (not_lt.mpr canonical.2.2.1)]

/-- The nearest size depends on the value of a fraction alone. -/
theorem nearest?_congr {g : Fraction} (num_pos : 0 < f.num) (den_pos : 0 < f.den) (num_pos' : 0 < g.num)
    (den_pos' : 0 < g.den) (same : f.value = g.value) : nearest? f = nearest? g := by
  cases found : nearest? g with
  | none =>
    rw [nearest?_eq_none_iff num_pos' den_pos', ← same] at found
    exact (nearest?_eq_none_iff num_pos den_pos).mpr found
  | some s =>
    rw [nearest?_eq_some_iff num_pos' den_pos', ← same] at found
    exact (nearest?_eq_some_iff num_pos den_pos).mpr found

end Metrology.Binary64.Size

import Mathlib.Algebra.Field.Rat
import Mathlib.Algebra.Order.Field.Power
import Mathlib.Algebra.Order.Field.Rat
import Mathlib.Data.Rat.Cast.Order
import Mathlib.Tactic.Linarith
import Mathlib.Tactic.FieldSimp
import Mathlib.Tactic.Positivity
import Mathlib.Tactic.Ring
import Metrology.Decimal

namespace Metrology

theorem roundHalfEven_le {num den k : Nat} (den_pos : 0 < den) (bound : num ≤ k * den) :
    roundHalfEven num den ≤ k := by
  have split := Nat.div_add_mod num den
  have rest := Nat.mod_lt num den_pos
  unfold roundHalfEven
  dsimp only
  split
  · exact Nat.div_le_of_le_mul (by rwa [Nat.mul_comm])
  · next up =>
    have inexact : num % den ≠ 0 := by omega
    have below : num / den < k := by
      apply Nat.lt_of_not_le
      intro above
      have product : den * k ≤ den * (num / den) := Nat.mul_le_mul_left den above
      rw [Nat.mul_comm den k] at product
      omega
    omega

theorem le_roundHalfEven {num den k : Nat} (den_pos : 0 < den) (bound : k * den ≤ num) :
    k ≤ roundHalfEven num den := by
  have floor : k ≤ num / den := (Nat.le_div_iff_mul_le den_pos).mpr bound
  unfold roundHalfEven
  dsimp only
  split <;> omega

/-- An integer is reached from half a unit below it upwards, half a unit itself being enough for an even
one. -/
theorem le_roundHalfEven_iff {num den : Nat} (den_pos : 0 < den) (k : Nat) :
    k ≤ roundHalfEven num den ↔
      if k % 2 = 0 then 2 * k * den ≤ 2 * num + den else 2 * k * den < 2 * num + den := by
  have split := Nat.div_add_mod num den
  have rest := Nat.mod_lt num den_pos
  rcases Nat.lt_trichotomy k (num / den + 1) with below | next | above
  · have product : k * den ≤ num := (Nat.le_div_iff_mul_le den_pos).mp (by omega)
    have reached := le_roundHalfEven den_pos product
    rw [Nat.mul_assoc]
    split <;> omega
  · have product : k * den = den * (num / den) + den := by rw [next, Nat.add_mul, Nat.mul_comm, one_mul]
    rw [Nat.mul_assoc, product]
    unfold roundHalfEven
    dsimp only
    split <;> split <;> omega
  · have product : (num / den + 2) * den ≤ k * den := Nat.mul_le_mul_right den above
    have bound : num ≤ (num / den + 1) * den := by
      rw [Nat.add_mul, Nat.mul_comm (num / den)]
      omega
    have unreached := roundHalfEven_le den_pos bound
    rw [Nat.add_mul, Nat.mul_comm (num / den)] at product
    rw [Nat.mul_assoc]
    split <;> omega

/-- A bound between two neighbours on a grid is reached from the upper one onwards. -/
theorem le_mul_step_iff {bound step : ℚ} {k n : Nat} (step_pos : 0 < step) (below : k * step < bound)
    (above : bound ≤ (k + 1 : Nat) * step) : bound ≤ n * step ↔ k + 1 ≤ n := by
  constructor
  · intro reached
    have more : (k : ℚ) < n := lt_of_mul_lt_mul_right (below.trans_le reached) step_pos.le
    exact_mod_cast more
  · intro more
    have cast : ((k + 1 : Nat) : ℚ) ≤ n := by exact_mod_cast more
    exact above.trans (mul_le_mul_of_nonneg_right cast step_pos.le)

/-- Between two bounds, which are ties and count as inside for an even integer. -/
def WithinTies (k : Nat) (low high x : ℚ) : Prop :=
  if k % 2 = 0 then low ≤ x ∧ x ≤ high else low < x ∧ x < high

namespace WithinTies

variable {k : Nat} {low high x y z : ℚ}

theorem of_lt (above : low < x) (below : x < high) : WithinTies k low high x := by
  unfold WithinTies
  split
  · exact ⟨above.le, below.le⟩
  · exact ⟨above, below⟩

theorem bounds (within : WithinTies k low high x) : low ≤ x ∧ x ≤ high := by
  unfold WithinTies at within
  split at within
  · exact within
  · exact ⟨within.1.le, within.2.le⟩

theorem iff_of_even (even : k % 2 = 0) : WithinTies k low high x ↔ low ≤ x ∧ x ≤ high := by
  rw [WithinTies, if_pos even]

theorem iff_abs {half : ℚ} :
    WithinTies k (y - half) (y + half) x ↔ if k % 2 = 0 then |x - y| ≤ half else |x - y| < half := by
  unfold WithinTies
  split
  · rw [abs_le]
    constructor <;> rintro ⟨above, below⟩ <;> constructor <;> linarith
  · rw [abs_lt]
    constructor <;> rintro ⟨above, below⟩ <;> constructor <;> linarith

theorem between (first : WithinTies k low high x) (last : WithinTies k low high z) (above : x ≤ y)
    (below : y ≤ z) : WithinTies k low high y := by
  unfold WithinTies at first last ⊢
  by_cases even : k % 2 = 0
  · simp only [even, if_true] at first last ⊢
    exact ⟨first.1.trans above, below.trans last.2⟩
  · simp only [even, if_false] at first last ⊢
    exact ⟨first.1.trans_le above, below.trans_lt last.2⟩

end WithinTies

def signed (negative : Bool) (x : ℚ) : ℚ := if negative then -x else x

theorem abs_signed (negative : Bool) {x : ℚ} (nonneg : 0 ≤ x) : |signed negative x| = x := by
  cases negative with
  | true => rw [signed, if_pos rfl, abs_neg, abs_of_nonneg nonneg]
  | false => rw [signed, if_neg Bool.false_ne_true, abs_of_nonneg nonneg]

theorem decide_signed_lt (negative : Bool) {x : ℚ} (positive : 0 < x) :
    decide (signed negative x < 0) = negative := by
  cases negative with
  | true => exact decide_eq_true (neg_lt_zero.mpr positive)
  | false => exact decide_eq_false positive.le.not_gt

namespace Fraction

def value (f : Fraction) : ℚ := f.num / f.den

variable {f : Fraction}

theorem le_value_iff (den_pos : 0 < f.den) (q : ℚ) : q ≤ f.value ↔ q * f.den ≤ f.num :=
  le_div_iff₀ (by exact_mod_cast den_pos)

theorem value_le_iff (den_pos : 0 < f.den) (q : ℚ) : f.value ≤ q ↔ f.num ≤ q * f.den :=
  div_le_iff₀ (by exact_mod_cast den_pos)

theorem value_lt_iff (den_pos : 0 < f.den) (q : ℚ) : f.value < q ↔ f.num < q * f.den :=
  div_lt_iff₀ (by exact_mod_cast den_pos)

theorem lt_value_iff (den_pos : 0 < f.den) (q : ℚ) : q < f.value ↔ q * f.den < f.num :=
  lt_div_iff₀ (by exact_mod_cast den_pos)

theorem round_le (den_pos : 0 < f.den) {k : Nat} (bound : f.value ≤ k) : f.round ≤ k := by
  rw [value_le_iff den_pos] at bound
  exact roundHalfEven_le den_pos (by exact_mod_cast bound)

theorem le_round_iff (den_pos : 0 < f.den) (k : Nat) :
    k ≤ f.round ↔ if k % 2 = 0 then (k : ℚ) - 1 / 2 ≤ f.value else (k : ℚ) - 1 / 2 < f.value := by
  rw [round, le_roundHalfEven_iff den_pos, le_value_iff den_pos, lt_value_iff den_pos]
  have scaled : ((k : ℚ) - 1 / 2) * f.den = ((2 * k * f.den : Nat) - (f.den : ℚ)) / 2 := by
    push_cast
    ring
  have doubled : ((2 * f.num + f.den : Nat) : ℚ) = 2 * f.num + f.den := by push_cast; rfl
  split
  · rw [scaled, ← Nat.cast_le (α := ℚ), doubled]
    constructor <;> intro bound <;> linarith
  · rw [scaled, ← Nat.cast_lt (α := ℚ), doubled]
    constructor <;> intro bound <;> linarith

theorem even_le_round_iff (den_pos : 0 < f.den) {k : Nat} (even : k % 2 = 0) :
    k ≤ f.round ↔ (k : ℚ) - 1 / 2 ≤ f.value := by
  rw [le_round_iff den_pos, if_pos even]

theorem round_eq_iff (den_pos : 0 < f.den) (k : Nat) :
    f.round = k ↔ WithinTies k ((k : ℚ) - 1 / 2) (k + 1 / 2) f.value := by
  have here := le_round_iff den_pos k
  have next := le_round_iff den_pos (k + 1)
  have same : f.round = k ↔ k ≤ f.round ∧ ¬k + 1 ≤ f.round := by omega
  have middle : ((k + 1 : Nat) : ℚ) - 1 / 2 = k + 1 / 2 := by
    push_cast
    ring
  rw [same, here, next, middle]
  unfold WithinTies
  rcases Nat.mod_two_eq_zero_or_one k with even | odd
  · have flipped : (k + 1) % 2 ≠ 0 := by omega
    rw [if_pos even, if_pos even, if_neg flipped, not_lt]
  · have flipped : (k + 1) % 2 = 0 := by omega
    have uneven : k % 2 ≠ 0 := by omega
    rw [if_neg uneven, if_neg uneven, if_pos flipped, not_le]

theorem abs_round_sub_le_half (den_pos : 0 < f.den) : |(f.round : ℚ) - f.value| ≤ 1 / 2 := by
  obtain ⟨low, high⟩ := ((round_eq_iff den_pos f.round).mp rfl).bounds
  rw [abs_le]
  constructor <;> linarith

theorem abs_round_sub_le (den_pos : 0 < f.den) (n : Nat) :
    |(f.round : ℚ) - f.value| ≤ |(n : ℚ) - f.value| := by
  obtain ⟨low, high⟩ := abs_le.mp (abs_round_sub_le_half den_pos)
  rcases Nat.lt_trichotomy n f.round with below | same | above
  · have cast : (n : ℚ) + 1 ≤ f.round := by exact_mod_cast below
    rw [abs_le]
    constructor <;> linarith [neg_abs_le ((n : ℚ) - f.value)]
  · rw [same]
  · have cast : (f.round : ℚ) + 1 ≤ n := by exact_mod_cast above
    rw [abs_le]
    constructor <;> linarith [le_abs_self ((n : ℚ) - f.value)]

theorem floor_le (den_pos : 0 < f.den) : (f.floor : ℚ) ≤ f.value := by
  rw [le_value_iff den_pos]
  exact_mod_cast Nat.div_mul_le_self f.num f.den

theorem lt_floor_add_one (den_pos : 0 < f.den) : f.value < (f.floor + 1 : Nat) := by
  rw [value_lt_iff den_pos]
  have product := Nat.lt_mul_div_succ f.num den_pos
  rw [mul_comm] at product
  exact_mod_cast product

theorem den_shift_pos (den_pos : 0 < f.den) {base : Nat} (base_pos : 0 < base) (exponent : Int) :
    0 < (f.shift base exponent).den :=
  Nat.mul_pos den_pos (Nat.pow_pos base_pos)

theorem num_shift_pos (num_pos : 0 < f.num) {base : Nat} (base_pos : 0 < base) (exponent : Int) :
    0 < (f.shift base exponent).num :=
  Nat.mul_pos num_pos (Nat.pow_pos base_pos)

theorem value_shift {base : Nat} (base_pos : 0 < base) (exponent : Int) :
    (f.shift base exponent).value = f.value * (base : ℚ) ^ exponent := by
  have nonzero : (base : ℚ) ≠ 0 := by exact_mod_cast base_pos.ne'
  obtain ⟨n, rfl | rfl⟩ := exponent.eq_nat_or_neg
  · simp only [value, shift, Int.toNat_natCast, Int.toNat_neg_natCast, Nat.pow_eq, Nat.cast_mul,
      Nat.cast_pow, pow_zero, mul_one, zpow_natCast]
    ring
  · simp only [value, shift, neg_neg, Int.toNat_natCast, Int.toNat_neg_natCast, Nat.pow_eq, Nat.cast_mul,
      Nat.cast_pow, pow_zero, mul_one, zpow_neg, zpow_natCast]
    field_simp

theorem value_shift_neg {base : Nat} (base_pos : 0 < base) (exponent : Int) :
    (f.shift base (-exponent)).value = f.value / (base : ℚ) ^ exponent := by
  rw [value_shift base_pos, zpow_neg, div_eq_mul_inv]

theorem num_toNat_pos {x : ℚ} (positive : 0 < x) : 0 < x.num.toNat := by
  have num := Rat.num_pos.mpr positive
  omega

theorem value_num_den {x : ℚ} (positive : 0 < x) : (Fraction.mk x.num.toNat x.den).value = x := by
  have num := Rat.num_pos.mpr positive
  have whole : ((x.num.toNat : Int) : ℚ) = x.num := by rw [Int.toNat_of_nonneg num.le]
  rw [value, ← Int.cast_natCast, whole, Rat.num_div_den]

theorem exists_value_eq {x : ℚ} (positive : 0 < x) : ∃ f : Fraction, 0 < f.num ∧ 0 < f.den ∧ f.value = x :=
  ⟨⟨x.num.toNat, x.den⟩, num_toNat_pos positive, x.den_pos, value_num_den positive⟩

theorem value_natural (n : Nat) : (Fraction.mk n 1).value = n := by
  simp [value]

/-- The logarithms of both parts give that of the value up to one. -/
theorem value_bounds_log2 (num_pos : 0 < f.num) (den_pos : 0 < f.den) :
    (2 : ℚ) ^ ((f.num.log2 : Int) - f.den.log2 - 1) ≤ f.value ∧
      f.value < (2 : ℚ) ^ ((f.num.log2 : Int) - f.den.log2 + 1) := by
  have num_low : (2 : ℚ) ^ f.num.log2 ≤ f.num := by exact_mod_cast Nat.log2_self_le num_pos.ne'
  have num_high : (f.num : ℚ) < 2 ^ (f.num.log2 + 1) := by exact_mod_cast Nat.lt_log2_self
  have den_low : (2 : ℚ) ^ f.den.log2 ≤ f.den := by exact_mod_cast Nat.log2_self_le den_pos.ne'
  have den_high : (f.den : ℚ) < 2 ^ (f.den.log2 + 1) := by exact_mod_cast Nat.lt_log2_self
  set guess : Int := (f.num.log2 : Int) - f.den.log2 with guess_def
  constructor
  · have power : (2 : ℚ) ^ (guess - 1) * 2 ^ (f.den.log2 + 1) = 2 ^ f.num.log2 := by
      rw [← zpow_natCast, ← zpow_natCast, ← zpow_add₀ two_ne_zero]
      congr 1
      push_cast
      omega
    rw [le_value_iff den_pos]
    calc (2 : ℚ) ^ (guess - 1) * f.den ≤ 2 ^ (guess - 1) * 2 ^ (f.den.log2 + 1) := by gcongr
      _ = 2 ^ f.num.log2 := power
      _ ≤ f.num := num_low
  · have power : (2 : ℚ) ^ (guess + 1) * 2 ^ f.den.log2 = 2 ^ (f.num.log2 + 1) := by
      rw [← zpow_natCast, ← zpow_natCast, ← zpow_add₀ two_ne_zero]
      congr 1
      push_cast
      omega
    rw [value_lt_iff den_pos]
    calc (f.num : ℚ) < 2 ^ (f.num.log2 + 1) := num_high
      _ = 2 ^ (guess + 1) * 2 ^ f.den.log2 := power.symm
      _ ≤ 2 ^ (guess + 1) * f.den := by gcongr

theorem den_le_num_shift_iff (den_pos : 0 < f.den) (exponent : Int) :
    (f.shift 2 (-exponent)).den ≤ (f.shift 2 (-exponent)).num ↔ (2 : ℚ) ^ exponent ≤ f.value := by
  have power : (0 : ℚ) < 2 ^ exponent := by positivity
  have one : (f.shift 2 (-exponent)).den ≤ (f.shift 2 (-exponent)).num ↔
      1 ≤ (f.shift 2 (-exponent)).value := by
    rw [le_value_iff (den_shift_pos den_pos two_pos _), one_mul, Nat.cast_le]
  rw [one, value_shift_neg two_pos, Nat.cast_ofNat, le_div_iff₀ power, one_mul]

theorem floorLog2_spec (num_pos : 0 < f.num) (den_pos : 0 < f.den) :
    (2 : ℚ) ^ f.floorLog2 ≤ f.value ∧ f.value < (2 : ℚ) ^ (f.floorLog2 + 1) := by
  obtain ⟨below, above⟩ := value_bounds_log2 num_pos den_pos
  have scaled := den_le_num_shift_iff den_pos ((f.num.log2 : Int) - f.den.log2)
  unfold floorLog2
  dsimp only
  split
  · next fits => exact ⟨scaled.mp fits, above⟩
  · next short =>
    rw [sub_add_cancel]
    exact ⟨below, lt_of_not_ge (mt scaled.mpr short)⟩

end Fraction

theorem digitCount_spec (n : Nat) : (0 < n → 10 ^ (digitCount n - 1) ≤ n) ∧ n < 10 ^ digitCount n := by
  fun_induction digitCount n with
  | case1 n small => exact ⟨fun pos => pos, by omega⟩
  | case2 n large ih =>
      obtain ⟨lower, upper⟩ := ih
      have shorter : 0 < n / 10 := by omega
      have count : digitCount (n / 10) - 1 + 1 = digitCount (n / 10) := by
        have : digitCount (n / 10) ≠ 0 := by
          intro zero
          rw [zero] at upper
          omega
        omega
      refine ⟨fun _ => ?_, ?_⟩
      · rw [Nat.add_sub_cancel, ← count, Nat.pow_succ]
        have := lower shorter
        omega
      · rw [Nat.pow_succ]
        omega

theorem digitCount_pos (n : Nat) : 0 < digitCount n := by
  rw [digitCount]
  split <;> omega

namespace Fraction

variable {f : Fraction}

theorem floorLog10_spec_of_le (den_pos : 0 < f.den) (whole : f.den ≤ f.num) :
    (10 : ℚ) ^ ((digitCount f.floor : Int) - 1) ≤ f.value ∧ f.value < (10 : ℚ) ^ digitCount f.floor := by
  have floor_pos : 0 < f.floor := Nat.div_pos whole den_pos
  obtain ⟨lower, upper⟩ := digitCount_spec f.floor
  have count := digitCount_pos f.floor
  constructor
  · have exponent : (digitCount f.floor : Int) - 1 = ((digitCount f.floor - 1 : Nat) : Int) := by omega
    rw [exponent, zpow_natCast, le_value_iff den_pos]
    have product : 10 ^ (digitCount f.floor - 1) * f.den ≤ f.num :=
      (Nat.le_div_iff_mul_le den_pos).mp (lower floor_pos)
    exact_mod_cast product
  · rw [value_lt_iff den_pos]
    have product : f.num < 10 ^ digitCount f.floor * f.den := (Nat.div_lt_iff_lt_mul den_pos).mp upper
    exact_mod_cast product

theorem floorLog10_spec_of_lt (num_pos : 0 < f.num) (den_pos : 0 < f.den) (fractional : f.num < f.den) :
    ((10 : ℚ) ^ digitCount (f.den / f.num))⁻¹ < f.value ∧
      f.value ≤ ((10 : ℚ) ^ (digitCount (f.den / f.num) - 1))⁻¹ := by
  have inverse_pos : 0 < f.den / f.num := Nat.div_pos fractional.le num_pos
  obtain ⟨lower, upper⟩ := digitCount_spec (f.den / f.num)
  have low : 10 ^ (digitCount (f.den / f.num) - 1) * f.num ≤ f.den :=
    (Nat.le_div_iff_mul_le num_pos).mp (lower inverse_pos)
  have high : f.den < 10 ^ digitCount (f.den / f.num) * f.num := (Nat.div_lt_iff_lt_mul num_pos).mp upper
  constructor
  · rw [← not_le, value_le_iff den_pos, le_inv_mul_iff₀ (by positivity), not_le]
    exact_mod_cast high
  · rw [value_le_iff den_pos, le_inv_mul_iff₀ (by positivity)]
    exact_mod_cast low

theorem floorLog10_spec (num_pos : 0 < f.num) (den_pos : 0 < f.den) :
    (10 : ℚ) ^ f.floorLog10 ≤ f.value ∧ f.value < (10 : ℚ) ^ (f.floorLog10 + 1) := by
  unfold floorLog10
  split
  · next whole =>
    obtain ⟨lower, upper⟩ := floorLog10_spec_of_le den_pos whole
    rw [sub_add_cancel, zpow_natCast]
    exact ⟨lower, upper⟩
  · next fractional =>
    obtain ⟨lower, upper⟩ := floorLog10_spec_of_lt num_pos den_pos (Nat.lt_of_not_le fractional)
    have count := digitCount_pos (f.den / f.num)
    dsimp only
    set digits := digitCount (f.den / f.num)
    have exponent : (1 : Int) - digits = -((digits - 1 : Nat) : Int) := by omega
    split
    -- A power of ten begins the range that ends with it for all others.
    · next exact_power =>
      have cast : (f.num : ℚ) * 10 ^ (digits - 1) = f.den := by exact_mod_cast exact_power
      have same : f.value = (10 : ℚ) ^ ((1 : Int) - digits) := by
        have num_cast : (0 : ℚ) < f.num := by exact_mod_cast num_pos
        rw [exponent, zpow_neg, zpow_natCast, value, ← cast]
        field_simp
      rw [same]
      exact ⟨le_refl _, zpow_lt_zpow_right₀ (by norm_num) (by omega)⟩
    · next inexact =>
      have strict : f.value ≠ ((10 : ℚ) ^ (digits - 1))⁻¹ := by
        intro same
        have power : (10 : ℚ) ^ (digits - 1) ≠ 0 := by positivity
        have den_cast : (f.den : ℚ) ≠ 0 := by exact_mod_cast den_pos.ne'
        rw [value, div_eq_iff den_cast, eq_comm, inv_mul_eq_iff_eq_mul₀ power, mul_comm] at same
        exact inexact (by exact_mod_cast same.symm)
      constructor
      · rw [zpow_neg, zpow_natCast]
        exact lower.le
      · rw [neg_add_eq_sub, exponent, zpow_neg, zpow_natCast]
        exact lt_of_le_of_ne upper strict

end Fraction

end Metrology

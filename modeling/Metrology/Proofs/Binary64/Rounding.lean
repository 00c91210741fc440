import Mathlib
import Metrology.Proofs.Binary64.Interval
import Metrology.Proofs.Binary64.Unpacked

/-!
Rounding in the model of arithmetic. A result comes as a mantissa and a note on how far the exact number lies
above it. The note survives the shift to the grid of the number, and the mantissa that it rounds to is that
of the nearest size.
-/

namespace Metrology.Binary64

open Float.Model (Format UnpackedFloat totalExponent)
open Float.Model.UnpackedFloat

variable {m n : Nat} {accuracy : Accuracy} {em : ExtendedMantissa} {x : ℚ}

/-- Where the exact number lies, in units of the mantissa. -/
def Approximates (m : Nat) (accuracy : Accuracy) (x : ℚ) : Prop :=
  match accuracy with
  | .exact => x = m
  | .inexact .lt => (m : ℚ) < x ∧ x < m + 1 / 2
  | .inexact .eq => x = m + 1 / 2
  | .inexact .gt => (m : ℚ) + 1 / 2 < x ∧ x < m + 1

theorem Approximates.bounds (near : Approximates m accuracy x) : (m : ℚ) ≤ x ∧ x < m + 1 := by
  unfold Approximates at near
  split at near <;> constructor <;> linarith

theorem Approximates.rounded (near : Approximates m accuracy x) :
    WithinTies (accuracy.roundToNearestEven m) ((accuracy.roundToNearestEven m : ℚ) - 1 / 2)
      (accuracy.roundToNearestEven m + 1 / 2) x := by
  cases accuracy with
  | exact =>
    have whole : x = m := near
    rw [whole, Accuracy.roundToNearestEven]
    exact WithinTies.of_lt (by linarith) (by linarith)
  | inexact side =>
    cases side with
    | lt =>
      obtain ⟨above, below⟩ : (m : ℚ) < x ∧ x < m + 1 / 2 := near
      exact WithinTies.of_lt (by simp only [Accuracy.roundToNearestEven]; linarith) below
    | eq =>
      have half : x = m + 1 / 2 := near
      have even : (m + m % 2) % 2 = 0 := by omega
      have bit : ((m % 2 : Nat) : ℚ) ≤ 1 := by exact_mod_cast Nat.le_of_lt_succ (Nat.mod_lt m two_pos)
      have nonneg : (0 : ℚ) ≤ (m % 2 : Nat) := Nat.cast_nonneg _
      rw [Accuracy.roundToNearestEven, WithinTies.iff_of_even even, half, Nat.cast_add]
      constructor <;> linarith
    | gt =>
      obtain ⟨above, below⟩ : (m : ℚ) + 1 / 2 < x ∧ x < m + 1 := near
      rw [Accuracy.roundToNearestEven, Nat.cast_add, Nat.cast_one]
      exact WithinTies.of_lt (by linarith) (by linarith)

/-- The mantissa and the bit below it count halves; the last bit tells whether anything is left over. -/
def Represents (em : ExtendedMantissa) (x : ℚ) : Prop :=
  let halves : ℚ := 2 * em.mantissa + em.roundBit.toNat
  if em.stickyBit then halves < 2 * x ∧ 2 * x < halves + 1 else 2 * x = halves

theorem represents_ofMantissaAndAccuracy (near : Approximates m accuracy x) :
    Represents (.ofMantissaAndAccuracy m accuracy) x := by
  unfold Approximates at near
  split at near <;> simp only [Represents, ExtendedMantissa.ofMantissaAndAccuracy] <;> norm_num <;>
    first
      | linarith
      | constructor <;> linarith

theorem Represents.approximates (held : Represents em x) : Approximates em.mantissa em.accuracy x := by
  obtain ⟨mantissa, roundBit, stickyBit⟩ := em
  cases roundBit <;> cases stickyBit <;>
    simp only [Represents, Approximates, ExtendedMantissa.accuracy] at held ⊢ <;> norm_num at held ⊢ <;>
      first
        | linarith
        | constructor <;> linarith

/-- The bit that is dropped counts halves from now on, and what stood below it is left over. -/
theorem Represents.shiftRightOne (held : Represents em x) : Represents em.shiftRightOne (x / 2) := by
  obtain ⟨mantissa, roundBit, stickyBit⟩ := em
  have halves : (2 : ℚ) * (mantissa / 2 : Nat) + (mantissa % 2 != 0).toNat = mantissa := by
    have split : 2 * (mantissa / 2) + (mantissa % 2 != 0).toNat = mantissa := by
      rcases Nat.mod_two_eq_zero_or_one mantissa with even | odd
      · rw [even]; simp; omega
      · rw [odd]; simp; omega
    exact_mod_cast split
  simp only [Represents, ExtendedMantissa.shiftRightOne, halves] at held ⊢
  cases roundBit <;> cases stickyBit <;> norm_num at held ⊢ <;>
    first
      | linarith
      | constructor <;> linarith

theorem Represents.shiftRight (held : Represents em x) (n : Nat) : Represents (em >>> n) (x / 2 ^ n) := by
  induction n with
  | zero => rwa [pow_zero, div_one]
  | succ n ih =>
    rw [pow_succ, ← div_div]
    exact ih.shiftRightOne

def target (m : Nat) (e : Int) : Int := max (m.log2 + 1 + e - 53) leastExponent

theorem targetExponent_eq (m : Nat) (e : Int) :
    Format.binary64.targetExponent (totalExponent m e) = target m e :=
  rfl

variable {e : Int} {f : Fraction}

/-- The grid is that of the exact number if the mantissa has enough bits for it. -/
theorem isGrid_target (bounds : (m : ℚ) ≤ x ∧ x < m + 1) (exact : f.value = x * 2 ^ e)
    (enough : e ≤ target m e) : Size.IsGrid f (target m e) := by
  have power : (0 : ℚ) < 2 ^ e := by positivity
  have grid : (0 : ℚ) < 2 ^ target m e := by positivity
  have bit : (leadingBit : ℚ) = 2 ^ (52 : Int) := by norm_num [leadingBit]
  have twice : (2 : ℚ) * leadingBit = 2 ^ (53 : Int) := by norm_num [leadingBit]
  refine ⟨le_max_right _ _, ?_, ?_⟩
  · have next : m + 1 ≤ 2 ^ (m.log2 + 1) := Nat.lt_log2_self
    have high : x < (2 : ℚ) ^ ((m.log2 : Int) + 1) := bounds.2.trans_le (by exact_mod_cast next)
    rw [div_lt_iff₀ grid, exact, twice, ← zpow_add₀ two_ne_zero]
    calc x * 2 ^ e < 2 ^ ((m.log2 : Int) + 1) * 2 ^ e := mul_lt_mul_of_pos_right high power
      _ = 2 ^ ((m.log2 : Int) + 1 + e) := (zpow_add₀ two_ne_zero _ _).symm
      _ ≤ 2 ^ (53 + target m e) := zpow_le_zpow_right₀ (by norm_num) (by unfold target; omega)
  · by_cases least : target m e = leastExponent
    · exact .inl least
    right
    have full : target m e = m.log2 + 1 + e - 53 := by
      unfold target at least ⊢
      omega
    have nonzero : m ≠ 0 := by
      rintro rfl
      rw [full, Nat.log2_zero] at enough
      omega
    have first : 2 ^ m.log2 ≤ m := Nat.log2_self_le nonzero
    have low : (2 : ℚ) ^ (m.log2 : Int) ≤ x := le_trans (by exact_mod_cast first) bounds.1
    rw [le_div_iff₀ grid, exact, bit, ← zpow_add₀ two_ne_zero]
    calc (2 : ℚ) ^ (52 + target m e) = 2 ^ (m.log2 : Int) * 2 ^ e := by
          rw [← zpow_add₀ two_ne_zero, full]
          congr 1
          omega
      _ ≤ x * 2 ^ e := mul_le_mul_of_nonneg_right low power.le

theorem isRounding_shiftToTargetExponent (near : Approximates m accuracy x) (exact : f.value = x * 2 ^ e)
    (enough : e ≤ target m e) :
    Size.IsRounding f (shiftToTargetExponent .binary64 m e accuracy).1.roundedMantissa (target m e) := by
  refine ⟨isGrid_target near.bounds exact enough, ?_⟩
  have shifted : f.value / (2 : ℚ) ^ target m e = x / 2 ^ (target m e - e).toNat := by
    have apart : e + (target m e - e).toNat = target m e := by omega
    have power : (2 : ℚ) ^ e ≠ 0 := by positivity
    rw [exact, ← zpow_natCast, div_eq_div_iff (by positivity) (by positivity), mul_assoc,
      ← zpow_add₀ two_ne_zero, apart]
  rw [shifted]
  exact ((represents_ofMantissaAndAccuracy near).shiftRight _).approximates.rounded

theorem target_of_lt (small : m < 2 * leadingBit) (least : leastExponent ≤ e) : target m e ≤ e := by
  have bits : m.log2 < 53 := by
    by_cases zero : m = 0
    · rw [zero, Nat.log2_zero]
      decide
    · exact (Nat.log2_lt zero).mpr small
  unfold target
  omega

/-- A mantissa that fits its grid stays, and one that has grown by a bit is carried over. -/
theorem shiftToTargetExponent_exact (full : m ≤ 2 * leadingBit) (least : leastExponent ≤ e) :
    shiftToTargetExponent .binary64 m e .exact =
      (⟨(Size.carry m e).mantissa, false, false⟩, (Size.carry m e).exponent) := by
  rw [shiftToTargetExponent, shiftToExponent, targetExponent_eq, Size.carry]
  split_ifs with grown
  · have log : (2 * leadingBit).log2 = 53 := rfl
    have next : target m e = e + 1 := by
      rw [target, grown, log]
      omega
    have one : (target m e - e).toNat = 1 := by omega
    rw [one, grown]
    rfl
  · have stays := target_of_lt (Nat.lt_of_le_of_ne full grown) least
    have none : (target m e - e).toNat = 0 := by omega
    rw [none, Nat.cast_zero, add_zero]
    rfl

theorem roundedMantissa_le {mantissa : Nat} {exponent : Int}
    (rounding : Size.IsRounding f mantissa exponent) : mantissa ≤ 2 * leadingBit := by
  have high := rounding.rounded.bounds.1
  have below := rounding.grid.below
  have cast : (mantissa : ℚ) < (2 * leadingBit + 1 : Nat) := by
    push_cast
    linarith
  exact Nat.le_of_lt_succ (by exact_mod_cast cast)

/-- Rounding in the model of arithmetic is rounding on the grid of the exact number. -/
theorem roundWithAccuracy_eq (s : Sign) (near : Approximates m accuracy x) (exact : f.value = x * 2 ^ e)
    (enough : e ≤ target m e) :
    ∃ mantissa exponent, Size.IsRounding f mantissa exponent ∧
      roundWithAccuracy .binary64 s m e accuracy = unpackedSize s (Size.carry mantissa exponent) := by
  have rounding := isRounding_shiftToTargetExponent near exact enough
  have last : (shiftToTargetExponent .binary64 m e accuracy).2 = target m e := by
    rw [shiftToTargetExponent, shiftToExponent, targetExponent_eq]
    dsimp only
    omega
  have again := shiftToTargetExponent_exact (roundedMantissa_le rounding) rounding.grid.least
  refine ⟨_, _, rounding, ?_⟩
  simp only [roundWithAccuracy, last, again, unpackedSize]

theorem mantissa_carry_ne_zero {mantissa : Nat} {exponent : Int}
    (rounding : Size.IsRounding f mantissa exponent)
    (coarse : leastExponent < (Size.carry mantissa exponent).exponent) :
    (Size.carry mantissa exponent).mantissa ≠ 0 := by
  revert coarse
  unfold Size.carry
  split_ifs with full
  · intro _
    change leadingBit ≠ 0
    decide
  · intro coarse zero
    have leading := rounding.grid.above.resolve_left coarse.ne'
    have high := rounding.rounded.bounds.2
    have bit : (1 : ℚ) ≤ leadingBit := by norm_num [leadingBit]
    simp only at zero
    rw [zero, Nat.cast_zero] at high
    linarith

theorem ofUnpacked_carry {mantissa : Nat} {exponent : Int} (num_pos : 0 < f.num) (den_pos : 0 < f.den)
    (rounding : Size.IsRounding f mantissa exponent) (negative : Bool) :
    ofUnpacked (unpackedSize (sign negative) (Size.carry mantissa exponent)) =
      ofNearest negative (Size.nearest? f) := by
  have grid := Size.gridExponent_eq num_pos den_pos rounding.grid
  have round := (Size.round_shift_eq_iff den_pos exponent mantissa).mpr rounding.rounded
  rw [Size.nearest?_eq, grid, round]
  dsimp only
  split_ifs with beyond
  · have ends : leastExponent < greatestExponent := by decide
    exact ofUnpacked_of_beyond (mantissa_carry_ne_zero rounding (ends.trans beyond)) beyond negative
  · exact ofUnpacked_unpackedSize (rounding.carry_canonical (not_lt.mp beyond)) negative

def rounded (negative : Bool) (y : ℚ) : Binary64 :=
  if y = 0 then .finite negative .zero else ofNearest negative (Size.nearest? ⟨y.num.toNat, y.den⟩)

theorem rounded_value (num_pos : 0 < f.num) (den_pos : 0 < f.den) (negative : Bool) :
    rounded negative f.value = ofNearest negative (Size.nearest? f) := by
  have positive : 0 < f.value := div_pos (by exact_mod_cast num_pos) (by exact_mod_cast den_pos)
  rw [rounded, if_neg positive.ne']
  exact congrArg (ofNearest negative) (Size.nearest?_congr (Fraction.num_toNat_pos positive) f.value.den_pos
    num_pos den_pos (Fraction.value_num_den positive))

/-- What the model of arithmetic rounds is the double nearest to the exact number. -/
theorem ofUnpacked_roundWithAccuracy {y : ℚ} (near : Approximates m accuracy x) (exact : y = x * 2 ^ e)
    (positive : 0 < y) (enough : e ≤ target m e) (negative : Bool) :
    ofUnpacked (roundWithAccuracy .binary64 (sign negative) m e accuracy) = rounded negative y := by
  obtain ⟨f, num_pos, den_pos, rfl⟩ := Fraction.exists_value_eq positive
  obtain ⟨mantissa, exponent, rounding, result⟩ := roundWithAccuracy_eq (sign negative) near exact enough
  rw [result, ofUnpacked_carry num_pos den_pos rounding, rounded_value num_pos den_pos]

theorem rounded_cases {y : ℚ} (nonneg : 0 ≤ y) (negative : Bool) :
    Size.overflow ≤ y ∧ rounded negative y = .infinite negative ∨
      y < Size.overflow ∧
        ∃ s : Size, s.Canonical ∧ s.IsNearest y ∧ rounded negative y = .finite negative s := by
  rcases nonneg.eq_or_lt with rfl | positive
  · have near := Size.zero.isNearest_value
    rw [Size.value_zero] at near
    exact .inr ⟨Size.overflow_pos, .zero, Size.zero_canonical, near, if_pos rfl⟩
  obtain ⟨f, num_pos, den_pos, rfl⟩ := Fraction.exists_value_eq positive
  rw [rounded_value num_pos den_pos]
  cases found : Size.nearest? f with
  | none => exact .inl ⟨(Size.nearest?_eq_none_iff num_pos den_pos).mp found, rfl⟩
  | some s =>
    have inside : f.value < Size.overflow := by
      rw [← not_le, ← Size.nearest?_eq_none_iff num_pos den_pos, found]
      exact Option.some_ne_none s
    obtain ⟨canonical, near⟩ := (Size.nearest?_eq_some_iff num_pos den_pos).mp found
    exact .inr ⟨inside, s, canonical, near, rfl⟩

end Metrology.Binary64

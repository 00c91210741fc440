import Mathlib
import Metrology.Proofs.Binary64.Laws
import Metrology.Proofs.Binary64.Operations
import Metrology.Proofs.Decimal.Exact

namespace Metrology.Binary64

open Float.Model (Format UnpackedFloat)
open Float.Model.UnpackedFloat

variable {x y : Float} {n k : Bool} {s t : Size} {u v : ℚ}

theorem isNaN_eq_false_iff (x : Float) : x.isNaN = false ↔ ofFloat x ≠ .nan := by
  change x.toModel.unpack.isNaN = false ↔ _
  rw [unpack_eq_unpacked]
  cases ofFloat x with
  | nan => simp [unpacked, UnpackedFloat.isNaN]
  | infinite n => simp [unpacked, UnpackedFloat.isNaN]
  | finite n s =>
    rcases unpackedSize_cases (sign n) s with form | ⟨_, _, _, form⟩ <;>
      simp [unpacked, form, UnpackedFloat.isNaN]

theorem beq_zero_iff (x : Float) :
    (x == 0.0) = true ↔ ∃ n s, ofFloat x = .finite n s ∧ s.mantissa = 0 := by
  constructor
  · intro equal
    obtain ⟨g, zero⟩ := unpack_of_beq_zero equal
    rw [unpack_eq_unpacked] at zero
    cases found : ofFloat x with
    | nan => rw [found] at zero; cases zero
    | infinite n => rw [found] at zero; cases zero
    | finite n s =>
      refine ⟨n, s, rfl, ?_⟩
      by_contra nonzero
      rw [found, unpacked, unpackedSize_of_ne_zero nonzero] at zero
      cases zero
  · rintro ⟨n, s, found, zero⟩
    have form : x.toModel.unpack = .zero (sign n) := by
      rw [unpack_of_finite found, unpackedSize_of_eq_zero zero]
    rw [← ofModel_pack_unpack x, form]
    exact beq_zero_of_isZero trivial

theorem Size.value_le_of_bits_le (first : s.Canonical) (second : t.Canonical) (order : s.bits ≤ t.bits) :
    s.value ≤ t.value := by
  rcases order.eq_or_lt with same | less
  · rw [bits_injective first second same]
  · exact (value_lt_of_bits_lt first second less).le

theorem Size.value_le_of_le (first : s.Canonical) (second : t.Canonical) (near : s.IsNearest u)
    (near' : t.IsNearest v) (nonneg : 0 ≤ u) (order : u ≤ v) : s.value ≤ t.value := by
  rcases nonneg.eq_or_lt with rfl | positive
  · rw [eq_zero_of_isNearest_zero first near, value_zero]
    exact t.value_nonneg
  · exact value_le_of_bits_le first second (bits_le_of_le first second positive order near near')

theorem Size.le_of_mantissa_eq_zero (canonical : s.Canonical) (near : s.IsNearest u) (zero : s.mantissa = 0) :
    u ≤ 2 ^ (-1075 : Int) := by
  have least : s.exponent = leastExponent := canonical.2.2.2.resolve_left (by rw [zero]; decide)
  have high := near.bounds.2
  rwa [zero, least, Nat.cast_zero, zero_add, half_least_step] at high

theorem Size.least_le_value (canonical : s.Canonical) (nonzero : s.mantissa ≠ 0) :
    (2 : ℚ) ^ (-1074 : Int) ≤ s.value := by
  have one : (1 : ℚ) ≤ s.mantissa := by exact_mod_cast Nat.one_le_iff_ne_zero.mpr nonzero
  have power : (2 : ℚ) ^ (-1074 : Int) ≤ 2 ^ s.exponent := zpow_le_zpow_right₀ (by norm_num) canonical.2.1
  calc (2 : ℚ) ^ (-1074 : Int) ≤ 1 * 2 ^ s.exponent := by rwa [one_mul]
    _ ≤ s.value := mul_le_mul_of_nonneg_right one (by positivity)

def power (e : Int) : Size := ⟨leadingBit, e - 52⟩

theorem value_power (e : Int) : (power e).value = 2 ^ e := by
  have bit : (leadingBit : ℚ) = 2 ^ (52 : Int) := by norm_num [leadingBit]
  rw [Size.value, power, bit, ← zpow_add₀ two_ne_zero, add_sub_cancel]

theorem power_canonical {e : Int} (least : leastExponent ≤ e - 52) (greatest : e - 52 ≤ greatestExponent) :
    (power e).Canonical :=
  ⟨by change leadingBit < 2 * leadingBit; decide, least, greatest, .inl le_rfl⟩

theorem rounded_zero (n : Bool) : rounded n 0 = .finite n .zero := if_pos rfl

/-- Numbers below the end of the doubles round to a double. -/
theorem exists_rounded (nonneg : 0 ≤ u) (inside : u < Size.overflow) (n : Bool) :
    ∃ s : Size, s.Canonical ∧ s.IsNearest u ∧ rounded n u = .finite n s := by
  rcases rounded_cases nonneg n with ⟨outside, -⟩ | ⟨-, found⟩
  · exact absurd inside outside.not_gt
  · exact found

theorem exists_rounded_le {bound : Size} (canonical : bound.Canonical) (nonneg : 0 ≤ u)
    (below : u ≤ bound.value) (n : Bool) : ∃ s, rounded n u = .finite n s ∧ s.value ≤ bound.value := by
  have inside : bound.value < Size.overflow := Size.value_lt_overflow canonical
  obtain ⟨s, own, near, result⟩ := exists_rounded nonneg (below.trans_lt inside) n
  exact ⟨s, result, Size.value_le_of_le own canonical near bound.isNearest_value nonneg below⟩

theorem lt_overflow_of_rounded (nonneg : 0 ≤ u) (found : rounded n u = .finite k s) :
    u < Size.overflow ∧ s.Canonical ∧ s.IsNearest u := by
  rcases rounded_cases nonneg n with ⟨-, infinite⟩ | ⟨inside, t, canonical, near, finite⟩
  · rw [infinite] at found
    cases found
  · rw [finite] at found
    cases found
    exact ⟨inside, canonical, near⟩

theorem rounded_ne_nan (nonneg : 0 ≤ u) (n : Bool) : rounded n u ≠ .nan := by
  rcases rounded_cases nonneg n with ⟨-, infinite⟩ | ⟨-, t, -, -, finite⟩
  · rw [infinite]
    exact Binary64.noConfusion
  · rw [finite]
    exact Binary64.noConfusion

theorem ofFloat_div_infinite (first : ofFloat x = .finite n s) (second : ofFloat y = .infinite k) :
    ofFloat (x / y) = .finite (n != k) .zero := by
  change ofUnpacked (UnpackedFloat.div .binary64 x.toModel.unpack y.toModel.unpack) = _
  rw [unpack_of_finite first, unpack_of_infinite second, ← rounded_zero, ← ofUnpacked_zero, ← sign_div]
  rcases unpackedSize_cases (sign n) s with form | ⟨_, _, _, form⟩ <;> rw [form] <;> rfl

theorem ofFloat_infinite_div (first : ofFloat x = .infinite n) (second : ofFloat y = .finite k t)
    (nonzero : t.mantissa ≠ 0) : ofFloat (x / y) = .infinite (n != k) := by
  change ofUnpacked (UnpackedFloat.div .binary64 x.toModel.unpack y.toModel.unpack) = _
  rw [unpack_of_infinite first, unpack_of_finite second, unpackedSize_of_ne_zero nonzero,
    ← ofUnpacked_infinity, ← sign_div]
  rfl

theorem ofFloat_infinite_add (first : ofFloat x = .infinite n) (second : ofFloat y = .finite k t) :
    ofFloat (x + y) = .infinite n := by
  change ofUnpacked (add .binary64 x.toModel.unpack y.toModel.unpack) = _
  rw [unpack_of_infinite first, unpack_of_finite second, ← ofUnpacked_infinity]
  rcases unpackedSize_cases (sign k) t with form | ⟨_, _, _, form⟩ <;> rw [form] <;> rfl

theorem ofFloat_add_infinite (first : ofFloat x = .finite n s) (second : ofFloat y = .infinite k) :
    ofFloat (x + y) = .infinite k := by
  rw [add_comm_float]
  exact ofFloat_infinite_add second first

theorem ofFloat_infinite_add_infinite (first : ofFloat x = .infinite n) (second : ofFloat y = .infinite n) :
    ofFloat (x + y) = .infinite n := by
  change ofUnpacked (add .binary64 x.toModel.unpack y.toModel.unpack) = _
  rw [unpack_of_infinite first, unpack_of_infinite second, ← ofUnpacked_infinity]
  cases n <;> rfl

theorem ofFloat_sqrt_infinite (found : ofFloat x = .infinite false) : ofFloat x.sqrt = .infinite false := by
  change ofUnpacked (UnpackedFloat.sqrt .binary64 x.toModel.unpack) = _
  rw [unpack_of_infinite found, ← ofUnpacked_infinity]
  rfl

/-- A double without a sign, which may have run out of range. -/
def IsNonneg (x : Binary64) : Prop := x = .infinite false ∨ ∃ s, x = .finite false s

theorem isNonneg_rounded (nonneg : 0 ≤ u) : IsNonneg (rounded false u) := by
  rcases rounded_cases nonneg false with ⟨-, infinite⟩ | ⟨-, s, -, -, finite⟩
  · exact .inl infinite
  · exact .inr ⟨s, finite⟩

theorem ofFloat_add_of_nonneg (first : ofFloat x = .finite false s) (second : ofFloat y = .finite false t) :
    ofFloat (x + y) = rounded false (s.value + t.value) := by
  have sum : 0 ≤ s.value + t.value := add_nonneg s.value_nonneg t.value_nonneg
  obtain ⟨g, result, -, positive⟩ := ofFloat_add first second
  change _ = rounded g |s.value + t.value| at result
  rw [abs_of_nonneg sum] at result
  rcases sum.eq_or_lt with zero | above
  · have s_zero : s.mantissa = 0 := by
      by_contra nonzero
      linarith [Size.value_pos nonzero, t.value_nonneg]
    have t_zero : t.mantissa = 0 := by
      by_contra nonzero
      linarith [Size.value_pos nonzero, s.value_nonneg]
    change ofUnpacked (add .binary64 x.toModel.unpack y.toModel.unpack) = _
    rw [unpack_of_finite first, unpack_of_finite second, unpackedSize_of_eq_zero s_zero,
      unpackedSize_of_eq_zero t_zero, ← zero]
    exact ofUnpacked_zero false
  · rw [result, positive above]

/-- A sum of doubles without a sign runs out of range, or it is that of finite ones. -/
theorem add_cases_of_nonneg (first : IsNonneg (ofFloat x)) (second : IsNonneg (ofFloat y)) :
    ofFloat (x + y) = .infinite false ∨
      ∃ s t : Size, ofFloat x = .finite false s ∧ ofFloat y = .finite false t ∧
        ofFloat (x + y) = rounded false (s.value + t.value) := by
  rcases first with infinite | ⟨s, finite⟩ <;> rcases second with infinite' | ⟨t, finite'⟩
  · exact .inl (ofFloat_infinite_add_infinite infinite infinite')
  · exact .inl (ofFloat_infinite_add infinite finite')
  · exact .inl (ofFloat_add_infinite finite infinite')
  · exact .inr ⟨s, t, finite, finite', ofFloat_add_of_nonneg finite finite'⟩

theorem add_number (first : ofFloat x ≠ .nan) (second : ofFloat y = .finite k t) :
    ofFloat (x + y) ≠ .nan := by
  cases found : ofFloat x with
  | nan => exact absurd found first
  | infinite n =>
    rw [ofFloat_infinite_add found second]
    exact Binary64.noConfusion
  | finite n s =>
    obtain ⟨g, result, -⟩ := ofFloat_add found second
    rw [result]
    exact rounded_ne_nan (abs_nonneg _) g

theorem div_number (first : ofFloat x ≠ .nan) (second : ofFloat y = .finite k t) (nonzero : t.mantissa ≠ 0) :
    ofFloat (x / y) ≠ .nan := by
  cases found : ofFloat x with
  | nan => exact absurd found first
  | infinite n =>
    rw [ofFloat_infinite_div found second nonzero]
    exact Binary64.noConfusion
  | finite n s =>
    rw [ofFloat_div found second nonzero]
    exact rounded_ne_nan (div_nonneg s.value_nonneg t.value_nonneg) _

end Metrology.Binary64

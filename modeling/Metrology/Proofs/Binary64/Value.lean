import Mathlib
import Metrology.Proofs.Binary64.Sign
import Metrology.Proofs.Text.Number

/-!
Doubles by the exact numbers that they stand for. An operation on finite doubles gives a double nearest to the
exact result, which is the exact result itself wherever a double stands for it.
-/

namespace Metrology.Binary64

variable {x y z : Float} {n k g : Bool} {s t : Size} {u v w : ℚ}

def HasValue (x : Float) (v : ℚ) : Prop := (ofFloat x).value? = some v

instance (x : Float) (v : ℚ) : Decidable (HasValue x v) := inferInstanceAs (Decidable (_ = _))

theorem hasValue_of_finite (found : ofFloat x = .finite n s) : HasValue x (signed n s.value) := by
  rw [HasValue, found]
  rfl

theorem HasValue.exists_finite (held : HasValue x v) :
    ∃ n s, ofFloat x = .finite n s ∧ v = signed n s.value ∧ |v| = s.value := by
  obtain ⟨n, s, found, rfl⟩ := exists_finite_of_value? held
  exact ⟨n, s, found, rfl, abs_signed n s.value_nonneg⟩

theorem HasValue.unique (first : HasValue x v) (second : HasValue x w) : v = w :=
  Option.some.inj (first.symm.trans second)

def exact (x : Float) : ℚ := (ofFloat x).value?.getD 0

theorem HasValue.exact_eq (held : HasValue x v) : exact x = v := by
  rw [exact, held, Option.getD_some]

theorem exact_mul_self (found : ofFloat x = .finite n s) : exact x * exact x = s.value * s.value := by
  rw [(hasValue_of_finite found).exact_eq, ← abs_mul_abs_self, abs_signed n s.value_nonneg]

theorem HasValue.neg (held : HasValue x v) : HasValue (-x) (-v) := by
  obtain ⟨n, s, found, rfl, -⟩ := held.exists_finite
  have turned : ofFloat (-x) = .finite (!n) s := by rw [ofFloat_neg, found, opposite]
  have value := hasValue_of_finite turned
  cases n <;> simpa [signed] using value

theorem HasValue.eq_zero_iff (held : HasValue x v) : (x == 0.0) = true ↔ v = 0 := by
  obtain ⟨n, s, found, -, size⟩ := held.exists_finite
  rw [beq_zero_iff, ← abs_eq_zero, size]
  constructor
  · rintro ⟨k, t, found', zero⟩
    rw [found] at found'
    cases found'
    exact Size.value_eq_zero zero
  · intro zero
    refine ⟨n, s, found, ?_⟩
    by_contra nonzero
    exact (Size.value_pos nonzero).ne' zero

theorem EqualUpToZeroSign.hasValue (equal : EqualUpToZeroSign x y) (held : HasValue x v) : HasValue y v := by
  have value_of_zero {c : Float} (zero : (c == 0.0) = true) : HasValue c 0 := by
    obtain ⟨n, s, found, nothing⟩ := (beq_zero_iff c).mp zero
    rw [← signed_of_eq_zero nothing n]
    exact hasValue_of_finite found
  rcases equal with rfl | ⟨first, second⟩
  · exact held
  · rw [held.eq_zero_iff.mp first]
    exact value_of_zero second

theorem EqualUpToZeroSign.symm (equal : EqualUpToZeroSign x y) : EqualUpToZeroSign y x := by
  rcases equal with rfl | ⟨first, second⟩
  · exact .refl x
  · exact .inr ⟨second, first⟩

/-- A finite double of the size nearest to that of a number, and not on the other side of zero. -/
def IsNearestTo (x : Float) (v : ℚ) : Prop :=
  ∃ (s : Size) (w : ℚ), s.Canonical ∧ s.IsNearest |v| ∧ HasValue x w ∧ |w| = s.value ∧ 0 ≤ w * v

theorem isNearestTo_of_rounded (result : ofFloat x = rounded n |v|) (negative : v < 0 → n = true)
    (positive : 0 < v → n = false) (inside : |v| < Size.overflow) : IsNearestTo x v := by
  obtain ⟨s, canonical, near, finite⟩ := exists_rounded (abs_nonneg v) inside n
  refine ⟨s, _, canonical, near, hasValue_of_finite (result.trans finite), abs_signed n s.value_nonneg, ?_⟩
  rcases lt_trichotomy v 0 with below | rfl | above
  · rw [negative below, signed, if_pos rfl, neg_mul_comm]
    exact mul_nonneg s.value_nonneg (neg_nonneg.mpr below.le)
  · rw [mul_zero]
  · rw [positive above, signed, if_neg Bool.false_ne_true]
    exact mul_nonneg s.value_nonneg above.le

theorem EqualUpToZeroSign.isNearestTo (equal : EqualUpToZeroSign x y) (near : IsNearestTo y v) :
    IsNearestTo x v := by
  obtain ⟨s, w, canonical, nearest, held, size, side⟩ := near
  exact ⟨s, w, canonical, nearest, equal.symm.hasValue held, size, side⟩

theorem abs_sub_of_same_side (side : 0 ≤ w * v) : |w - v| = abs (|w| - |v|) := by
  rcases mul_nonneg_iff.mp side with ⟨first, second⟩ | ⟨first, second⟩
  · rw [abs_of_nonneg first, abs_of_nonneg second]
  · rw [abs_of_nonpos first, abs_of_nonpos second, abs_sub_comm]
    congr 1
    ring

def IsDouble (v : ℚ) : Prop := ∃ s : Size, s.Canonical ∧ s.value = |v|

theorem HasValue.isDouble (held : HasValue x v) : IsDouble v := by
  obtain ⟨n, s, found, -, size⟩ := held.exists_finite
  exact ⟨s, (ofFloat_eq_finite found).1, size.symm⟩

theorem IsDouble.lt_overflow (double : IsDouble v) : |v| < Size.overflow := by
  obtain ⟨s, canonical, size⟩ := double
  rw [← size]
  exact Size.value_lt_overflow canonical

theorem IsNearestTo.hasValue (near : IsNearestTo x v) (double : IsDouble v) : HasValue x v := by
  obtain ⟨s, w, canonical, nearest, held, size, side⟩ := near
  obtain ⟨t, canonical', size'⟩ := double
  have same : |w| = |v| := by
    rw [← size'] at nearest
    rw [size, ← size']
    have again := t.isNearest_value
    have first := Size.value_le_of_le canonical canonical' nearest again t.value_nonneg le_rfl
    have second := Size.value_le_of_le canonical' canonical again nearest t.value_nonneg le_rfl
    exact le_antisymm first second
  have apart := abs_sub_of_same_side side
  rw [same, sub_self, abs_zero, abs_eq_zero, sub_eq_zero] at apart
  rwa [apart] at held

theorem signed_mul_signed (n k : Bool) (a b : ℚ) :
    signed n a * signed k b = signed (n != k) (a * b) := by
  cases n <;> cases k <;> simp [signed]

theorem signed_div_signed (n k : Bool) (a b : ℚ) :
    signed n a / signed k b = signed (n != k) (a / b) := by
  cases n <;> cases k <;> simp [signed, neg_div, div_neg]

theorem sign_of_signed (nonneg : 0 ≤ u) : (signed n u < 0 → n = true) ∧ (0 < signed n u → n = false) := by
  cases n <;> simp [signed, nonneg]

theorem HasValue.mul (first : HasValue x v) (second : HasValue y w) (inside : |v * w| < Size.overflow) :
    IsNearestTo (x * y) (v * w) := by
  obtain ⟨n, s, found, rfl, -⟩ := first.exists_finite
  obtain ⟨k, t, found', rfl, -⟩ := second.exists_finite
  have nonneg := mul_nonneg s.value_nonneg t.value_nonneg
  rw [signed_mul_signed] at inside ⊢
  refine isNearestTo_of_rounded ?_ (sign_of_signed nonneg).1 (sign_of_signed nonneg).2 inside
  rw [ofFloat_mul found found', abs_signed _ nonneg]

theorem HasValue.add (first : HasValue x v) (second : HasValue y w) (inside : |v + w| < Size.overflow) :
    IsNearestTo (x + y) (v + w) := by
  obtain ⟨n, s, found, rfl, -⟩ := first.exists_finite
  obtain ⟨k, t, found', rfl, -⟩ := second.exists_finite
  obtain ⟨g, result, negative, positive⟩ := ofFloat_add found found'
  exact isNearestTo_of_rounded result negative positive inside

theorem HasValue.sub (first : HasValue x v) (second : HasValue y w) (inside : |v - w| < Size.overflow) :
    IsNearestTo (x - y) (v - w) := by
  rw [sub_eq_add_neg] at inside ⊢
  rw [sub_eq_add_neg_float]
  exact first.add second.neg inside

theorem HasValue.div (first : HasValue x v) (second : HasValue y w) (nonzero : w ≠ 0)
    (inside : |v / w| < Size.overflow) : IsNearestTo (x / y) (v / w) := by
  obtain ⟨n, s, found, rfl, -⟩ := first.exists_finite
  obtain ⟨k, t, found', rfl, size⟩ := second.exists_finite
  have some_size : t.mantissa ≠ 0 := fun zero => nonzero (signed_of_eq_zero zero k)
  have nonneg := div_nonneg s.value_nonneg t.value_nonneg
  rw [signed_div_signed] at inside ⊢
  refine isNearestTo_of_rounded ?_ (sign_of_signed nonneg).1 (sign_of_signed nonneg).2 inside
  rw [ofFloat_div found found' some_size, abs_signed _ nonneg]

theorem isDouble_zero : IsDouble 0 := ⟨.zero, Size.zero_canonical, by rw [abs_zero, Size.value_zero]⟩

theorem HasValue.eq_zero_of_lt (held : HasValue x v) (tiny : |v| < 2 ^ (-1074 : ℤ)) : v = 0 := by
  obtain ⟨n, s, found, rfl, size⟩ := held.exists_finite
  rw [size] at tiny
  apply signed_of_eq_zero
  by_contra nonzero
  exact (Size.least_le_value (ofFloat_eq_finite found).1 nonzero).not_gt tiny

theorem HasValue.mul_zero_right (first : HasValue x v) (second : HasValue y 0) : HasValue (x * y) 0 := by
  have product := first.mul second
  rw [mul_zero] at product
  exact (product isDouble_zero.lt_overflow).hasValue isDouble_zero

theorem HasValue.add_zero_zero (first : HasValue x 0) (second : HasValue y 0) : HasValue (x + y) 0 := by
  have sum := first.add second
  rw [add_zero] at sum
  exact (sum isDouble_zero.lt_overflow).hasValue isDouble_zero

theorem HasValue.sub_zero_zero (first : HasValue x 0) (second : HasValue y 0) : HasValue (x - y) 0 := by
  have opposite := second.neg
  rw [neg_zero] at opposite
  rw [sub_eq_add_neg_float]
  exact first.add_zero_zero opposite

/-- A quotient vanishes only if the dividend is much smaller than the divisor. -/
theorem HasValue.le_of_div (first : HasValue x v) (second : HasValue y w) (nonzero : w ≠ 0)
    (nothing : HasValue (x / y) 0) : |v| ≤ 2 ^ (-1075 : ℤ) * |w| := by
  obtain ⟨n, s, found, -, size⟩ := first.exists_finite
  obtain ⟨k, t, found', rfl, size'⟩ := second.exists_finite
  obtain ⟨g, r, quotient, -, zero⟩ := nothing.exists_finite
  have some_size : t.mantissa ≠ 0 := fun none => nonzero (signed_of_eq_zero none k)
  have no_size : r.mantissa = 0 := by
    by_contra some_quotient
    rw [abs_zero] at zero
    exact (Size.value_pos some_quotient).ne zero
  rw [ofFloat_div found found' some_size] at quotient
  obtain ⟨-, canonical, near⟩ := lt_overflow_of_rounded (div_nonneg s.value_nonneg t.value_nonneg) quotient
  rw [size, size', ← div_le_iff₀ (Size.value_pos some_size)]
  exact Size.le_of_mantissa_eq_zero canonical near no_size

/-- On every grid from the finest to the coarsest there is a double for each mantissa of at most 53 bits. -/
theorem isDouble_mul_zpow {m e : ℤ} (small : |m| < 2 * leadingBit) (least : leastExponent ≤ e)
    (greatest : e ≤ greatestExponent) : IsDouble (m * (2 : ℚ) ^ e) := by
  have power : (0 : ℚ) < 2 ^ e := by positivity
  by_cases zero : m = 0
  · exact ⟨.zero, Size.zero_canonical, by rw [zero, Int.cast_zero, zero_mul, abs_zero, Size.value_zero]⟩
  -- The mantissa is shifted until it is full or the finest grid is reached.
  obtain ⟨k, shift⟩ : ∃ k : ℕ, k = min (52 - m.natAbs.log2) (e - leastExponent).toNat := ⟨_, rfl⟩
  have nonzero : m.natAbs ≠ 0 := Int.natAbs_ne_zero.mpr zero
  have bits : m.natAbs.log2 < 53 := by
    rw [Int.abs_eq_natAbs] at small
    exact (Nat.log2_lt nonzero).mpr (by exact_mod_cast small)
  refine ⟨⟨m.natAbs * 2 ^ k, e - k⟩, ⟨?_, ?_, ?_, ?_⟩, ?_⟩
  · calc m.natAbs * 2 ^ k < 2 ^ (m.natAbs.log2 + 1) * 2 ^ k :=
          Nat.mul_lt_mul_of_pos_right Nat.lt_log2_self (Nat.two_pow_pos k)
      _ = 2 ^ (m.natAbs.log2 + 1 + k) := (Nat.pow_add _ _ _).symm
      _ ≤ 2 ^ 53 := Nat.pow_le_pow_right two_pos (by omega)
  · change leastExponent ≤ e - k
    omega
  · change e - k ≤ greatestExponent
    omega
  · rcases min_choice (52 - m.natAbs.log2) (e - leastExponent).toNat with full | finest
    · left
      have whole : m.natAbs.log2 + k = 52 := by omega
      calc leadingBit = 2 ^ m.natAbs.log2 * 2 ^ k := by rw [← Nat.pow_add, whole, leadingBit]
        _ ≤ m.natAbs * 2 ^ k := Nat.mul_le_mul_right _ (Nat.log2_self_le nonzero)
    · right
      change e - k = leastExponent
      omega
  · have split : e = k + (e - k) := by omega
    rw [Size.value, abs_mul, abs_of_pos power, ← Int.cast_abs, Int.abs_eq_natAbs, Int.cast_natCast]
    conv_rhs => rw [split, zpow_add₀ two_ne_zero, zpow_natCast]
    push_cast
    ring

/-- A double with a value that is a multiple of a power of two, by a whole number up to a bound. -/
structure IsMultiple (e : ℤ) (bound : ℕ) (x : Float) (v : ℚ) : Prop where
  value : HasValue x v
  whole : ∃ m : ℤ, |m| ≤ bound ∧ v = m * (2 : ℚ) ^ e

variable {e f : ℤ} {b c : ℕ}

theorem IsMultiple.abs_le (held : IsMultiple e b x v) : |v| ≤ b * (2 : ℚ) ^ e := by
  obtain ⟨m, small, rfl⟩ := held.whole
  have power : (0 : ℚ) < 2 ^ e := by positivity
  rw [abs_mul, abs_of_pos power]
  exact mul_le_mul_of_nonneg_right (by exact_mod_cast small) power.le

theorem IsMultiple.le_abs (held : IsMultiple e b x v) (nonzero : v ≠ 0) : (2 : ℚ) ^ e ≤ |v| := by
  obtain ⟨m, -, rfl⟩ := held.whole
  have power : (0 : ℚ) < 2 ^ e := by positivity
  have some_whole : m ≠ 0 := by
    rintro rfl
    exact nonzero (by rw [Int.cast_zero, zero_mul])
  have one : (1 : ℚ) ≤ |(m : ℚ)| := by exact_mod_cast Int.one_le_abs some_whole
  rw [abs_mul, abs_of_pos power]
  exact le_mul_of_one_le_left power.le one

theorem isDouble_of_whole (whole : ∃ m : ℤ, |m| ≤ b ∧ v = m * (2 : ℚ) ^ e) (bits : b < 2 * leadingBit)
    (least : leastExponent ≤ e) (greatest : e ≤ greatestExponent) : IsDouble v := by
  obtain ⟨m, small, rfl⟩ := whole
  exact isDouble_mul_zpow (small.trans_lt (by exact_mod_cast bits)) least greatest

theorem IsMultiple.mul (first : IsMultiple e b x v) (second : IsMultiple f c y w)
    (bits : b * c < 2 * leadingBit) (least : leastExponent ≤ e + f) (greatest : e + f ≤ greatestExponent) :
    IsMultiple (e + f) (b * c) (x * y) (v * w) := by
  have whole : ∃ m : ℤ, |m| ≤ (b * c : ℕ) ∧ v * w = m * (2 : ℚ) ^ (e + f) := by
    obtain ⟨p, small, rfl⟩ := first.whole
    obtain ⟨q, small', rfl⟩ := second.whole
    refine ⟨p * q, ?_, ?_⟩
    · rw [abs_mul, Nat.cast_mul]
      exact mul_le_mul small small' (abs_nonneg q) (Nat.cast_nonneg b)
    · rw [zpow_add₀ two_ne_zero, Int.cast_mul]
      ring
  have double := isDouble_of_whole whole bits least greatest
  exact ⟨(first.value.mul second.value double.lt_overflow).hasValue double, whole⟩

theorem IsMultiple.add (first : IsMultiple e b x v) (second : IsMultiple e c y w)
    (bits : b + c < 2 * leadingBit) (least : leastExponent ≤ e) (greatest : e ≤ greatestExponent) :
    IsMultiple e (b + c) (x + y) (v + w) := by
  have whole : ∃ m : ℤ, |m| ≤ (b + c : ℕ) ∧ v + w = m * (2 : ℚ) ^ e := by
    obtain ⟨p, small, rfl⟩ := first.whole
    obtain ⟨q, small', rfl⟩ := second.whole
    refine ⟨p + q, ?_, ?_⟩
    · rw [Nat.cast_add]
      exact (abs_add_le p q).trans (add_le_add small small')
    · rw [Int.cast_add, add_mul]
  have double := isDouble_of_whole whole bits least greatest
  exact ⟨(first.value.add second.value double.lt_overflow).hasValue double, whole⟩

theorem IsMultiple.neg (held : IsMultiple e b x v) : IsMultiple e b (-x) (-v) := by
  refine ⟨held.value.neg, ?_⟩
  obtain ⟨m, small, rfl⟩ := held.whole
  exact ⟨-m, by rwa [abs_neg], by rw [Int.cast_neg, neg_mul]⟩

theorem IsMultiple.sub (first : IsMultiple e b x v) (second : IsMultiple e c y w)
    (bits : b + c < 2 * leadingBit) (least : leastExponent ≤ e) (greatest : e ≤ greatestExponent) :
    IsMultiple e (b + c) (x - y) (v - w) := by
  rw [sub_eq_add_neg_float, sub_eq_add_neg]
  exact first.add second.neg bits least greatest

end Metrology.Binary64

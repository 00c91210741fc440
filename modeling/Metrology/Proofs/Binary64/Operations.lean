import Mathlib
import Metrology.Proofs.Binary64.Rounding

/-!
The operations on finite doubles round their exact results: product, sum, quotient and square root.
-/

namespace Metrology.Binary64

open Float.Model (Format UnpackedFloat totalExponent)
open Float.Model.UnpackedFloat

variable {x y : Float} {n k : Bool} {s t : Size}

theorem rounded_size (canonical : s.Canonical) (n : Bool) : rounded n s.value = .finite n s := by
  by_cases zero : s.mantissa = 0
  · rw [rounded, if_pos (Size.value_eq_zero zero), Size.eq_zero_of_mantissa canonical zero]
  · have num_pos := Size.num_fraction_pos zero
    have near : s.IsNearest s.fraction.value := by
      rw [Size.value_fraction]
      exact s.isNearest_value
    rw [← Size.value_fraction, rounded_value num_pos s.den_fraction_pos,
      (Size.nearest?_eq_some_iff num_pos s.den_fraction_pos).mpr ⟨canonical, near⟩]
    rfl

theorem ofUnpacked_zero (n : Bool) : ofUnpacked (.zero (sign n)) = rounded n 0 :=
  (ofUnpacked_unpackedSize Size.zero_canonical n).trans (if_pos rfl).symm

theorem log2_mul_two_pow {m : Nat} (nonzero : m ≠ 0) (k : Nat) : (m * 2 ^ k).log2 = m.log2 + k := by
  have power : 0 < 2 ^ k := Nat.two_pow_pos k
  rw [Nat.log2_eq_iff (Nat.mul_ne_zero nonzero power.ne')]
  constructor
  · rw [Nat.pow_add]
    exact Nat.mul_le_mul_right _ (Nat.log2_self_le nonzero)
  · rw [Nat.add_right_comm, Nat.pow_add]
    exact Nat.mul_lt_mul_of_pos_right Nat.lt_log2_self power

theorem cast_shiftLeft_mul (m d : Nat) (g : Int) : ((m <<< d : Nat) : ℚ) * 2 ^ g = m * 2 ^ ((d : Int) + g) := by
  rw [Nat.shiftLeft_eq, Nat.cast_mul, Nat.cast_pow, Nat.cast_ofNat, mul_assoc, ← zpow_natCast,
    ← zpow_add₀ two_ne_zero]

theorem le_target_of_leading {m : Nat} (leading : leadingBit ≤ m) (e : Int) : e ≤ target m e := by
  have nonzero : m ≠ 0 := by
    simp only [leadingBit] at leading
    omega
  have bits : 52 ≤ m.log2 := (Nat.le_log2 nonzero).mpr leading
  unfold target
  omega

theorem product_enough (first : s.Canonical) (second : t.Canonical) (s_pos : s.mantissa ≠ 0)
    (t_pos : t.mantissa ≠ 0) :
    s.exponent + t.exponent ≤ target (s.mantissa * t.mantissa) (s.exponent + t.exponent) := by
  rcases first.2.2.2 with leading | least
  · exact le_target_of_leading (leading.trans (Nat.le_mul_of_pos_right _ (Nat.pos_of_ne_zero t_pos))) _
  rcases second.2.2.2 with leading | least'
  · exact le_target_of_leading (leading.trans (Nat.le_mul_of_pos_left _ (Nat.pos_of_ne_zero s_pos))) _
  · rw [least, least']
    exact le_max_of_le_right (by decide)

theorem ofFloat_mul (first : ofFloat x = .finite n s) (second : ofFloat y = .finite k t) :
    ofFloat (x * y) = rounded (n != k) (s.value * t.value) := by
  change ofUnpacked (mul .binary64 x.toModel.unpack y.toModel.unpack) = _
  rw [unpack_of_finite first, unpack_of_finite second]
  by_cases s_pos : s.mantissa = 0
  · rw [unpackedSize_of_eq_zero s_pos, Size.value_eq_zero s_pos, zero_mul, ← ofUnpacked_zero, ← sign_mul]
    rcases unpackedSize_cases (sign k) t with form | ⟨_, _, _, form⟩ <;> rw [form] <;> rfl
  by_cases t_pos : t.mantissa = 0
  · rw [unpackedSize_of_eq_zero t_pos, Size.value_eq_zero t_pos, mul_zero, ← ofUnpacked_zero, ← sign_mul,
      unpackedSize_of_ne_zero s_pos]
    rfl
  rw [unpackedSize_of_ne_zero s_pos, unpackedSize_of_ne_zero t_pos]
  simp only [mul, sign_mul]
  apply ofUnpacked_roundWithAccuracy (x := s.mantissa * t.mantissa)
  · exact (Nat.cast_mul _ _).symm
  · rw [Size.value, Size.value, zpow_add₀ two_ne_zero]
    ring
  · exact mul_pos (Size.value_pos s_pos) (Size.value_pos t_pos)
  · exact product_enough (ofFloat_eq_finite first).1 (ofFloat_eq_finite second).1 s_pos t_pos

theorem signed_of_eq_zero (zero : s.mantissa = 0) (n : Bool) : signed n s.value = 0 := by
  rw [signed, Size.value_eq_zero zero, neg_zero, ite_self]

theorem eq_true_of_signed_neg (negative : signed n s.value < 0) : n = true := by
  by_contra positive
  rw [signed, if_neg positive] at negative
  exact s.value_nonneg.not_gt negative

theorem eq_false_of_signed_pos (positive : 0 < signed n s.value) : n = false := by
  by_contra negative
  rw [signed, if_pos (Bool.eq_true_of_not_eq_false negative), neg_pos] at positive
  exact s.value_nonneg.not_gt positive

theorem ofUnpacked_round {m : Nat} (nonzero : m ≠ 0) (e : Int) (n : Bool) :
    ofUnpacked (UnpackedFloat.round .binary64 (sign n) m e) = rounded n (m * 2 ^ e) := by
  rw [UnpackedFloat.round, targetExponent_eq]
  simp only [decreaseExponent]
  set d := (e - target m e).toNat with shift
  have bits : target (m <<< d) (e - d) = target m e := by
    rw [Nat.shiftLeft_eq, target, log2_mul_two_pow nonzero, target]
    congr 1
    push_cast
    ring
  apply ofUnpacked_roundWithAccuracy (x := (m <<< d : Nat))
  · rfl
  · rw [cast_shiftLeft_mul, add_sub_cancel]
  · have positive : (0 : ℚ) < m := by exact_mod_cast Nat.pos_of_ne_zero nonzero
    positivity
  · rw [bits]
    omega

theorem ofUnpacked_normalize (m e : Int) :
    ofUnpacked (UnpackedFloat.normalize .binary64 m e .positive) = rounded (decide (m < 0)) |m * 2 ^ e| := by
  have power : (0 : ℚ) < 2 ^ e := by positivity
  have size : |(m : ℚ)| = (m.natAbs : Nat) := by rw [Nat.cast_natAbs, Int.cast_abs]
  rw [abs_mul, abs_of_pos power, size, UnpackedFloat.normalize]
  rcases lt_trichotomy m 0 with below | rfl | above
  · have less : compare m 0 = .lt := compare_lt_iff_lt.mpr below
    have opposite : (-m).toNat = m.natAbs := by omega
    rw [less, opposite, decide_eq_true below]
    exact ofUnpacked_round (by omega) e true
  · rw [Int.natAbs_zero, Nat.cast_zero, zero_mul]
    exact ofUnpacked_zero false
  · have more : compare m 0 = .gt := compare_gt_iff_gt.mpr above
    have own : m.toNat = m.natAbs := by omega
    rw [more, own, decide_eq_false above.not_gt]
    exact ofUnpacked_round (by omega) e false

theorem apply_shift (n : Bool) (s : Size) {e : Int} (finer : e ≤ s.exponent) :
    ((sign n).apply (s.mantissa <<< (s.exponent - e).toNat : Nat) : ℚ) * 2 ^ e = signed n s.value := by
  have apart : ((s.exponent - e).toNat : Int) + e = s.exponent := by omega
  have same : ((s.mantissa <<< (s.exponent - e).toNat : Nat) : ℚ) * 2 ^ e = s.value := by
    rw [cast_shiftLeft_mul, apart]
    rfl
  cases n with
  | false => exact same
  | true =>
    simp only [sign, Sign.apply, Int.cast_neg, Int.cast_natCast, neg_mul, same]
    rfl

/-- The mantissas are added on the finer of both grids. -/
theorem ofUnpacked_add_of_ne_zero (s_pos : s.mantissa ≠ 0) (t_pos : t.mantissa ≠ 0) :
    ∃ m e : Int, (m : ℚ) * 2 ^ e = signed n s.value + signed k t.value ∧
      ofUnpacked (add .binary64 (unpackedSize (sign n) s) (unpackedSize (sign k) t)) =
        rounded (decide (m < 0)) |(m : ℚ) * 2 ^ e| := by
  rw [unpackedSize_of_ne_zero s_pos, unpackedSize_of_ne_zero t_pos]
  refine ⟨_, _, ?_, ofUnpacked_normalize _ _⟩
  rw [Int.cast_add, add_mul]
  exact congrArg₂ (· + ·) (apply_shift n s (min_le_left _ _)) (apply_shift k t (min_le_right _ _))

/-- The sign of a sum is that of the exact sum, and either one if this is zero. -/
theorem ofFloat_add (first : ofFloat x = .finite n s) (second : ofFloat y = .finite k t) :
    ∃ g, ofFloat (x + y) = rounded g |signed n s.value + signed k t.value| ∧
      (signed n s.value + signed k t.value < 0 → g = true) ∧
      (0 < signed n s.value + signed k t.value → g = false) := by
  have result : ofFloat (x + y) =
      ofUnpacked (add .binary64 (unpackedSize (sign n) s) (unpackedSize (sign k) t)) := by
    rw [← unpack_of_finite first, ← unpack_of_finite second]
    rfl
  have canonical := (ofFloat_eq_finite first).1
  have canonical' := (ofFloat_eq_finite second).1
  rw [result]
  by_cases s_pos : s.mantissa = 0
  · rw [signed_of_eq_zero s_pos, zero_add, unpackedSize_of_eq_zero s_pos]
    by_cases t_pos : t.mantissa = 0
    · have zeros : add .binary64 (.zero (sign n)) (.zero (sign k)) = .zero (sign (n && k)) := by
        cases n <;> cases k <;> rfl
      rw [signed_of_eq_zero t_pos, abs_zero, unpackedSize_of_eq_zero t_pos, zeros, ofUnpacked_zero]
      exact ⟨_, rfl, fun less => (lt_irrefl 0 less).elim, fun less => (lt_irrefl 0 less).elim⟩
    · refine ⟨k, ?_, eq_true_of_signed_neg, eq_false_of_signed_pos⟩
      rw [abs_signed k t.value_nonneg, rounded_size canonical', ← ofUnpacked_unpackedSize canonical',
        unpackedSize_of_ne_zero t_pos]
      rfl
  by_cases t_pos : t.mantissa = 0
  · rw [signed_of_eq_zero t_pos, add_zero, unpackedSize_of_eq_zero t_pos]
    refine ⟨n, ?_, eq_true_of_signed_neg, eq_false_of_signed_pos⟩
    rw [abs_signed n s.value_nonneg, rounded_size canonical, ← ofUnpacked_unpackedSize canonical,
      unpackedSize_of_ne_zero s_pos]
    rfl
  obtain ⟨m, e, sum, same⟩ := ofUnpacked_add_of_ne_zero (n := n) (k := k) s_pos t_pos
  have power : (0 : ℚ) < 2 ^ e := by positivity
  refine ⟨_, same.trans (by rw [sum]), ?_, ?_⟩ <;> rw [← sum]
  · intro negative
    have below : (m : ℚ) < 0 := neg_of_mul_neg_left negative power.le
    exact decide_eq_true (by exact_mod_cast below)
  · intro positive
    have above : (0 : ℚ) < m := pos_of_mul_pos_left positive power.le
    have integer : 0 < m := by exact_mod_cast above
    exact decide_eq_false integer.not_gt

theorem approximates_div {m d : Nat} (d_pos : 0 < d) :
    Approximates (m / d) (accuracyOfFraction (m % d) d) ((m : ℚ) / d) := by
  have divisor : (0 : ℚ) < d := by exact_mod_cast d_pos
  have split : (m : ℚ) / d = (m / d : Nat) + ((m % d : Nat) : ℚ) / d := by
    have whole : (d : ℚ) * (m / d : Nat) + (m % d : Nat) = m := by exact_mod_cast Nat.div_add_mod m d
    rw [← whole, add_div, mul_div_cancel_left₀ _ divisor.ne']
  have below : ((m % d : Nat) : ℚ) / d < 1 := by
    rw [div_lt_one divisor]
    exact_mod_cast Nat.mod_lt m d_pos
  rw [split, accuracyOfFraction]
  split_ifs with none
  · rw [none, Nat.cast_zero, zero_div, add_zero]
    rfl
  have above : (0 : ℚ) < ((m % d : Nat) : ℚ) / d := by
    have some : (0 : ℚ) < (m % d : Nat) := by exact_mod_cast Nat.pos_of_ne_zero none
    positivity
  rcases lt_trichotomy (2 * (m % d)) d with less | half | more
  · have side : ((m % d : Nat) : ℚ) / d < 1 / 2 := by
      rw [div_lt_div_iff₀ divisor two_pos]
      exact_mod_cast (by omega : m % d * 2 < 1 * d)
    rw [compare_lt_iff_lt.mpr less]
    exact ⟨by linarith, by linarith⟩
  · have side : ((m % d : Nat) : ℚ) / d = 1 / 2 := by
      rw [div_eq_div_iff divisor.ne' two_ne_zero]
      exact_mod_cast (by omega : m % d * 2 = 1 * d)
    rw [compare_eq_iff_eq.mpr half, side]
    rfl
  · have side : 1 / 2 < ((m % d : Nat) : ℚ) / d := by
      rw [div_lt_div_iff₀ two_pos divisor]
      exact_mod_cast (by omega : 1 * d < m % d * 2)
    rw [compare_gt_iff_gt.mpr more]
    exact ⟨by linarith, by linarith⟩

/-- The dividend is shifted until the quotient has 53 bits, or as far as the least grid. -/
theorem quotient_enough {m d : Nat} (m_pos : m ≠ 0) (d_pos : d ≠ 0) {e f g : Int}
    (shift : g = min (e - f) (max (m.log2 + 1 + e - (d.log2 + 1 + f) - 53) leastExponent)) :
    g ≤ target ((m <<< (e - f - g).toNat) / d) g := by
  by_cases least : g ≤ leastExponent
  · exact le_max_of_le_right least
  apply le_target_of_leading
  have bits : d.log2 + 53 ≤ m.log2 + (e - f - g).toNat := by omega
  rw [Nat.le_div_iff_mul_le (Nat.pos_of_ne_zero d_pos), Nat.shiftLeft_eq]
  calc leadingBit * d ≤ 2 ^ 52 * 2 ^ (d.log2 + 1) := Nat.mul_le_mul_left _ Nat.lt_log2_self.le
    _ = 2 ^ (d.log2 + 53) := by rw [← Nat.pow_add]; congr 1; omega
    _ ≤ 2 ^ (m.log2 + (e - f - g).toNat) := Nat.pow_le_pow_right two_pos bits
    _ = 2 ^ m.log2 * 2 ^ (e - f - g).toNat := Nat.pow_add _ _ _
    _ ≤ m * 2 ^ (e - f - g).toNat := Nat.mul_le_mul_right _ (Nat.log2_self_le m_pos)

theorem ofFloat_div (first : ofFloat x = .finite n s) (second : ofFloat y = .finite k t)
    (nonzero : t.mantissa ≠ 0) : ofFloat (x / y) = rounded (n != k) (s.value / t.value) := by
  change ofUnpacked (UnpackedFloat.div .binary64 x.toModel.unpack y.toModel.unpack) = _
  rw [unpack_of_finite first, unpack_of_finite second, unpackedSize_of_ne_zero nonzero]
  by_cases s_pos : s.mantissa = 0
  · rw [unpackedSize_of_eq_zero s_pos, Size.value_eq_zero s_pos, zero_div, ← ofUnpacked_zero, ← sign_div]
    rfl
  rw [unpackedSize_of_ne_zero s_pos]
  simp only [UnpackedFloat.div, divCore, sign_div]
  set g := min (s.exponent - t.exponent) (Format.binary64.targetExponent
    (totalExponent s.mantissa s.exponent - totalExponent t.mantissa t.exponent)) with shift
  apply ofUnpacked_roundWithAccuracy (approximates_div (Nat.pos_of_ne_zero nonzero))
  · have finer : ((s.exponent - t.exponent - g).toNat : Int) + g = s.exponent - t.exponent := by omega
    have power : (2 : ℚ) ^ t.exponent ≠ 0 := by positivity
    rw [div_mul_eq_mul_div, cast_shiftLeft_mul, finer, zpow_sub₀ two_ne_zero, Size.value, Size.value]
    field_simp
  · exact div_pos (Size.value_pos s_pos) (Size.value_pos nonzero)
  · exact quotient_enough s_pos nonzero shift

/-- A double that a square root rounds to: numbers below the root round to it, and so do numbers above. -/
def IsRoot (r : Binary64) (v : ℚ) : Prop :=
  ∀ b : ℚ, 0 ≤ b →
    (b * b ≤ v → ∃ q, b ≤ q ∧ r = rounded false q) ∧
    (v ≤ b * b → ∃ q, 0 ≤ q ∧ q ≤ b ∧ r = rounded false q)

def rootAccuracy (m : Nat) : Accuracy :=
  if m - m.sqrt * m.sqrt = 0 then .exact
  else .inexact (if m - m.sqrt * m.sqrt ≤ m.sqrt then .lt else .gt)

/-- The root need not be rational, but on either side of any bound there are numbers placed alike. -/
theorem exists_approximates_sqrt (m : Nat) {b : ℚ} (nonneg : 0 ≤ b) :
    (b * b ≤ m → ∃ q, b ≤ q ∧ Approximates m.sqrt (rootAccuracy m) q) ∧
      (m ≤ b * b → ∃ q, q ≤ b ∧ Approximates m.sqrt (rootAccuracy m) q) := by
  have low : m.sqrt * m.sqrt ≤ m := Nat.sqrt_le m
  have high : m < (m.sqrt + 1) * (m.sqrt + 1) := Nat.lt_succ_sqrt m
  unfold rootAccuracy
  generalize m.sqrt = r at *
  have root : (0 : ℚ) ≤ r := Nat.cast_nonneg r
  split_ifs with exact side
  · have square : (m : ℚ) = r * r := by exact_mod_cast (by omega : m = r * r)
    rw [square, ← mul_self_le_mul_self_iff nonneg root, ← mul_self_le_mul_self_iff root nonneg]
    exact ⟨fun less => ⟨r, less, rfl⟩, fun more => ⟨r, more, rfl⟩⟩
  · have below : (m : ℚ) < (r + 1 / 2) * (r + 1 / 2) := by
      have whole : (m : ℚ) ≤ r * r + r := by exact_mod_cast (by omega : m ≤ r * r + r)
      linarith
    have above : (r : ℚ) * r < m := by exact_mod_cast (by omega : r * r < m)
    constructor
    · intro less
      have short : b < r + 1 / 2 :=
        (mul_self_lt_mul_self_iff nonneg (by linarith)).mpr (less.trans_lt below)
      refine ⟨max b (r + 1 / 4), le_max_left _ _, lt_max_of_lt_right ?_, max_lt short ?_⟩ <;> linarith
    · intro more
      have beyond : (r : ℚ) < b := (mul_self_lt_mul_self_iff root nonneg).mpr (above.trans_le more)
      refine ⟨min b (r + 1 / 4), min_le_left _ _, lt_min beyond ?_, min_lt_of_right_lt ?_⟩ <;> linarith
  · have below : (m : ℚ) < (r + 1) * (r + 1) := by exact_mod_cast high
    have above : ((r : ℚ) + 1 / 2) * (r + 1 / 2) < m := by
      have whole : (r : ℚ) * r + r + 1 ≤ m := by exact_mod_cast (by omega : r * r + r + 1 ≤ m)
      linarith
    constructor
    · intro less
      have short : b < r + 1 := (mul_self_lt_mul_self_iff nonneg (by linarith)).mpr (less.trans_lt below)
      refine ⟨max b (r + 3 / 4), le_max_left _ _, lt_max_of_lt_right ?_, max_lt short ?_⟩ <;> linarith
    · intro more
      have beyond : (r : ℚ) + 1 / 2 < b :=
        (mul_self_lt_mul_self_iff (by linarith) nonneg).mpr (above.trans_le more)
      refine ⟨min b (r + 3 / 4), min_le_left _ _, lt_min beyond ?_, min_lt_of_right_lt ?_⟩ <;> linarith

/-- The radicand is shifted until its root has 53 bits, or as far as the least grid. -/
theorem root_enough {m : Nat} (m_pos : m ≠ 0) {e g : Int}
    (shift : g = min (e.ediv 2) (max ((m.log2 + 1 + e + 1).ediv 2 - 53) leastExponent)) :
    g ≤ target (m <<< (e - 2 * g).toNat).sqrt g := by
  by_cases least : g ≤ leastExponent
  · exact le_max_of_le_right least
  apply le_target_of_leading
  have bits : 104 ≤ m.log2 + (e - 2 * g).toNat := by
    change g = min (e / 2) (max ((m.log2 + 1 + e + 1) / 2 - 53) leastExponent) at shift
    omega
  rw [Nat.le_sqrt, Nat.shiftLeft_eq]
  calc leadingBit * leadingBit = 2 ^ 104 := by decide
    _ ≤ 2 ^ (m.log2 + (e - 2 * g).toNat) := Nat.pow_le_pow_right two_pos bits
    _ = 2 ^ m.log2 * 2 ^ (e - 2 * g).toNat := Nat.pow_add _ _ _
    _ ≤ m * 2 ^ (e - 2 * g).toNat := Nat.mul_le_mul_right _ (Nat.log2_self_le m_pos)

theorem isRoot_zero : IsRoot (rounded false 0) 0 := by
  intro b nonneg
  constructor
  · intro less
    have none : b = 0 := mul_self_eq_zero.mp (le_antisymm less (mul_self_nonneg b))
    exact ⟨0, none.le, rfl⟩
  · exact fun _ => ⟨0, le_rfl, nonneg, rfl⟩

/-- The integer root of a radicand on the grid, with its note, rounds to the root. -/
theorem isRoot_roundWithAccuracy {m : Nat} {g : Int} (positive : 0 < m.sqrt) (enough : g ≤ target m.sqrt g) :
    IsRoot (ofUnpacked (roundWithAccuracy .binary64 .positive m.sqrt g (rootAccuracy m)))
      (m * (2 ^ g * 2 ^ g)) := by
  have power : (0 : ℚ) < 2 ^ g := by positivity
  have rounds {q : ℚ} (near : Approximates m.sqrt (rootAccuracy m) q) : 0 < q * 2 ^ g ∧
      ofUnpacked (roundWithAccuracy .binary64 .positive m.sqrt g (rootAccuracy m)) =
        rounded false (q * 2 ^ g) := by
    have above : (0 : ℚ) < m.sqrt := by exact_mod_cast positive
    have product : 0 < q * 2 ^ g := mul_pos (above.trans_le near.bounds.1) power
    exact ⟨product, ofUnpacked_roundWithAccuracy near rfl product enough false⟩
  intro b nonneg
  obtain ⟨low, high⟩ := exists_approximates_sqrt m (div_nonneg nonneg power.le)
  rw [div_mul_div_comm, div_le_iff₀ (mul_pos power power)] at low
  rw [div_mul_div_comm, le_div_iff₀ (mul_pos power power)] at high
  constructor
  · intro less
    obtain ⟨q, above, near⟩ := low less
    exact ⟨q * 2 ^ g, (div_le_iff₀ power).mp above, (rounds near).2⟩
  · intro more
    obtain ⟨q, below, near⟩ := high more
    exact ⟨q * 2 ^ g, (rounds near).1.le, (le_div_iff₀ power).mp below, (rounds near).2⟩

theorem isRoot_sqrt (found : ofFloat x = .finite false s) : IsRoot (ofFloat x.sqrt) s.value := by
  have result : ofFloat x.sqrt = ofUnpacked (UnpackedFloat.sqrt .binary64 (unpackedSize .positive s)) := by
    change ofUnpacked (UnpackedFloat.sqrt .binary64 x.toModel.unpack) = _
    rw [unpack_of_finite found]
    rfl
  rw [result]
  by_cases s_pos : s.mantissa = 0
  · rw [unpackedSize_of_eq_zero s_pos, Size.value_eq_zero s_pos]
    have zero : ofUnpacked (UnpackedFloat.sqrt .binary64 (.zero .positive)) = rounded false 0 :=
      ofUnpacked_zero false
    rw [zero]
    exact isRoot_zero
  rw [unpackedSize_of_ne_zero s_pos]
  simp only [UnpackedFloat.sqrt, sqrtCore]
  set g := min (s.exponent.ediv 2) (Format.binary64.targetExponent
    ((totalExponent s.mantissa s.exponent + 1).ediv 2)) with shift
  have value : s.value = (s.mantissa <<< (s.exponent - 2 * g).toNat : Nat) * (2 ^ g * 2 ^ g) := by
    have halved : g ≤ s.exponent / 2 := min_le_left _ _
    have finer : ((s.exponent - 2 * g).toNat : Int) + (g + g) = s.exponent := by omega
    rw [← zpow_add₀ two_ne_zero, cast_shiftLeft_mul, finer]
    rfl
  rw [value]
  refine isRoot_roundWithAccuracy ?_ (root_enough s_pos shift)
  rw [Nat.sqrt_pos, Nat.shiftLeft_eq]
  exact Nat.mul_pos (Nat.pos_of_ne_zero s_pos) (Nat.two_pow_pos _)

end Metrology.Binary64

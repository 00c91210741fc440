import Mathlib
import Metrology.Proofs.Binary64.Value

/-!
Errors of doubles through sums and products. Beside the error, a bound on the size of the terms goes along: the
error of each operation is relative to the size, up to half the least double.
-/

namespace Metrology.Binary64

variable {x y z : Float} {s : Size} {a e f m n t u v w : ℚ}

/-- The greatest relative error of a rounded number, `2 ^ -53`, where the doubles are not at their finest. -/
def roundoff : ℚ := 1 / 9007199254740992

theorem roundoff_pos : 0 < roundoff := by norm_num [roundoff]

/-- Half the least double, the greatest error where the doubles are at their finest. -/
def halfLeast : ℚ := 2 ^ (-1075 : Int)

theorem halfLeast_pos : 0 < halfLeast := by
  unfold halfLeast
  positivity

theorem Size.abs_value_sub_le (canonical : s.Canonical) (near : s.IsNearest u) (nonneg : 0 ≤ u) :
    |s.value - u| ≤ roundoff * u + halfLeast := by
  have power : (0 : ℚ) < 2 ^ s.exponent := by positivity
  have half := near.abs_sub_le
  have least := halfLeast_pos
  rw [abs_sub_comm] at half
  by_cases finest : s.exponent = leastExponent
  · have unit : 1 / 2 * (2 : ℚ) ^ s.exponent = halfLeast := by
      rw [finest, halfLeast, Size.half_least_step]
    have relative : 0 ≤ roundoff * u := mul_nonneg roundoff_pos.le nonneg
    linarith
  have coarse : leastExponent < s.exponent := lt_of_le_of_ne canonical.2.1 (Ne.symm finest)
  have leading := canonical.2.2.2.resolve_right finest
  have bit : (leadingBit : ℚ) = 4503599627370496 := by norm_num [leadingBit]
  rw [roundoff]
  rcases le_or_gt (leadingBit * (2 : ℚ) ^ s.exponent) u with full | below
  · rw [bit] at full
    linarith
  · -- A number below the power of two that it rounds to is within a quarter of a step.
    obtain ⟨low, -⟩ := WithinTies.bounds near
    have mantissa : s.mantissa = leadingBit := by
      have steps := s.le_lowerEdge.trans low
      rw [le_div_iff₀ power] at steps
      have less := lt_of_mul_lt_mul_right (steps.trans_lt below) power.le
      have cast : (s.mantissa : ℚ) < (leadingBit + 1 : ℕ) := by
        push_cast
        linarith
      exact le_antisymm (Nat.le_of_lt_succ (by exact_mod_cast cast)) leading
    have edge : s.lowerEdge = leadingBit - 1 / 4 := by rw [lowerEdge, if_pos ⟨mantissa, coarse⟩, mantissa]
    rw [edge, le_div_iff₀ power] at low
    rw [Size.value, mantissa, abs_of_pos (sub_pos.mpr below)]
    rw [bit] at low ⊢
    linarith

/-- A finite double within an error of a number, which is a sum of terms of some size in all. -/
structure IsWithin (x : Float) (v size error : ℚ) : Prop where
  small : |v| ≤ size
  near : ∃ w, HasValue x w ∧ |w - v| ≤ error

theorem HasValue.isWithin (held : HasValue x v) : IsWithin x v |v| 0 :=
  ⟨le_rfl, v, held, by rw [sub_self, abs_zero]⟩

theorem IsWithin.mono (held : IsWithin x v m e) (larger : e ≤ f) : IsWithin x v m f := by
  obtain ⟨w, value, error⟩ := held.near
  exact ⟨held.small, w, value, error.trans larger⟩

theorem IsWithin.term_nonneg (held : IsWithin x v m e) (a : ℚ) : 0 ≤ |a| * m ∧ 0 ≤ |a| * e := by
  obtain ⟨w, -, error⟩ := held.near
  exact ⟨mul_nonneg (abs_nonneg a) ((abs_nonneg v).trans held.small),
    mul_nonneg (abs_nonneg a) ((abs_nonneg (w - v)).trans error)⟩

theorem IsWithin.neg (held : IsWithin x v m e) : IsWithin (-x) (-v) m e := by
  obtain ⟨w, value, error⟩ := held.near
  refine ⟨by rw [abs_neg]; exact held.small, -w, value.neg, ?_⟩
  rw [← neg_sub', abs_neg]
  exact error

theorem abs_le_add (small : |v| ≤ m) (error : |w - v| ≤ e) : |w| ≤ m + e := by
  have split := abs_add_le v (w - v)
  rw [add_sub_cancel] at split
  exact split.trans (add_le_add small error)

theorem IsNearestTo.isWithin (near : IsNearestTo x w) (small : |v| ≤ m) (error : |w - v| ≤ e) :
    IsWithin x v m (e + roundoff * (m + e) + halfLeast) := by
  obtain ⟨s, t, canonical, nearest, held, size, side⟩ := near
  refine ⟨small, t, held, ?_⟩
  have rounding := Size.abs_value_sub_le canonical nearest (abs_nonneg w)
  rw [← size, ← abs_sub_of_same_side side] at rounding
  have relative := mul_le_mul_of_nonneg_left (abs_le_add small error) roundoff_pos.le
  have apart := abs_sub_le t w v
  linarith

theorem HasValue.mul_isWithin (first : HasValue x a) (second : IsWithin y v m e)
    (inside : |a| * (m + e) < Size.overflow) :
    IsWithin (x * y) (a * v) (|a| * m) (|a| * e + roundoff * (|a| * (m + e)) + halfLeast) := by
  obtain ⟨w, value, error⟩ := second.near
  have bound := mul_le_mul_of_nonneg_left (abs_le_add second.small error) (abs_nonneg a)
  rw [← abs_mul] at bound
  have small : |a * v| ≤ |a| * m := by
    rw [abs_mul]
    exact mul_le_mul_of_nonneg_left second.small (abs_nonneg a)
  have carried : |a * w - a * v| ≤ |a| * e := by
    rw [← mul_sub, abs_mul]
    exact mul_le_mul_of_nonneg_left error (abs_nonneg a)
  rw [mul_add]
  exact (first.mul value (bound.trans_lt inside)).isWithin small carried

theorem IsWithin.add (first : IsWithin x v m e) (second : IsWithin y w n f)
    (inside : m + n + (e + f) < Size.overflow) :
    IsWithin (x + y) (v + w) (m + n) (e + f + roundoff * (m + n + (e + f)) + halfLeast) := by
  obtain ⟨t, value, error⟩ := first.near
  obtain ⟨u, value', error'⟩ := second.near
  have small := (abs_add_le v w).trans (add_le_add first.small second.small)
  have carried : |t + u - (v + w)| ≤ e + f := by
    rw [add_sub_add_comm]
    exact (abs_add_le _ _).trans (add_le_add error error')
  exact (value.add value' ((abs_le_add small carried).trans_lt inside)).isWithin small carried

theorem IsWithin.sub (first : IsWithin x v m e) (second : IsWithin y w n f)
    (inside : m + n + (e + f) < Size.overflow) :
    IsWithin (x - y) (v - w) (m + n) (e + f + roundoff * (m + n + (e + f)) + halfLeast) := by
  rw [sub_eq_add_neg_float, sub_eq_add_neg]
  exact first.add second.neg inside

/-- Terms up to this size in all lead to no overflow. -/
def spacious : ℚ := 2 ^ (1023 : Int)

theorem spacious_lt_overflow : 9 / 8 * spacious + 8 * halfLeast < Size.overflow := by decide +kernel

variable {x₁ x₂ x₃ y₁ y₂ y₃ : Float} {a₁ a₂ a₃ v₁ v₂ v₃ m₁ m₂ m₃ e₁ e₂ e₃ : ℚ}

theorem isWithin_minor (first : HasValue x₁ a₁) (second : HasValue y₁ v₁) (third : HasValue x₂ a₂)
    (fourth : HasValue y₂ v₂) (inside : |a₁| * |v₁| + |a₂| * |v₂| ≤ spacious) :
    IsWithin (x₁ * y₁ - x₂ * y₂) (a₁ * v₁ - a₂ * v₂) (|a₁| * |v₁| + |a₂| * |v₂|)
      (3 * roundoff * (|a₁| * |v₁| + |a₂| * |v₂|) + 4 * halfLeast) := by
  have room := spacious_lt_overflow
  have least := halfLeast_pos
  have nonneg₁ : 0 ≤ |a₁| * |v₁| := by positivity
  have nonneg₂ : 0 ≤ |a₂| * |v₂| := by positivity
  have product₁ := first.mul_isWithin second.isWithin (by linarith)
  have product₂ := third.mul_isWithin fourth.isWithin (by linarith)
  rw [roundoff] at product₁ product₂ ⊢
  have difference := product₁.sub product₂ (by linarith)
  rw [roundoff] at difference
  exact difference.mono (by linarith)

/-- The error of the alternating sum of three products, each of a double and of a number within an error. -/
theorem isWithin_alternating (first : HasValue x₁ a₁) (second : HasValue x₂ a₂) (third : HasValue x₃ a₃)
    (within₁ : IsWithin y₁ v₁ m₁ e₁) (within₂ : IsWithin y₂ v₂ m₂ e₂) (within₃ : IsWithin y₃ v₃ m₃ e₃)
    (inside : |a₁| * (m₁ + e₁) + |a₂| * (m₂ + e₂) + |a₃| * (m₃ + e₃) ≤ spacious) :
    IsWithin (x₁ * y₁ - x₂ * y₂ + x₃ * y₃) (a₁ * v₁ - a₂ * v₂ + a₃ * v₃)
      (|a₁| * m₁ + |a₂| * m₂ + |a₃| * m₃)
      (2 * (|a₁| * e₁ + |a₂| * e₂ + |a₃| * e₃) + 4 * roundoff * (|a₁| * m₁ + |a₂| * m₂ + |a₃| * m₃) +
        6 * halfLeast) := by
  have room := spacious_lt_overflow
  have least := halfLeast_pos
  obtain ⟨size₁, error₁⟩ := within₁.term_nonneg a₁
  obtain ⟨size₂, error₂⟩ := within₂.term_nonneg a₂
  obtain ⟨size₃, error₃⟩ := within₃.term_nonneg a₃
  have product₁ := first.mul_isWithin within₁ (by linarith)
  have product₂ := second.mul_isWithin within₂ (by linarith)
  have product₃ := third.mul_isWithin within₃ (by linarith)
  rw [roundoff] at product₁ product₂ product₃ ⊢
  have difference := product₁.sub product₂ (by linarith)
  rw [roundoff] at difference
  have sum := difference.add product₃ (by linarith)
  rw [roundoff] at sum
  exact sum.mono (by linarith)

end Metrology.Binary64

import Mathlib
import Metrology.Container.Vector
import Metrology.Proofs.Binary64.Squares
import Metrology.Proofs.Binary64.Value

namespace Metrology

namespace Vector3

open Binary64 (exact ofFloat Size)

variable {a b : Vector3 Float} {low high : ℚ}

def IsFinite (a : Vector3 Float) : Prop := ∀ c ∈ a.toList, (ofFloat c).isFinite = true

/-- The vector of length one is one: it is not zero, and its components are numbers. -/
def HasDirection (a : Vector3 Float) : Prop :=
  (∃ c ∈ a.normalized.toList, (c == 0.0) = false) ∧ ∀ c ∈ a.normalized.toList, c.isNaN = false

/-- The cosine of the angle between two vectors is one that an angle has. -/
def HasAngle (a b : Vector3 Float) : Prop := -1.0 ≤ a.cosine b ∧ a.cosine b ≤ 1.0

/-- The sum of squares, as it is computed, is neither zero nor infinite. -/
def IsMeasurable (a : Vector3 Float) : Prop :=
  (a.magnitudeSquared == 0.0) = false ∧ (ofFloat a.magnitudeSquared).isFinite = true

/-- The squares of the components, as they are before rounding, do not exceed a bound. -/
def SquaresWithin (a : Vector3 Float) (bound : ℚ) : Prop := ∀ c ∈ a.toList, exact c * exact c ≤ bound

instance (a : Vector3 Float) : Decidable a.IsFinite := inferInstanceAs (Decidable (∀ c ∈ a.toList, _))

instance (a : Vector3 Float) : Decidable a.HasDirection := inferInstanceAs (Decidable (_ ∧ _))

instance (a b : Vector3 Float) : Decidable (a.HasAngle b) := inferInstanceAs (Decidable (_ ∧ _))

instance (a : Vector3 Float) : Decidable a.IsMeasurable := inferInstanceAs (Decidable (_ ∧ _))

instance (a : Vector3 Float) (bound : ℚ) : Decidable (a.SquaresWithin bound) :=
  inferInstanceAs (Decidable (∀ c ∈ a.toList, _))

theorem forall_mem_toList {p : Float → Prop} : (∀ c ∈ a.toList, p c) ↔ p a.x ∧ p a.y ∧ p a.z := by
  simp [toList]

theorem IsFinite.exists_size (finite : a.IsFinite) {c : Float} (member : c ∈ a.toList) :
    ∃ n s, ofFloat c = .finite n s := by
  have inside := finite c member
  cases found : ofFloat c with
  | finite n s => exact ⟨n, s, rfl⟩
  | _ => rw [found] at inside; cases inside

theorem isNonneg_square_of_mem (finite : a.IsFinite) {c : Float} (member : c ∈ a.toList) :
    Binary64.IsNonneg (ofFloat (c * c)) := by
  obtain ⟨n, s, found⟩ := finite.exists_size member
  exact Binary64.isNonneg_square found

theorem isNonneg_magnitudeSquared (finite : a.IsFinite) : Binary64.IsNonneg (ofFloat a.magnitudeSquared) := by
  obtain ⟨x, y, z⟩ := forall_mem_toList.mp fun c => isNonneg_square_of_mem finite
  exact (x.add y).add z

theorem isMeasurable_iff (finite : a.IsFinite) :
    a.IsMeasurable ↔ ∃ s, ofFloat a.magnitudeSquared = .finite false s ∧ s.mantissa ≠ 0 := by
  constructor
  · rintro ⟨nonzero, inside⟩
    rcases isNonneg_magnitudeSquared finite with infinite | ⟨s, found⟩
    · rw [infinite] at inside
      cases inside
    · refine ⟨s, found, fun zero => ?_⟩
      rw [(Binary64.beq_zero_iff _).mpr ⟨false, s, found, zero⟩] at nonzero
      cases nonzero
  · rintro ⟨s, found, nonzero⟩
    constructor
    · rw [Bool.eq_false_iff, ne_eq, Binary64.beq_zero_iff, found]
      rintro ⟨n, t, same, zero⟩
      cases same
      exact nonzero zero
    · rw [found]
      rfl

theorem SquaresWithin.mono (small : a.SquaresWithin low) (order : low ≤ high) : a.SquaresWithin high :=
  fun c member => (small c member).trans order

theorem squares_of_sum {r : Size} (finite : a.IsFinite) (sum : ofFloat a.magnitudeSquared = .finite false r) :
    (∀ c ∈ a.toList, ∃ t, ofFloat (c * c) = .finite false t) ∧
      (r.mantissa = 0 ↔ a.SquaresWithin (2 ^ (-1075 : Int))) := by
  obtain ⟨x, y, z⟩ := forall_mem_toList.mp fun c => isNonneg_square_of_mem finite
  obtain ⟨s, t, first, last, both⟩ := Binary64.terms_of_sum (x.add y) z sum
  obtain ⟨u, v, left, right, both'⟩ := Binary64.terms_of_sum x y first
  have vanishes {c : Float} {t : Size} (member : c ∈ a.toList) (square : ofFloat (c * c) = .finite false t) :
      t.mantissa = 0 ↔ exact c * exact c ≤ 2 ^ (-1075 : Int) := by
    obtain ⟨n, s, found⟩ := finite.exists_size member
    rw [Binary64.square_eq_zero_iff found square, Binary64.exact_mul_self found]
  refine ⟨forall_mem_toList.mpr ⟨⟨u, left⟩, ⟨v, right⟩, ⟨t, last⟩⟩, ?_⟩
  rw [SquaresWithin, forall_mem_toList, both, both', vanishes (by simp [toList]) left,
    vanishes (by simp [toList]) right, vanishes (by simp [toList]) last, and_assoc]

theorem exists_sum (finite : a.IsFinite) (small : a.SquaresWithin (2 ^ (1022 : Int))) :
    ∃ r, ofFloat a.magnitudeSquared = .finite false r := by
  have square {c : Float} (member : c ∈ a.toList) :
      ∃ t, ofFloat (c * c) = .finite false t ∧ t.value ≤ 2 ^ (1022 : Int) := by
    obtain ⟨n, s, found⟩ := finite.exists_size member
    have below := small c member
    rw [Binary64.exact_mul_self found, ← Binary64.value_power] at below
    rw [← Binary64.value_power]
    exact Binary64.exists_square_le found (Binary64.power_canonical (by decide) (by decide)) below
  obtain ⟨s, x, s_le⟩ := square (c := a.x) (by simp [toList])
  obtain ⟨t, y, t_le⟩ := square (c := a.y) (by simp [toList])
  obtain ⟨u, z, u_le⟩ := square (c := a.z) (by simp [toList])
  have two : (2 : ℚ) ^ (1022 : Int) + 2 ^ (1022 : Int) = (Binary64.power 1023).value := by
    rw [Binary64.value_power, ← mul_two]
    exact (zpow_add_one₀ two_ne_zero 1022).symm
  obtain ⟨v, sum, v_le⟩ := Binary64.exists_sum_le x y (Binary64.power_canonical (by decide) (by decide))
    ((add_le_add s_le t_le).trans_eq two)
  let three : Size := ⟨3 * 2 ^ 51, 971⟩
  have all : (Binary64.power 1023).value + 2 ^ (1022 : Int) = three.value := by decide +kernel
  have canonical : three.Canonical := ⟨by decide, by decide, by decide, .inl (by decide)⟩
  obtain ⟨r, total, -⟩ := Binary64.exists_sum_le sum z canonical ((add_le_add v_le u_le).trans_eq all)
  exact ⟨r, total⟩

/-- The sum of squares underflows to zero exactly if no component exceeds the root of half the least double. -/
theorem magnitudeSquared_vanishes_iff (finite : a.IsFinite) :
    (a.magnitudeSquared == 0.0) = true ↔ a.SquaresWithin (2 ^ (-1075 : Int)) := by
  constructor
  · intro zero
    obtain ⟨n, s, found, nothing⟩ := (Binary64.beq_zero_iff _).mp zero
    rcases isNonneg_magnitudeSquared finite with infinite | ⟨r, sum⟩
    · rw [found] at infinite
      cases infinite
    · rw [found] at sum
      cases sum
      exact (squares_of_sum finite found).2.mp nothing
  · intro small
    obtain ⟨r, sum⟩ := exists_sum finite (small.mono (zpow_le_zpow_right₀ (by norm_num) (by norm_num)))
    exact (Binary64.beq_zero_iff _).mpr ⟨false, r, sum, (squares_of_sum finite sum).2.mpr small⟩

theorem isMeasurable_iff_of_squaresWithin (finite : a.IsFinite) (small : a.SquaresWithin (2 ^ (1022 : Int))) :
    a.IsMeasurable ↔ ¬a.SquaresWithin (2 ^ (-1075 : Int)) := by
  obtain ⟨r, sum⟩ := exists_sum finite small
  have inside : (ofFloat a.magnitudeSquared).isFinite = true := by
    rw [sum]
    rfl
  rw [← magnitudeSquared_vanishes_iff finite, Bool.not_eq_true]
  exact and_iff_left inside

theorem IsMeasurable.magnitude (measurable : a.IsMeasurable) (finite : a.IsFinite) :
    ∃ r : Size, ofFloat a.magnitude = .finite false r ∧ (2 : ℚ) ^ (-537 : Int) ≤ r.value ∧
      r.value ≤ Binary64.greatestRoot.value := by
  obtain ⟨s, found, nonzero⟩ := (isMeasurable_iff finite).mp measurable
  exact Binary64.sqrt_bounds found nonzero

theorem IsMeasurable.exists_size_square (measurable : a.IsMeasurable) (finite : a.IsFinite) {c : Float}
    (member : c ∈ a.toList) : ∃ t, ofFloat (c * c) = .finite false t := by
  obtain ⟨r, sum, -⟩ := (isMeasurable_iff finite).mp measurable
  exact (squares_of_sum finite sum).1 c member

theorem IsMeasurable.exists_large (measurable : a.IsMeasurable) (finite : a.IsFinite) :
    ∃ c ∈ a.toList, ∃ n s, ofFloat c = .finite n s ∧ (2 : ℚ) ^ (-538 : Int) < s.value := by
  obtain ⟨r, sum, nonzero⟩ := (isMeasurable_iff finite).mp measurable
  have some := mt (squares_of_sum finite sum).2.mpr nonzero
  unfold SquaresWithin at some
  push Not at some
  obtain ⟨c, member, square⟩ := some
  obtain ⟨n, s, found⟩ := finite.exists_size member
  rw [Binary64.exact_mul_self found] at square
  exact ⟨c, member, n, s, found, Binary64.lt_of_lt_mul_self s.value_nonneg square⟩

theorem toList_shrink (a : Vector3 Float) (m : Float) : (a.shrink m).toList = a.toList.map (· / m) := rfl

theorem mantissa_ne_zero_of_le {r : Size} {u : ℚ} (positive : 0 < u) (above : u ≤ r.value) : r.mantissa ≠ 0 :=
  fun zero => (positive.trans_le above).ne' (Size.value_eq_zero zero)

theorem hasDirection_of_isMeasurable (finite : a.IsFinite) (measurable : a.IsMeasurable) :
    a.HasDirection := by
  obtain ⟨r, length, above, below⟩ := measurable.magnitude finite
  have nonzero := mantissa_ne_zero_of_le (by positivity) above
  have test : ¬(a.magnitude == 0.0) = true := by
    rw [Binary64.beq_zero_iff, length]
    rintro ⟨n, t, same, zero⟩
    cases same
    exact nonzero zero
  have quotient {c : Float} {n : Bool} {s : Size} (found : ofFloat c = .finite n s) :=
    Binary64.ofFloat_div found length nonzero
  rw [HasDirection, normalized, if_neg test, toList_shrink]
  constructor
  · obtain ⟨c, member, n, s, found, large⟩ := measurable.exists_large finite
    refine ⟨c / a.magnitude, List.mem_map_of_mem member, ?_⟩
    rw [Bool.eq_false_iff, ne_eq, Binary64.beq_zero_iff, quotient found]
    rintro ⟨k, u, rounds, zero⟩
    obtain ⟨-, canonical, near⟩ :=
      Binary64.lt_overflow_of_rounded (div_nonneg s.value_nonneg r.value_nonneg) rounds
    have small := Size.le_of_mantissa_eq_zero canonical near zero
    have positive : 0 < r.value := lt_of_lt_of_le (by positivity) above
    rw [div_le_iff₀ positive] at small
    have tiny : (2 : ℚ) ^ (-1075 : Int) * r.value ≤ 2 ^ (-538 : Int) :=
      calc (2 : ℚ) ^ (-1075 : Int) * r.value ≤ 2 ^ (-1075 : Int) * Binary64.greatestRoot.value :=
            mul_le_mul_of_nonneg_left below (by positivity)
        _ ≤ 2 ^ (-538 : Int) := Binary64.greatestRoot_bounds.2
    exact (small.trans tiny).not_gt large
  · intro d member
    obtain ⟨c, own, rfl⟩ := List.mem_map.mp member
    obtain ⟨n, s, found⟩ := finite.exists_size own
    rw [Binary64.isNaN_eq_false_iff, quotient found]
    exact Binary64.rounded_ne_nan (div_nonneg s.value_nonneg r.value_nonneg) _

theorem not_hasDirection_of_not_isMeasurable (finite : a.IsFinite) (lost : ¬a.IsMeasurable) :
    ¬a.HasDirection := by
  rintro ⟨⟨d, member, nonzero⟩, -⟩
  rw [Bool.eq_false_iff, ne_eq, Binary64.beq_zero_iff] at nonzero
  apply nonzero
  rcases isNonneg_magnitudeSquared finite with infinite | ⟨s, found⟩
  · have length : ofFloat a.magnitude = .infinite false := Binary64.ofFloat_sqrt_infinite infinite
    have test : ¬(a.magnitude == 0.0) = true := by
      rw [Binary64.beq_zero_iff, length]
      rintro ⟨n, t, same, -⟩
      cases same
    rw [normalized, if_neg test, toList_shrink] at member
    obtain ⟨c, own, rfl⟩ := List.mem_map.mp member
    obtain ⟨n, s, found⟩ := finite.exists_size own
    exact ⟨_, _, Binary64.ofFloat_div_infinite found length, rfl⟩
  · have zero : s.mantissa = 0 := by
      by_contra some
      exact lost ((isMeasurable_iff finite).mpr ⟨s, found, some⟩)
    have test : (a.magnitude == 0.0) = true :=
      (Binary64.beq_zero_iff _).mpr ⟨false, .zero, Binary64.sqrt_zero found zero, rfl⟩
    rw [normalized, if_pos test] at member
    have same : d = 0.0 := by simpa [toList, Vector3.zero, replicate] using member
    rw [same, ← Binary64.beq_zero_iff]
    rfl

theorem hasAngle_of_number (number : (a.dot b / (a.magnitude * b.magnitude)).isNaN = false) :
    a.HasAngle b := by
  unfold HasAngle cosine clampToUnit
  split_ifs with low high
  · decide
  · decide
  · exact ⟨Binary64.le_of_not_lt number (by decide) low, Binary64.le_of_not_lt (by decide) number high⟩

theorem dot_number (finite : a.IsFinite) (finite' : b.IsFinite) (measurable : a.IsMeasurable)
    (measurable' : b.IsMeasurable) : ofFloat (a.dot b) ≠ .nan := by
  have product {c d : Float} (member : c ∈ a.toList) (member' : d ∈ b.toList) :
      ∃ n s, ofFloat (c * d) = .finite n s := by
    obtain ⟨n, s, found⟩ := finite.exists_size member
    obtain ⟨k, t, found'⟩ := finite'.exists_size member'
    obtain ⟨u, square⟩ := measurable.exists_size_square finite member
    obtain ⟨v, square'⟩ := measurable'.exists_size_square finite' member'
    exact Binary64.exists_size_mul found found' square square'
  obtain ⟨n, s, x⟩ := product (c := a.x) (d := b.x) (by simp [toList]) (by simp [toList])
  obtain ⟨k, t, y⟩ := product (c := a.y) (d := b.y) (by simp [toList]) (by simp [toList])
  obtain ⟨g, u, z⟩ := product (c := a.z) (d := b.z) (by simp [toList]) (by simp [toList])
  have number : ofFloat (a.x * b.x) ≠ .nan := by
    rw [x]
    exact Binary64.noConfusion
  exact Binary64.add_number (Binary64.add_number number y) z

/-- Neither length is so small that their product vanishes, nor so large that it leaves the range. -/
theorem lengths_product (finite : a.IsFinite) (finite' : b.IsFinite) (measurable : a.IsMeasurable)
    (measurable' : b.IsMeasurable) :
    ∃ s, ofFloat (a.magnitude * b.magnitude) = .finite false s ∧ s.mantissa ≠ 0 := by
  obtain ⟨r, length, above, below⟩ := measurable.magnitude finite
  obtain ⟨t, length', above', below'⟩ := measurable'.magnitude finite'
  have nonneg : 0 ≤ r.value * t.value := mul_nonneg r.value_nonneg t.value_nonneg
  have inside : r.value * t.value < Size.overflow :=
    calc r.value * t.value ≤ Binary64.greatestRoot.value * Binary64.greatestRoot.value :=
          mul_le_mul below below' t.value_nonneg (Size.value_nonneg _)
      _ < Size.overflow := Binary64.greatestRoot_bounds.1
  obtain ⟨s, canonical, near, result⟩ := Binary64.exists_rounded nonneg inside false
  refine ⟨s, (Binary64.ofFloat_mul length length').trans result, fun zero => ?_⟩
  have small := Size.le_of_mantissa_eq_zero canonical near zero
  have large : (2 : ℚ) ^ (-537 : Int) * 2 ^ (-537 : Int) ≤ r.value * t.value :=
    mul_le_mul above above' (by positivity) r.value_nonneg
  rw [← zpow_add₀ two_ne_zero] at large
  have more : (2 : ℚ) ^ (-1075 : Int) < 2 ^ (-537 + -537 : Int) :=
    zpow_lt_zpow_right₀ (by norm_num) (by norm_num)
  exact absurd (large.trans small) more.not_ge

theorem hasAngle_of_isMeasurable (finite : a.IsFinite) (finite' : b.IsFinite) (measurable : a.IsMeasurable)
    (measurable' : b.IsMeasurable) : a.HasAngle b := by
  obtain ⟨s, lengths, nonzero⟩ := lengths_product finite finite' measurable measurable'
  have number := dot_number finite finite' measurable measurable'
  exact hasAngle_of_number ((Binary64.isNaN_eq_false_iff _).mpr (Binary64.div_number number lengths nonzero))

/-- Two vectors have directions and an angle exactly if neither sum of squares underflows to zero or
overflows. It underflows exactly if no square exceeds half the least double; where no square exceeds
`2 ^ 1022`, which leaves components up to `2 ^ 511`, nothing else can be lost. -/
theorem directions_and_angle_iff (finite : a.IsFinite) (finite' : b.IsFinite) :
    (a.HasDirection ∧ b.HasDirection ∧ a.HasAngle b ↔ a.IsMeasurable ∧ b.IsMeasurable) ∧
      ∀ v ∈ [a, b],
        ((v.magnitudeSquared == 0.0) = true ↔ v.SquaresWithin (2 ^ (-1075 : Int))) ∧
        (v.SquaresWithin (2 ^ (1022 : Int)) → (v.IsMeasurable ↔ ¬v.SquaresWithin (2 ^ (-1075 : Int)))) := by
  have both : ∀ v ∈ [a, b], v.IsFinite := by
    simpa using ⟨finite, finite'⟩
  refine ⟨⟨?_, ?_⟩, fun v member =>
    ⟨magnitudeSquared_vanishes_iff (both v member), isMeasurable_iff_of_squaresWithin (both v member)⟩⟩
  · rintro ⟨first, second, -⟩
    by_contra lost
    rcases not_and_or.mp lost with none | none
    · exact not_hasDirection_of_not_isMeasurable finite none first
    · exact not_hasDirection_of_not_isMeasurable finite' none second
  · rintro ⟨first, second⟩
    exact ⟨hasDirection_of_isMeasurable finite first, hasDirection_of_isMeasurable finite' second,
      hasAngle_of_isMeasurable finite finite' first second⟩

theorem directions_and_angle_iff_three_four :
    IsFinite ⟨3.0, 4.0, 0.0⟩ ∧ IsFinite ⟨0.0, 1.0, 0.0⟩ ∧
      (IsMeasurable ⟨3.0, 4.0, 0.0⟩ ∧ IsMeasurable ⟨0.0, 1.0, 0.0⟩) ∧
      HasDirection ⟨3.0, 4.0, 0.0⟩ ∧ HasDirection ⟨0.0, 1.0, 0.0⟩ ∧
      HasAngle ⟨3.0, 4.0, 0.0⟩ ⟨0.0, 1.0, 0.0⟩ := by
  have first : IsFinite ⟨3.0, 4.0, 0.0⟩ := by decide +kernel
  have second : IsFinite ⟨0.0, 1.0, 0.0⟩ := by decide +kernel
  obtain ⟨decided, components⟩ := directions_and_angle_iff first second
  have measurable : IsMeasurable ⟨3.0, 4.0, 0.0⟩ ∧ IsMeasurable ⟨0.0, 1.0, 0.0⟩ := by
    constructor
    · exact ((components _ (by simp)).2 (by decide +kernel)).mpr (by decide +kernel)
    · exact ((components _ (by simp)).2 (by decide +kernel)).mpr (by decide +kernel)
  exact ⟨first, second, measurable, decided.mpr measurable⟩

/-- A vector of length `2 ^ -600` is not zero, but the squares of its components are. -/
theorem tiny_vector_without_direction :
    IsFinite ⟨Float.ofBits 0x1a70000000000000, 0.0, 0.0⟩ ∧
      (Float.ofBits 0x1a70000000000000 == 0.0) = false ∧
      ¬HasDirection ⟨Float.ofBits 0x1a70000000000000, 0.0, 0.0⟩ ∧
      ¬HasAngle ⟨Float.ofBits 0x1a70000000000000, 0.0, 0.0⟩ ⟨Float.ofBits 0x1a70000000000000, 0.0, 0.0⟩ := by
  decide +kernel

end Vector3

end Metrology

import Mathlib
import Metrology.Proofs.Binary64.Error
import Metrology.Proofs.Container.Inverse

/-!
Determinants and inverses of tensors of doubles against those of the exact tensors. For small whole numbers
times a power of two nothing is rounded but the entries of the inverse. In general the determinant is as far from
the exact one as the roundings of its six terms lead it.
-/

namespace Metrology

open Binary64 (HasValue IsNearestTo IsMultiple IsWithin roundoff halfLeast spacious)

namespace Dyad

section Rel

variable {α β γ : Type} {r : α → β → Prop} {d : Dyad α} {e : Dyad β}

structure Rel (r : α → β → Prop) (d : Dyad α) (e : Dyad β) : Prop where
  xx : r d.xx e.xx
  xy : r d.xy e.xy
  xz : r d.xz e.xz
  yx : r d.yx e.yx
  yy : r d.yy e.yy
  yz : r d.yz e.yz
  zx : r d.zx e.zx
  zy : r d.zy e.zy
  zz : r d.zz e.zz

theorem rel_iff_forall₂ : Rel r d e ↔ List.Forall₂ r d.toList e.toList := by
  simp only [toList, List.forall₂_cons, List.forall₂_nil_left_iff, and_true]
  constructor
  · rintro ⟨xx, xy, xz, yx, yy, yz, zx, zy, zz⟩
    exact ⟨xx, xy, xz, yx, yy, yz, zx, zy, zz⟩
  · rintro ⟨xx, xy, xz, yx, yy, yz, zx, zy, zz⟩
    exact ⟨xx, xy, xz, yx, yy, yz, zx, zy, zz⟩

theorem Rel.flip (related : Rel r d e) : Rel (Function.swap r) e d :=
  rel_iff_forall₂.mpr (rel_iff_forall₂.mp related).flip

theorem Rel.trans {s : β → γ → Prop} {t : α → γ → Prop} {f : Dyad γ} (first : Rel r d e) (second : Rel s e f)
    (step : ∀ a b c, r a b → s b c → t a c) : Rel t d f where
  xx := step _ _ _ first.xx second.xx
  xy := step _ _ _ first.xy second.xy
  xz := step _ _ _ first.xz second.xz
  yx := step _ _ _ first.yx second.yx
  yy := step _ _ _ first.yy second.yy
  yz := step _ _ _ first.yz second.yz
  zx := step _ _ _ first.zx second.zx
  zy := step _ _ _ first.zy second.zy
  zz := step _ _ _ first.zz second.zz

theorem Rel.shrink [Div α] [Div β] {s : α → β → Prop} {y : α} {w : β} (related : Rel r d e)
    (step : ∀ a b, r a b → s (a / y) (b / w)) : Rel s (d.shrink y) (e.shrink w) where
  xx := step _ _ related.xx
  xy := step _ _ related.xy
  xz := step _ _ related.xz
  yx := step _ _ related.yx
  yy := step _ _ related.yy
  yz := step _ _ related.yz
  zx := step _ _ related.zx
  zy := step _ _ related.zy
  zz := step _ _ related.zz

instance [DecidableRel r] (d : Dyad α) (e : Dyad β) : Decidable (d.Rel r e) :=
  decidable_of_iff _ rel_iff_forall₂.symm

end Rel

def wholeBound : ℕ := 100000

def cofactorBound : ℕ := wholeBound * wholeBound + wholeBound * wholeBound

/-- All components are small whole numbers times a common power of two. -/
def IsWhole (v : Dyad ℚ) : Prop :=
  ∃ e : ℤ, -358 ≤ e ∧ e ≤ 323 ∧ ∀ c ∈ v.toList, ∃ m : ℤ, |m| ≤ wholeBound ∧ c = m * (2 : ℚ) ^ e

theorem isWhole_cast {n : Dyad ℤ} (small : ∀ m ∈ n.toList, |m| ≤ wholeBound) :
    IsWhole (n.map Int.cast) := by
  refine ⟨0, by decide, by decide, fun c member => ?_⟩
  change c ∈ n.toList.map Int.cast at member
  obtain ⟨m, inside, rfl⟩ := List.mem_map.mp member
  exact ⟨m, small m inside, by rw [zpow_zero, mul_one]⟩

variable {d i : Dyad Float} {v : Dyad ℚ} {e : ℤ}

theorem exponents_in_range (least : -358 ≤ e) (greatest : e ≤ 323) :
    Binary64.leastExponent ≤ e + e ∧ e + e ≤ Binary64.greatestExponent ∧
      Binary64.leastExponent ≤ e + (e + e) ∧ e + (e + e) ≤ Binary64.greatestExponent := by
  simp only [Binary64.leastExponent, Binary64.greatestExponent]
  omega

theorem isMultiple_minor {x y z t : Float} {a b f g : ℚ} (least : -358 ≤ e) (greatest : e ≤ 323)
    (first : IsMultiple e wholeBound x a) (second : IsMultiple e wholeBound y b)
    (third : IsMultiple e wholeBound z f) (fourth : IsMultiple e wholeBound t g) :
    IsMultiple (e + e) cofactorBound (x * y - z * t) (a * b - f * g) := by
  obtain ⟨low, high, -⟩ := exponents_in_range least greatest
  exact (first.mul second (by decide) low high).sub (third.mul fourth (by decide) low high) (by decide) low high

/-- The tensor of the numbers that a tensor of doubles stands for, all of them small multiples. -/
theorem isMultiple_of_isWhole (values : Rel HasValue d v)
    (whole : ∀ c ∈ v.toList, ∃ m : ℤ, |m| ≤ wholeBound ∧ c = m * (2 : ℚ) ^ e) :
    Rel (IsMultiple e wholeBound) d v := by
  simp only [toList, List.forall_mem_cons, List.not_mem_nil, false_implies, implies_true, and_true] at whole
  obtain ⟨xx, xy, xz, yx, yy, yz, zx, zy, zz⟩ := whole
  exact ⟨⟨values.xx, xx⟩, ⟨values.xy, xy⟩, ⟨values.xz, xz⟩, ⟨values.yx, yx⟩, ⟨values.yy, yy⟩, ⟨values.yz, yz⟩,
    ⟨values.zx, zx⟩, ⟨values.zy, zy⟩, ⟨values.zz, zz⟩⟩

theorem isMultiple_adjugate (least : -358 ≤ e) (greatest : e ≤ 323)
    (held : Rel (IsMultiple e wholeBound) d v) :
    Rel (IsMultiple (e + e) cofactorBound) d.adjugate v.adjugate where
  xx := isMultiple_minor least greatest held.yy held.zz held.zy held.yz
  xy := isMultiple_minor least greatest held.xz held.zy held.zz held.xy
  xz := isMultiple_minor least greatest held.xy held.yz held.yy held.xz
  yx := (isMultiple_minor least greatest held.yx held.zz held.zx held.yz).neg
  yy := isMultiple_minor least greatest held.xx held.zz held.zx held.xz
  yz := isMultiple_minor least greatest held.xz held.yx held.yz held.xx
  zx := isMultiple_minor least greatest held.yx held.zy held.zx held.yy
  zy := isMultiple_minor least greatest held.xy held.zx held.zy held.xx
  zz := isMultiple_minor least greatest held.xx held.yy held.yx held.xy

theorem isMultiple_determinant (least : -358 ≤ e) (greatest : e ≤ 323)
    (held : Rel (IsMultiple e wholeBound) d v) :
    ∃ bound, IsMultiple (e + (e + e)) bound d.determinant v.determinant := by
  obtain ⟨-, -, low, high⟩ := exponents_in_range least greatest
  have x := held.xx.mul (isMultiple_minor least greatest held.yy held.zz held.zy held.yz) (by decide) low high
  have y := held.xy.mul (isMultiple_minor least greatest held.yx held.zz held.zx held.yz) (by decide) low high
  have z := held.xz.mul (isMultiple_minor least greatest held.yx held.zy held.zx held.yy) (by decide) low high
  exact ⟨_, (x.sub y (by decide) low high).add z (by decide) low high⟩

theorem inverse?_eq_none_iff_beq : d.inverse? = none ↔ (d.determinant == 0.0) = true := by
  rw [inverse?]
  split
  · next zero => exact iff_of_true rfl zero
  · next nonzero => exact iff_of_false (Option.some_ne_none _) nonzero

theorem inverse?_eq_none_iff_value {w : ℚ} (held : HasValue d.determinant w) : d.inverse? = none ↔ w = 0 := by
  rw [inverse?_eq_none_iff_beq, held.eq_zero_iff]

theorem eq_of_inverse? (found : d.inverse? = some i) : i = d.adjugate.shrink d.determinant := by
  rw [inverse?, Option.ite_none_left_eq_some] at found
  exact (Option.some.inj found.2).symm

theorem cofactorBound_lt : cofactorBound * (2 : ℚ) ^ (358 : ℤ) < Binary64.Size.overflow := by
  have bound : (cofactorBound : ℚ) ≤ 2 ^ (35 : ℤ) := by norm_num [cofactorBound, wholeBound]
  calc cofactorBound * (2 : ℚ) ^ (358 : ℤ) ≤ 2 ^ (35 : ℤ) * 2 ^ (358 : ℤ) :=
        mul_le_mul_of_nonneg_right bound (by positivity)
    _ = 2 ^ (393 : ℤ) := (zpow_add₀ two_ne_zero _ _).symm
    _ ≤ 2 ^ (1023 : ℤ) := zpow_le_zpow_right₀ (by norm_num) (by norm_num)
    _ < Binary64.Size.overflow := Binary64.Size.power_lt_overflow

theorem abs_div_lt_overflow {x y : Float} {a w : ℚ} {bound : ℕ} (least : -358 ≤ e)
    (cofactor : IsMultiple (e + e) cofactorBound x a) (determinant : IsMultiple (e + (e + e)) bound y w)
    (regular : w ≠ 0) : |a / w| < Binary64.Size.overflow := by
  have power : (0 : ℚ) < 2 ^ (e + (e + e)) := by positivity
  rw [abs_div, div_lt_iff₀ (abs_pos.mpr regular)]
  calc |a| ≤ cofactorBound * 2 ^ (e + e) := cofactor.abs_le
    _ = cofactorBound * 2 ^ (-e) * 2 ^ (e + (e + e)) := by
      rw [mul_assoc, ← zpow_add₀ two_ne_zero]
      congr 2
      omega
    _ ≤ cofactorBound * 2 ^ (358 : ℤ) * 2 ^ (e + (e + e)) := by
      gcongr
      · norm_num
      · omega
    _ < Binary64.Size.overflow * 2 ^ (e + (e + e)) := mul_lt_mul_of_pos_right cofactorBound_lt power
    _ ≤ Binary64.Size.overflow * |w| :=
      mul_le_mul_of_nonneg_left (determinant.le_abs regular) Binary64.Size.overflow_pos.le

theorem inverse?_of_isWhole (values : Rel HasValue d v) (whole : v.IsWhole) :
    (d.inverse? = none ↔ v.determinant = 0) ∧
      ∀ i, d.inverse? = some i → ∃ w, v.inverse? = some w ∧ Rel IsNearestTo i w := by
  obtain ⟨e, least, greatest, multiples⟩ := whole
  have held := isMultiple_of_isWhole values multiples
  have cofactors := isMultiple_adjugate least greatest held
  obtain ⟨bound, determinant⟩ := isMultiple_determinant least greatest held
  have singular := inverse?_eq_none_iff_value determinant.value
  refine ⟨singular, fun i found => ?_⟩
  have regular : v.determinant ≠ 0 := by
    rw [ne_eq, ← singular, found]
    exact Option.some_ne_none i
  refine ⟨v.adjugate.shrink v.determinant, ?_, ?_⟩
  · rw [inverse?_eq_some_iff]
    exact toMatrix_mul_adjugate_shrink regular
  · rw [eq_of_inverse? found]
    exact cofactors.shrink fun x a cofactor =>
      cofactor.value.div determinant.value regular (abs_div_lt_overflow least cofactor determinant regular)

def componentBound : ℚ := 2 ^ (340 : ℤ)

def IsBounded (v : Dyad ℚ) : Prop := ∀ c ∈ v.toList, |c| ≤ componentBound

def minorSizes (v : Dyad ℚ) : Vector3 ℚ :=
  ⟨|v.yy| * |v.zz| + |v.zy| * |v.yz|, |v.yx| * |v.zz| + |v.zx| * |v.yz|, |v.yx| * |v.zy| + |v.zx| * |v.yy|⟩

def termSizes (v : Dyad ℚ) : ℚ :=
  |v.xx| * v.minorSizes.x + |v.xy| * v.minorSizes.y + |v.xz| * v.minorSizes.z

/-- How far rounding may lead the determinant: an error relative to its terms, and one that remains where these
are below all doubles. -/
def roundingBound (v : Dyad ℚ) : ℚ :=
  16 * roundoff * v.termSizes + 8 * halfLeast * (1 + |v.xx| + |v.xy| + |v.xz|)

section Bounds

variable {a b c f m : ℚ}

theorem componentBound_pos : 0 < componentBound := by
  unfold componentBound
  positivity

/-- What remains below the end of the doubles, and above the least of them, for products of components. -/
theorem componentBound_room :
    4 * halfLeast ≤ 1 / 4 * (componentBound * componentBound) ∧
    2 * (componentBound * componentBound) ≤ spacious ∧
    15 / 2 * (componentBound * (componentBound * componentBound)) ≤ spacious ∧
    componentBound * halfLeast ≤ 1 / 12 ∧ halfLeast * (12 * halfLeast) < 2 ^ (-1074 : ℤ) := by
  decide +kernel

theorem minorSize_le (first : |a| ≤ componentBound) (second : |b| ≤ componentBound)
    (third : |c| ≤ componentBound) (fourth : |f| ≤ componentBound) :
    |a| * |b| + |c| * |f| ≤ 2 * (componentBound * componentBound) := by
  have product := mul_le_mul first second (abs_nonneg b) componentBound_pos.le
  have product' := mul_le_mul third fourth (abs_nonneg f) componentBound_pos.le
  linarith

theorem term_le (component : |a| ≤ componentBound) (minor : m ≤ 2 * (componentBound * componentBound)) :
    |a| * (m + (3 * roundoff * m + 4 * halfLeast)) ≤
      5 / 2 * (componentBound * (componentBound * componentBound)) := by
  obtain ⟨least, -⟩ := componentBound_room
  have square : 0 < componentBound * componentBound := mul_pos componentBound_pos componentBound_pos
  have sum : m + (3 * roundoff * m + 4 * halfLeast) ≤ 5 / 2 * (componentBound * componentBound) := by
    rw [roundoff]
    linarith
  calc |a| * (m + (3 * roundoff * m + 4 * halfLeast))
      ≤ |a| * (5 / 2 * (componentBound * componentBound)) := mul_le_mul_of_nonneg_left sum (abs_nonneg a)
    _ ≤ componentBound * (5 / 2 * (componentBound * componentBound)) :=
      mul_le_mul_of_nonneg_right component (by linarith)
    _ = 5 / 2 * (componentBound * (componentBound * componentBound)) := by ring

end Bounds

theorem minorSizes_le (bounded : v.IsBounded) :
    v.minorSizes.x ≤ 2 * (componentBound * componentBound) ∧
    v.minorSizes.y ≤ 2 * (componentBound * componentBound) ∧
    v.minorSizes.z ≤ 2 * (componentBound * componentBound) := by
  simp only [IsBounded, toList, List.forall_mem_cons] at bounded
  obtain ⟨-, -, -, yx, yy, yz, zx, zy, zz, -⟩ := bounded
  exact ⟨minorSize_le yy zz zy yz, minorSize_le yx zz zx yz, minorSize_le yx zy zx yy⟩

theorem isWithin_minors (values : Rel HasValue d v) (bounded : v.IsBounded) :
    IsWithin d.minors.x v.minors.x v.minorSizes.x (3 * roundoff * v.minorSizes.x + 4 * halfLeast) ∧
    IsWithin d.minors.y v.minors.y v.minorSizes.y (3 * roundoff * v.minorSizes.y + 4 * halfLeast) ∧
    IsWithin d.minors.z v.minors.z v.minorSizes.z (3 * roundoff * v.minorSizes.z + 4 * halfLeast) := by
  obtain ⟨-, room, -⟩ := componentBound_room
  obtain ⟨x, y, z⟩ := minorSizes_le bounded
  exact ⟨Binary64.isWithin_minor values.yy values.zz values.zy values.yz (x.trans room),
    Binary64.isWithin_minor values.yx values.zz values.zx values.yz (y.trans room),
    Binary64.isWithin_minor values.yx values.zy values.zx values.yy (z.trans room)⟩

theorem terms_le_spacious (bounded : v.IsBounded) :
    |v.xx| * (v.minorSizes.x + (3 * roundoff * v.minorSizes.x + 4 * halfLeast)) +
      |v.xy| * (v.minorSizes.y + (3 * roundoff * v.minorSizes.y + 4 * halfLeast)) +
      |v.xz| * (v.minorSizes.z + (3 * roundoff * v.minorSizes.z + 4 * halfLeast)) ≤ spacious := by
  obtain ⟨-, -, room, -⟩ := componentBound_room
  obtain ⟨x, y, z⟩ := minorSizes_le bounded
  simp only [IsBounded, toList, List.forall_mem_cons] at bounded
  obtain ⟨xx, xy, xz, -⟩ := bounded
  linarith [term_le xx x, term_le xy y, term_le xz z]

theorem isWithin_determinant (values : Rel HasValue d v) (bounded : v.IsBounded) :
    IsWithin d.determinant v.determinant v.termSizes v.roundingBound := by
  obtain ⟨x, y, z⟩ := isWithin_minors values bounded
  have within := Binary64.isWithin_alternating values.xx values.xy values.xz x y z (terms_le_spacious bounded)
  have least := Binary64.halfLeast_pos
  have terms : 0 ≤ v.termSizes := (abs_nonneg _).trans within.small
  refine within.mono ?_
  rw [roundingBound]
  rw [termSizes, roundoff] at *
  linarith

/-- If the minors are small beside the determinant, it is no larger than its own rounding errors. -/
theorem abs_le_of_small_minors {w x y z : ℚ} (values : Rel HasValue d v) (bounded : v.IsBounded)
    (determinant : HasValue d.determinant w) (minor_x : HasValue d.minors.x x) (minor_y : HasValue d.minors.y y)
    (minor_z : HasValue d.minors.z z) (small_x : |x| ≤ halfLeast * |w|) (small_y : |y| ≤ halfLeast * |w|)
    (small_z : |z| ≤ halfLeast * |w|) : |w| ≤ 12 * halfLeast := by
  simp only [IsBounded, toList, List.forall_mem_cons] at bounded
  obtain ⟨xx, xy, xz, -⟩ := bounded
  have within {m : Float} {a : ℚ} (minor : HasValue m a) (small : |a| ≤ halfLeast * |w|) :
      IsWithin m 0 0 (halfLeast * |w|) :=
    ⟨abs_zero.le, a, minor, by rwa [sub_zero]⟩
  obtain ⟨-, -, -, unit, -⟩ := componentBound_room
  have term {a : ℚ} (component : |a| ≤ componentBound) :
      |a| * (halfLeast * |w|) ≤ 1 / 12 * |w| := by
    calc |a| * (halfLeast * |w|) ≤ componentBound * (halfLeast * |w|) :=
          mul_le_mul_of_nonneg_right component (mul_nonneg Binary64.halfLeast_pos.le (abs_nonneg w))
      _ = componentBound * halfLeast * |w| := (mul_assoc _ _ _).symm
      _ ≤ 1 / 12 * |w| := mul_le_mul_of_nonneg_right unit (abs_nonneg w)
  have room : 1 / 4 * Binary64.Size.overflow ≤ spacious := by
    have double : Binary64.Size.overflow < spacious * 2 :=
      Binary64.Size.overflow_lt_power.trans_eq (zpow_add_one₀ two_ne_zero 1023)
    linarith [Binary64.Size.overflow_pos]
  have finite := determinant.isDouble.lt_overflow
  obtain ⟨-, w', value, error⟩ := Binary64.isWithin_alternating values.xx values.xy values.xz
    (within minor_x small_x) (within minor_y small_y) (within minor_z small_z)
    (by linarith [term xx, term xy, term xz])
  rw [value.unique determinant] at error
  simp only [mul_zero, sub_zero, add_zero] at error
  linarith [term xx, term xy, term xz]

/-- If all entries of a column of the inverse vanished, so would the minors, and with them the determinant. -/
theorem inverse?_ne_zero (values : Rel HasValue d v) (bounded : v.IsBounded) (found : d.inverse? = some i) :
    ¬Rel HasValue i zero := by
  intro nothing
  rw [eq_of_inverse? found, zero, Container.zero_literal] at nothing
  obtain ⟨-, w, determinant, -⟩ := isWithin_determinant values bounded
  obtain ⟨⟨-, x, minor_x, -⟩, ⟨-, y, minor_y, -⟩, ⟨-, z, minor_z, -⟩⟩ := isWithin_minors values bounded
  have regular : w ≠ 0 := by
    rw [ne_eq, ← inverse?_eq_none_iff_value determinant, found]
    exact Option.some_ne_none i
  have small_x : |x| ≤ halfLeast * |w| := minor_x.le_of_div determinant regular nothing.xx
  have small_y : |y| ≤ halfLeast * |w| := abs_neg y ▸ minor_y.neg.le_of_div determinant regular nothing.yx
  have small_z : |z| ≤ halfLeast * |w| := minor_z.le_of_div determinant regular nothing.zx
  have tiny := abs_le_of_small_minors values bounded determinant minor_x minor_y minor_z small_x small_y small_z
  obtain ⟨-, -, -, -, least⟩ := componentBound_room
  have vanishes {m : Float} {a : ℚ} (minor : HasValue m a) (small : |a| ≤ halfLeast * |w|) : HasValue m 0 := by
    have bound := small.trans (mul_le_mul_of_nonneg_left tiny Binary64.halfLeast_pos.le)
    rwa [minor.eq_zero_of_lt (bound.trans_lt least)] at minor
  have product_x := values.xx.mul_zero_right (vanishes minor_x small_x)
  have product_y := values.xy.mul_zero_right (vanishes minor_y small_y)
  have product_z := values.xz.mul_zero_right (vanishes minor_z small_z)
  exact regular (determinant.unique ((product_x.sub_zero_zero product_y).add_zero_zero product_z))

theorem IsWhole.isBounded (whole : v.IsWhole) : v.IsBounded := by
  obtain ⟨e, -, greatest, multiples⟩ := whole
  intro c member
  obtain ⟨m, small, rfl⟩ := multiples c member
  have power : (0 : ℚ) < 2 ^ e := by positivity
  have cast : |(m : ℚ)| ≤ wholeBound := by exact_mod_cast small
  rw [abs_mul, abs_of_pos power]
  calc |(m : ℚ)| * 2 ^ e ≤ wholeBound * 2 ^ (323 : ℤ) :=
        mul_le_mul cast (zpow_le_zpow_right₀ (by norm_num) greatest) power.le (Nat.cast_nonneg _)
    _ ≤ 2 ^ (17 : ℤ) * 2 ^ (323 : ℤ) := mul_le_mul_of_nonneg_right (by norm_num [wholeBound]) (by positivity)
    _ = componentBound := (zpow_add₀ two_ne_zero _ _).symm

end Dyad

end Metrology

import Mathlib

namespace Metrology.Binary64

open Float.Model (Format UnpackedFloat)
open Float.Model.UnpackedFloat

theorem mul_comm_sign (s t : Sign) : s * t = t * s := by
  cases s <;> cases t <;> rfl

theorem mul_comm_unpacked (u v : UnpackedFloat) : mul .binary64 u v = mul .binary64 v u := by
  cases u <;> cases v <;>
    simp only [mul, mul_comm_sign, Nat.mul_comm, Int.add_comm]

theorem mul_comm_float (x y : Float) : x * y = y * x :=
  congrArg (fun u => Float.ofModel (Float.Model.pack u)) (mul_comm_unpacked _ _)

theorem add_comm_unpacked (u v : UnpackedFloat) : add .binary64 u v = add .binary64 v u := by
  cases u with
  | notANumber => cases v <;> rfl
  | infinity s =>
    cases v with
    | infinity t => cases s <;> cases t <;> rfl
    | _ => rfl
  | zero s =>
    cases v with
    | zero t => cases s <;> cases t <;> rfl
    | _ => rfl
  | finite s m e =>
    cases v with
    | finite t n f =>
      simp only [add]
      rw [min_comm f e, Int.add_comm]
    | _ => rfl

theorem add_comm_float (x y : Float) : x + y = y + x :=
  congrArg (fun u => Float.ofModel (Float.Model.pack u)) (add_comm_unpacked _ _)

theorem neg_unpack_packComponents (sign : Sign) (exponent : BitVec Format.binary64.exponentBits)
    (mantissa : BitVec Format.binary64.mantissaBitsWithoutImplicit) :
    (unpack .binary64 (packComponents .binary64 sign exponent mantissa)).neg =
      unpack .binary64 (packComponents .binary64 (-sign) exponent mantissa) := by
  simp only [unpack, unpackExponent_packComponents, unpackMantissa_packComponents,
    unpackSign_packComponents, Sign.ofBitVec_toBitVec]
  split_ifs <;> rfl

theorem unpack_pack_neg (u : UnpackedFloat) :
    unpack .binary64 (pack .binary64 u.neg) = (unpack .binary64 (pack .binary64 u)).neg := by
  cases u with
  | notANumber => simp only [neg, pack, unpack_packedNaN]
  | infinity sign => exact (neg_unpack_packComponents sign _ _).symm
  | zero sign => exact (neg_unpack_packComponents sign _ _).symm
  | finite sign mantissa exponent positive =>
    simp only [neg, pack, packedInfinity]
    split_ifs <;> exact (neg_unpack_packComponents sign _ _).symm

/-- A result may be negated before its bits are put together. -/
theorem neg_ofModel_pack (u : UnpackedFloat) :
    -Float.ofModel (Float.Model.pack u) = Float.ofModel (Float.Model.pack u.neg) := by
  have bits : pack .binary64 (unpack .binary64 (pack .binary64 u)).neg = pack .binary64 u.neg := by
    rw [← unpack_pack_neg, pack_unpack_of_valid valid_pack]
  exact Float.toBits_inj.mp (congrArg UInt64.ofBitVec bits)

theorem neg_round (sign : Sign) (mantissa : Nat) (exponent : Int) :
    (UnpackedFloat.round .binary64 sign mantissa exponent).neg =
      UnpackedFloat.round .binary64 (-sign) mantissa exponent := by
  simp only [UnpackedFloat.round, roundWithAccuracy]
  split_ifs <;> rfl

theorem neg_normalize {mantissa : Int} (exponent : Int) (nonzero : mantissa ≠ 0) (s t : Sign) :
    (UnpackedFloat.normalize .binary64 mantissa exponent s).neg =
      UnpackedFloat.normalize .binary64 (-mantissa) exponent t := by
  rcases lt_or_gt_of_ne nonzero with below | above
  · have before : compare mantissa 0 = .lt := compare_lt_iff_lt.mpr below
    have after : compare (-mantissa) 0 = .gt := compare_gt_iff_gt.mpr (by omega)
    simp only [UnpackedFloat.normalize, before, after]
    exact neg_round ..
  · have before : compare mantissa 0 = .gt := compare_gt_iff_gt.mpr above
    have after : compare (-mantissa) 0 = .lt := compare_lt_iff_lt.mpr (by omega)
    simp only [UnpackedFloat.normalize, before, after, neg_neg]
    exact neg_round ..

def IsZero : UnpackedFloat → Prop
  | .zero _ => True
  | _ => False

/-- The zero that equal numbers leave is positive in either order, so that here alone the signs do not
turn. -/
theorem neg_sub_unpacked (u v : UnpackedFloat) :
    (sub .binary64 u v).neg = sub .binary64 v u ∨
      IsZero (sub .binary64 u v).neg ∧ IsZero (sub .binary64 v u) := by
  cases u with
  | notANumber => cases v <;> exact .inl rfl
  | infinity s =>
    cases v with
    | infinity t => left; cases s <;> cases t <;> rfl
    | _ => exact .inl rfl
  | zero s =>
    cases v with
    | notANumber => exact .inl rfl
    | zero t => right; cases s <;> cases t <;> exact ⟨trivial, trivial⟩
    | infinity t => left; cases t <;> rfl
    | finite t => left; cases t <;> rfl
  | finite s m e =>
    cases v with
    | infinity t => left; cases t <;> rfl
    | finite t n f =>
      simp only [sub]
      rw [min_comm f e]
      generalize s.apply _ = first, t.apply _ = second
      by_cases equal : first = second
      · right
        rw [equal, sub_self]
        exact ⟨trivial, trivial⟩
      · left
        rw [neg_normalize _ (sub_ne_zero.mpr equal) .positive .positive, neg_sub]
    | _ => exact .inl rfl

/-- Equal, or both zero, of whatever sign. -/
def EqualUpToZeroSign (x y : Float) : Prop := x = y ∨ (x == 0.0) = true ∧ (y == 0.0) = true

theorem EqualUpToZeroSign.refl (x : Float) : EqualUpToZeroSign x x := .inl rfl

theorem beq_zero_of_isZero {u : UnpackedFloat} (zero : IsZero u) :
    (Float.ofModel (Float.Model.pack u) == 0.0) = true := by
  cases u with
  | zero sign => cases sign <;> rfl
  | _ => exact zero.elim

theorem sub_equal_neg_sub (x y : Float) : EqualUpToZeroSign (y - x) (-(x - y)) := by
  have turned : -(x - y) =
      Float.ofModel (Float.Model.pack (sub .binary64 x.toModel.unpack y.toModel.unpack).neg) :=
    neg_ofModel_pack _
  rw [turned]
  rcases neg_sub_unpacked x.toModel.unpack y.toModel.unpack with equal | ⟨first, second⟩
  · rw [equal]
    exact .refl _
  · exact .inr ⟨beq_zero_of_isZero second, beq_zero_of_isZero first⟩

theorem unpack_of_beq_zero {x : Float} (zero : (x == 0.0) = true) : ∃ s, x.toModel.unpack = .zero s := by
  have literal : (0.0 : Float) = 0 := rfl
  rw [literal, Float.beq_iff_ne_nan_and_eq] at zero
  obtain ⟨-, -, rfl | ⟨-, contra⟩ | ⟨rfl, -⟩⟩ := zero
  · exact ⟨.positive, rfl⟩
  · cases contra
  · exact ⟨.negative, rfl⟩

theorem EqualUpToZeroSign.div {x y : Float} (equal : EqualUpToZeroSign x y) (z : Float) :
    EqualUpToZeroSign (x / z) (y / z) := by
  obtain rfl | ⟨first, second⟩ := equal
  · exact .refl _
  obtain ⟨s, left⟩ := unpack_of_beq_zero first
  obtain ⟨t, right⟩ := unpack_of_beq_zero second
  change EqualUpToZeroSign (Float.ofModel (Float.Model.pack (UnpackedFloat.div .binary64 _ _)))
    (Float.ofModel (Float.Model.pack (UnpackedFloat.div .binary64 _ _)))
  rw [left, right]
  -- only a divisor that is zero or no number at all gives something else than a zero
  cases z.toModel.unpack with
  | notANumber => exact .refl _
  | zero _ => exact .refl _
  | infinity _ => exact .inr ⟨beq_zero_of_isZero trivial, beq_zero_of_isZero trivial⟩
  | finite _ _ _ _ => exact .inr ⟨beq_zero_of_isZero trivial, beq_zero_of_isZero trivial⟩

theorem compare_finite_swap (m k : Nat) (e f : Int) :
    ((compare e f).then (compare m k)).swap = (compare f e).then (compare k m) := by
  rw [Ordering.swap_then, ← Std.OrientedOrd.eq_swap, ← Std.OrientedOrd.eq_swap]

theorem compare_swap_unpacked (a b : UnpackedFloat) : (a.compare b).map Ordering.swap = b.compare a := by
  rcases a with s | _ | s | ⟨s, m, e, _⟩ <;> rcases b with t | _ | t | ⟨t, k, f, _⟩ <;>
    (try cases s) <;> (try cases t) <;>
      first
        | rfl
        | exact congrArg some (compare_finite_swap _ _ _ _)
        | exact congrArg (fun o => some o.swap) (compare_finite_swap _ _ _ _)

theorem compare_isSome {a b : UnpackedFloat} (first : a.isNaN = false) (second : b.isNaN = false) :
    (a.compare b).isSome := by
  rcases a with s | _ | s | ⟨s, m, e, _⟩ <;> rcases b with t | _ | t | ⟨t, k, f, _⟩ <;>
    (try cases s) <;> (try cases t) <;>
      first
        | rfl
        | exact Bool.noConfusion first
        | exact Bool.noConfusion second

theorem lt_iff_compare (x y : Float) : x < y ↔ x.toModel.unpack.compare y.toModel.unpack = some .lt := by
  change decide (x.toModel < y.toModel) = true ↔ _
  rw [decide_eq_true_iff]
  change (x.toModel.unpack.compare y.toModel.unpack == some .lt) = true ↔ _
  rw [beq_iff_eq]

theorem le_iff_compare (x y : Float) :
    x ≤ y ↔ ∃ o, x.toModel.unpack.compare y.toModel.unpack = some o ∧ o.isLE := by
  change decide (x.toModel ≤ y.toModel) = true ↔ _
  rw [decide_eq_true_iff]
  change (x.toModel.unpack.compare y.toModel.unpack).any (·.isLE) = true ↔ _
  rw [Option.any_eq_true]

theorem le_of_not_lt {x y : Float} (first : x.isNaN = false) (second : y.isNaN = false)
    (order : ¬x < y) : y ≤ x := by
  obtain ⟨o, found⟩ := Option.isSome_iff_exists.mp
    (compare_isSome (a := x.toModel.unpack) (b := y.toModel.unpack) first second)
  rw [lt_iff_compare, found] at order
  rw [le_iff_compare, ← compare_swap_unpacked, found]
  cases o with
  | lt => exact absurd rfl order
  | eq => exact ⟨.eq, rfl, rfl⟩
  | gt => exact ⟨.lt, rfl, rfl⟩

end Metrology.Binary64

import Mathlib
import Metrology.Container.Vector
import Metrology.Proofs.Binary64.Extremes

/-!
The order of doubles. All doubles but those that are no number have a place on the line of numbers with its two
ends, and doubles are ordered as their places are. The laws of their order come from there.
-/

namespace Metrology.Binary64

open Float.Model (UnpackedFloat)

variable {x y z : Float} {s t : Size}

section

variable {α β : Type} [LinearOrder α] [LinearOrder β] {u v w : α}

theorem some_lt_eq_compare (less : u < v) : some Ordering.lt = some (compare u v) :=
  congrArg some (compare_lt_iff_lt.mpr less).symm

theorem some_gt_eq_compare (more : v < u) : some Ordering.gt = some (compare u v) :=
  congrArg some (compare_gt_iff_gt.mpr more).symm

theorem compare_map {f : α → β} (rising : StrictMono f) (u v : α) : compare (f u) (f v) = compare u v := by
  rw [← cmp_eq_compare, ← cmp_eq_compare]
  exact rising.cmp_map_eq u v

theorem compare_of_le_of_le (first : u ≤ v) (second : v ≤ w) :
    compare u w = (compare u v).then (compare v w) := by
  rcases first.eq_or_lt with rfl | less
  · rw [compare_eq_iff_eq.mpr rfl]
    rfl
  · rw [compare_lt_iff_lt.mpr less, compare_lt_iff_lt.mpr (less.trans_le second)]
    rfl

end

theorem compare_neg_neg (u v : ℚ) : compare (-u) (-v) = compare v u := by
  have falling : StrictAnti fun w : ℚ => -w := fun _ _ => neg_lt_neg
  rw [← cmp_eq_compare, ← cmp_eq_compare]
  exact falling.cmp_map_eq u v

/-- Exponents decide before mantissas do, since a mantissa fills its bits wherever the exponent could be less. -/
theorem Size.compare_value (first : s.Canonical) (second : t.Canonical) :
    (compare s.exponent t.exponent).then (compare s.mantissa t.mantissa) = compare s.value t.value := by
  rcases lt_trichotomy s.exponent t.exponent with finer | same | coarser
  · have less := value_lt_of_bits_lt first second (bits_lt_of_exponent_lt first second finer)
    rw [compare_lt_iff_lt.mpr finer, compare_lt_iff_lt.mpr less]
    rfl
  · have step : (0 : ℚ) < 2 ^ t.exponent := by positivity
    have rising : StrictMono fun m : Nat => (m : ℚ) * 2 ^ t.exponent :=
      fun m n less => mul_lt_mul_of_pos_right (Nat.cast_lt.mpr less) step
    rw [compare_eq_iff_eq.mpr same, value, value, same]
    exact (compare_map rising s.mantissa t.mantissa).symm
  · have more := value_lt_of_bits_lt second first (bits_lt_of_exponent_lt second first coarser)
    rw [compare_gt_iff_gt.mpr coarser, compare_gt_iff_gt.mpr more]
    rfl

theorem compare_unpackedSize (first : s.Canonical) (second : t.Canonical) (n k : Bool) :
    (unpackedSize (sign n) s).compare (unpackedSize (sign k) t) =
      some (compare (signed n s.value) (signed k t.value)) := by
  -- A zero has a form of its own, in which its sign is compared with nothing.
  by_cases nothing : s.mantissa = 0 <;> by_cases nothing' : t.mantissa = 0
  · rw [unpackedSize_of_eq_zero nothing, unpackedSize_of_eq_zero nothing', signed_of_eq_zero nothing,
      signed_of_eq_zero nothing']
    rfl
  · have right := Size.value_pos nothing'
    rw [unpackedSize_of_eq_zero nothing, unpackedSize_of_ne_zero nothing', signed_of_eq_zero nothing]
    cases k with
    | false => exact some_lt_eq_compare right
    | true => exact some_gt_eq_compare (neg_lt_zero.mpr right)
  · have left := Size.value_pos nothing
    rw [unpackedSize_of_ne_zero nothing, unpackedSize_of_eq_zero nothing', signed_of_eq_zero nothing']
    cases n with
    | false => exact some_gt_eq_compare left
    | true => exact some_lt_eq_compare (neg_lt_zero.mpr left)
  · have left := Size.value_pos nothing
    have right := Size.value_pos nothing'
    rw [unpackedSize_of_ne_zero nothing, unpackedSize_of_ne_zero nothing']
    cases n <;> cases k
    · exact congrArg some (Size.compare_value first second)
    · exact some_gt_eq_compare ((neg_lt_zero.mpr right).trans left)
    · exact some_lt_eq_compare ((neg_lt_zero.mpr left).trans right)
    · refine congrArg some ((compare_finite_swap _ _ _ _).trans ?_)
      exact (Size.compare_value second first).trans (compare_neg_neg _ _).symm

/-- Where a double stands among the numbers. Both zeros stand at zero, and infinities at the ends. -/
def place? : Binary64 → Option (WithBot (WithTop ℚ))
  | .nan => none
  | .infinite true => some ⊥
  | .infinite false => some ⊤
  | .finite negative size => some (signed negative size.value : ℚ)

theorem place?_eq_none_iff (x : Float) : (ofFloat x).place? = none ↔ x.isNaN = true := by
  rw [← Bool.not_eq_false, isNaN_eq_false_iff, not_not]
  cases ofFloat x with
  | nan => simp [place?]
  | infinite n => cases n <;> simp [place?]
  | finite n s => simp [place?]

theorem compare_coe (u v : ℚ) : compare (u : WithBot (WithTop ℚ)) v = compare u v := by
  have rising : StrictMono fun w : ℚ => (w : WithBot (WithTop ℚ)) :=
    WithBot.coe_strictMono.comp WithTop.coe_strictMono
  exact compare_map rising u v

theorem compare_notANumber (u : UnpackedFloat) : u.compare .notANumber = none := by
  cases u <;> rfl

theorem compare_infinity_unpackedSize (n k : Bool) (t : Size) :
    (UnpackedFloat.infinity (sign n)).compare (unpackedSize (sign k) t) =
      Option.map₂ compare (place? (.infinite n)) (place? (.finite k t)) := by
  cases n with
  | false =>
    rcases unpackedSize_cases (sign k) t with form | ⟨_, _, _, form⟩ <;> rw [form] <;>
      exact some_gt_eq_compare (WithBot.coe_lt_coe.mpr (WithTop.coe_lt_top _))
  | true =>
    rcases unpackedSize_cases (sign k) t with form | ⟨_, _, _, form⟩ <;> rw [form] <;>
      exact some_lt_eq_compare (WithBot.bot_lt_coe _)

theorem compare_unpackedSize_infinity (n k : Bool) (s : Size) :
    (unpackedSize (sign n) s).compare (.infinity (sign k)) =
      Option.map₂ compare (place? (.finite n s)) (place? (.infinite k)) := by
  cases k with
  | false =>
    rcases unpackedSize_cases (sign n) s with form | ⟨_, _, _, form⟩ <;> rw [form] <;>
      exact some_lt_eq_compare (WithBot.coe_lt_coe.mpr (WithTop.coe_lt_top _))
  | true =>
    rcases unpackedSize_cases (sign n) s with form | ⟨_, _, _, form⟩ <;> rw [form] <;>
      exact some_gt_eq_compare (WithBot.bot_lt_coe _)

theorem compare_infinity_infinity (n k : Bool) :
    (UnpackedFloat.infinity (sign n)).compare (.infinity (sign k)) =
      Option.map₂ compare (place? (.infinite n)) (place? (.infinite k)) := by
  cases n <;> cases k
  · exact congrArg some (compare_eq_iff_eq.mpr rfl).symm
  · exact some_gt_eq_compare bot_lt_top
  · exact some_lt_eq_compare bot_lt_top
  · exact congrArg some (compare_eq_iff_eq.mpr rfl).symm

theorem beq_eq_unpacked (x y : Float) :
    (x == y) = (x.toModel.unpack.compare y.toModel.unpack == some .eq) := rfl

theorem order?_eq_unpacked (x y : Float) : order? x y = x.toModel.unpack.compare y.toModel.unpack := by
  simp only [order?, lt_iff_compare, beq_eq_unpacked, ← compare_swap_unpacked x.toModel.unpack]
  rcases x.toModel.unpack.compare y.toModel.unpack with _ | _ | _ | _ <;> rfl

/-- Doubles are ordered as their places are, and unordered where one of them has none. -/
theorem order?_eq_places (x y : Float) :
    order? x y = Option.map₂ compare (ofFloat x).place? (ofFloat y).place? := by
  rw [order?_eq_unpacked, unpack_eq_unpacked, unpack_eq_unpacked]
  cases left : ofFloat x with
  | nan => rfl
  | infinite n =>
    cases ofFloat y with
    | nan => exact (compare_notANumber _).trans (Option.map₂_none_right _ _).symm
    | infinite k => exact compare_infinity_infinity n k
    | finite k t => exact compare_infinity_unpackedSize n k t
  | finite n s =>
    cases right : ofFloat y with
    | nan => exact compare_notANumber _
    | infinite k => exact compare_unpackedSize_infinity n k s
    | finite k t =>
      rw [unpacked, unpacked, compare_unpackedSize (ofFloat_eq_finite left).1 (ofFloat_eq_finite right).1,
        ← compare_coe]
      rfl

theorem beq_iff_order? (x y : Float) : (x == y) = true ↔ order? x y = some .eq := by
  rw [order?_eq_unpacked, beq_eq_unpacked, beq_iff_eq]

theorem order?_swap (x y : Float) : (order? x y).map .swap = order? y x := by
  rw [order?_eq_unpacked, order?_eq_unpacked]
  exact compare_swap_unpacked _ _

theorem order?_eq_none_iff (x y : Float) : order? x y = none ↔ x.isNaN = true ∨ y.isNaN = true := by
  rw [order?_eq_places, Option.map₂_eq_none_iff, place?_eq_none_iff, place?_eq_none_iff]

/-- Steps that do not go down add up: to a step up if one of them is, and to none otherwise. -/
theorem order?_then {o p : Ordering} (first : order? x y = some o) (second : order? y z = some p)
    (rising : o ≠ .gt) (rising' : p ≠ .gt) : order? x z = some (o.then p) := by
  rw [order?_eq_places] at *
  obtain ⟨u, v, left, middle, rfl⟩ := Option.map₂_eq_some_iff.mp first
  obtain ⟨v', w, middle', right, rfl⟩ := Option.map₂_eq_some_iff.mp second
  obtain rfl : v = v' := Option.some.inj (middle.symm.trans middle')
  rw [left, right, Option.map₂_some_some, Option.some.injEq]
  exact compare_of_le_of_le (compare_le_iff_le.mp rising) (compare_le_iff_le.mp rising')

end Metrology.Binary64

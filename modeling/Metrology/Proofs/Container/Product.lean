import Mathlib
import Metrology.Proofs.Container.Matrix
import Metrology.Proofs.Measurement.Geometry

namespace Metrology

namespace Vector3

section

variable {α : Type} [Field α]

theorem dot_comm (a b : Vector3 α) : a.dot b = b.dot a := by
  simp only [dot, mul_comm]

theorem neg_eq (a : Vector3 α) : -a = ⟨-a.x, -a.y, -a.z⟩ := rfl

theorem sub_eq (a b : Vector3 α) : a - b = ⟨a.x - b.x, a.y - b.y, a.z - b.z⟩ := rfl

theorem zero_eq : (zero : Vector3 α) = ⟨0, 0, 0⟩ := by
  rw [zero, Container.zero_literal, replicate]

theorem dot_sq_add_cross_sq (a b : Vector3 α) :
    a.dot b ^ 2 + (a.cross b).magnitudeSquared = a.magnitudeSquared * b.magnitudeSquared := by
  simp only [magnitudeSquared, dot, cross]
  ring

theorem cross_dot_left (a b : Vector3 α) : (a.cross b).dot a = 0 := by
  simp only [dot, cross]
  ring

theorem cross_dot_right (a b : Vector3 α) : (a.cross b).dot b = 0 := by
  simp only [dot, cross]
  ring

theorem cross_anticomm (a b : Vector3 α) : a.cross b = -b.cross a := by
  simp only [neg_eq, cross, neg_sub, mul_comm]

theorem cross_cross (a b c : Vector3 α) : a.cross (b.cross c) = b.scale (a.dot c) - c.scale (a.dot b) := by
  simp only [sub_eq, cross, scale, map, dot]
  congr 1 <;> ring

theorem dyadic_apply (a b c : Vector3 α) : (a.dyadic b).apply c = a.scale (b.dot c) := by
  simp only [dyadic, Dyad.apply, Dyad.rows, Dyad.ofRows, map, scale, dot]
  congr 1 <;> ring

theorem trace_dyadic (a b : Vector3 α) : (a.dyadic b).trace = a.dot b := rfl

theorem transpose_dyadic (a b : Vector3 α) : (a.dyadic b).transpose = b.dyadic a := by
  simp only [dyadic, Dyad.transpose, Dyad.ofRows, map, mul_comm]

variable [LinearOrder α] [IsStrictOrderedRing α]

theorem magnitudeSquared_eq_zero_iff (a : Vector3 α) : a.magnitudeSquared = 0 ↔ a = zero := by
  rw [zero_eq]
  constructor
  · intro flat
    have x := mul_self_nonneg a.x
    have y := mul_self_nonneg a.y
    have z := mul_self_nonneg a.z
    have sum : a.x * a.x + a.y * a.y + a.z * a.z = 0 := flat
    calc a = ⟨a.x, a.y, a.z⟩ := rfl
      _ = ⟨0, 0, 0⟩ := by
        congr 1 <;> exact mul_self_eq_zero.mp (by linarith)
  · rintro rfl
    simp [magnitudeSquared, dot]

theorem clampToUnit_eq_self {c : α} (inside : |c| ≤ 1) : clampToUnit c = c := by
  obtain ⟨low, high⟩ := abs_le.mp inside
  rw [clampToUnit, Container.one_literal, if_neg low.not_gt, if_neg high.not_gt]

variable [HasSqrt α]

theorem magnitude_nonneg (exact : HasSqrt.IsExact α) (a : Vector3 α) : 0 ≤ a.magnitude :=
  exact.nonneg _ a.magnitudeSquared_nonneg

theorem magnitude_mul_self (exact : HasSqrt.IsExact α) (a : Vector3 α) :
    a.magnitude * a.magnitude = a.magnitudeSquared :=
  exact.square _ a.magnitudeSquared_nonneg

theorem magnitude_eq_of_square (exact : HasSqrt.IsExact α) {a : Vector3 α} {m : α} (nonneg : 0 ≤ m)
    (square : a.magnitudeSquared = m * m) : a.magnitude = m := by
  rw [magnitude, square]
  exact exact.sqrt_mul_self nonneg

theorem magnitude_eq_zero_iff (exact : HasSqrt.IsExact α) (a : Vector3 α) : a.magnitude = 0 ↔ a = zero := by
  rw [← magnitudeSquared_eq_zero_iff, ← magnitude_mul_self exact, mul_self_eq_zero]

/-- What the cross product takes of the product of the lengths is not negative. -/
theorem abs_dot_le (exact : HasSqrt.IsExact α) (a b : Vector3 α) :
    |a.dot b| ≤ a.magnitude * b.magnitude := by
  apply abs_le_of_sq_le_sq _ (mul_nonneg (magnitude_nonneg exact a) (magnitude_nonneg exact b))
  calc a.dot b ^ 2 ≤ a.dot b ^ 2 + (a.cross b).magnitudeSquared :=
        le_add_of_nonneg_right (magnitudeSquared_nonneg _)
    _ = a.magnitudeSquared * b.magnitudeSquared := dot_sq_add_cross_sq a b
    _ = (a.magnitude * b.magnitude) ^ 2 := by
        rw [← magnitude_mul_self exact, ← magnitude_mul_self exact]
        ring

theorem cosine_eq (exact : HasSqrt.IsExact α) {a b : Vector3 α} (left : a ≠ zero) (right : b ≠ zero) :
    a.cosine b = a.dot b / (a.magnitude * b.magnitude) := by
  have lengths : 0 < a.magnitude * b.magnitude := by
    apply mul_pos
    · exact lt_of_le_of_ne (magnitude_nonneg exact a) (Ne.symm (mt (magnitude_eq_zero_iff exact a).mp left))
    · exact lt_of_le_of_ne (magnitude_nonneg exact b) (Ne.symm (mt (magnitude_eq_zero_iff exact b).mp right))
  apply clampToUnit_eq_self
  rw [abs_div, abs_of_pos lengths, div_le_one lengths]
  exact abs_dot_le exact a b

end

end Vector3

namespace Dyad

section

variable {α : Type} [Field α]

theorem compose_apply (d e : Dyad α) (c : Vector3 α) : (d.compose e).apply c = d.apply (e.apply c) := by
  simp only [compose, apply, rows, columns, ofRows, Vector3.map, Vector3.dot]
  congr 1 <;> ring

theorem transpose_compose (d e : Dyad α) : (d.compose e).transpose = e.transpose.compose d.transpose := by
  apply toMatrix_injective
  rw [toMatrix_transpose, toMatrix_compose, toMatrix_compose, toMatrix_transpose, toMatrix_transpose,
    Matrix.transpose_mul]

theorem dot_apply (d : Dyad α) (a b : Vector3 α) : a.dot (d.apply b) = (d.transpose.apply a).dot b := by
  simp only [apply, transpose, rows, Vector3.map, Vector3.dot]
  ring

end

section

variable {α : Type}

theorem rowStart?_eq (index : USize) :
    rowStart? index = if index.toNat < 3 then some (index.toNat * 3) else none := by
  have three : (3 : USize).toNat = 3 := USize.toNat_ofNat_of_lt_32 (by decide)
  have nine : 9 ≤ USize.size := (by decide : 9 ≤ 2 ^ 32).trans USize.le_size
  rw [rowStart?, wordProduct?, three]
  by_cases small : index.toNat < 3
  · have inside : index.toNat * 3 < 9 := by omega
    rw [if_pos small, if_pos (inside.trans_le nine), Option.filter_some, if_pos (decide_eq_true inside)]
  · have outside : ¬index.toNat * 3 < 9 := by omega
    rw [if_neg small]
    split
    · rw [Option.filter_some, decide_eq_false outside]
      rfl
    · rfl

theorem row?_eq_column?_transpose (d : Dyad α) (index : Nat) : d.row? index = d.transpose.column? index := rfl

theorem isSome_row?_iff (d : Dyad α) (index : Nat) : (d.row? index).isSome = true ↔ index < 3 := by
  simp [row?, Vector3.get?, Vector3.toList]

theorem row?_eq_none (d : Dyad α) {index : Nat} (beyond : ¬index < 3) : d.row? index = none := by
  rw [← Option.not_isSome_iff_eq_none, isSome_row?_iff]
  exact beyond

theorem storedRow?_eq (d : Dyad α) (index : USize) : d.storedRow? index = d.row? index.toNat := by
  rw [storedRow?, rowStart?_eq]
  generalize index.toNat = i
  split
  · interval_cases i <;> rfl
  · next beyond => exact (d.row?_eq_none beyond).symm

theorem storedColumn?_eq (d : Dyad α) (index : USize) : d.storedColumn? index = d.column? index.toNat := by
  rw [storedColumn?]
  generalize index.toNat = i
  split
  · interval_cases i <;> rfl
  · next beyond => exact (d.transpose.row?_eq_none beyond).symm

theorem get?_apply [Field α] (d : Dyad α) (c : Vector3 α) (index : Nat) :
    (d.apply c).get? index = (d.row? index).map fun row => row.dot c := by
  change (d.rows.toList.map fun row => row.dot c)[index]? = _
  exact List.getElem?_map

end

end Dyad

/-- Products of vectors and tensors are those of linear algebra: the cosine needs no clamp, outer products and matrix
products act, trace and transpose as they should, and rows are found at the indices below three, whatever word the
index is. -/
theorem linear_algebra_laws {α : Type} [Field α] [LinearOrder α] [IsStrictOrderedRing α] :
    (∀ a b : Vector3 α,
      a.dot b ^ 2 + (a.cross b).magnitudeSquared = a.magnitudeSquared * b.magnitudeSquared ∧
      (a.cross b).dot a = 0 ∧ (a.cross b).dot b = 0 ∧ a.cross b = -b.cross a) ∧
    (∀ [HasSqrt α], HasSqrt.IsExact α → ∀ a b : Vector3 α, a ≠ .zero → b ≠ .zero →
      a.cosine b = a.dot b / (a.magnitude * b.magnitude)) ∧
    (∀ a b c : Vector3 α,
      (a.dyadic b).apply c = a.scale (b.dot c) ∧ (a.dyadic b).trace = a.dot b ∧
      (a.dyadic b).transpose = b.dyadic a) ∧
    (∀ (d e : Dyad α) (a b : Vector3 α),
      (d.compose e).apply a = d.apply (e.apply a) ∧
      (d.compose e).transpose = e.transpose.compose d.transpose ∧
      a.dot (d.apply b) = (d.transpose.apply a).dot b) ∧
    (∀ (d : Dyad α) (index : USize),
      d.storedRow? index = d.row? index.toNat ∧ d.storedColumn? index = d.column? index.toNat) ∧
    ∀ (d : Dyad α) (index : Nat),
      d.row? index = d.transpose.column? index ∧ ((d.row? index).isSome = true ↔ index < 3) ∧
      ∀ c : Vector3 α, (d.apply c).get? index = (d.row? index).map fun row => row.dot c := by
  refine ⟨fun a b => ?_, fun exact a b left right => ?_, fun a b c => ?_, fun d e a b => ?_, fun d index => ?_,
    fun d index => ?_⟩
  · exact ⟨a.dot_sq_add_cross_sq b, a.cross_dot_left b, a.cross_dot_right b, a.cross_anticomm b⟩
  · exact Vector3.cosine_eq exact left right
  · exact ⟨a.dyadic_apply b c, a.trace_dyadic b, a.transpose_dyadic b⟩
  · exact ⟨d.compose_apply e a, d.transpose_compose e, d.dot_apply a b⟩
  · exact ⟨d.storedRow?_eq index, d.storedColumn?_eq index⟩
  · exact ⟨d.row?_eq_column?_transpose index, d.isSome_row?_iff index, fun c => d.get?_apply c index⟩

theorem linear_algebra_laws_cosine :
    IsStrictOrderedRing ℝ ∧ HasSqrt.IsExact ℝ ∧ (⟨1, 2, 2⟩ : Vector3 ℝ) ≠ .zero ∧
    (⟨2, 1, 2⟩ : Vector3 ℝ) ≠ .zero ∧ (⟨1, 2, 2⟩ : Vector3 ℝ).cosine ⟨2, 1, 2⟩ = 8 / 9 := by
  have left : (⟨1, 2, 2⟩ : Vector3 ℝ) ≠ .zero := by simp [Vector3.zero_eq]
  have right : (⟨2, 1, 2⟩ : Vector3 ℝ) ≠ .zero := by simp [Vector3.zero_eq]
  have three (a : Vector3 ℝ) (square : a.magnitudeSquared = 3 * 3) : a.magnitude = 3 :=
    Vector3.magnitude_eq_of_square HasSqrt.isExact_real zero_le_three square
  refine ⟨inferInstance, HasSqrt.isExact_real, left, right, ?_⟩
  rw [linear_algebra_laws.2.1 HasSqrt.isExact_real _ _ left right, three, three] <;>
    norm_num [Vector3.magnitudeSquared, Vector3.dot]

end Metrology

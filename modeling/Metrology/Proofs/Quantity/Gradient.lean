import Metrology.Calculator.Method
import Metrology.Proofs.Container.Product

namespace Metrology

namespace Dyad

section

variable {α : Type}

theorem transpose_ofSymmetric (s : SymmetricDyad α) : (ofSymmetric s).transpose = ofSymmetric s := rfl

theorem isSymmetric_iff [DecidableEq α] (d : Dyad α) : d.isSymmetric = true ↔ d.transpose = d := by
  cases d
  rw [isSymmetric, transpose, mk.injEq, Bool.and_eq_true, Bool.and_eq_true, beq_iff_eq, beq_iff_eq, beq_iff_eq]
  constructor
  · rintro ⟨⟨xy, xz⟩, yz⟩
    exact ⟨rfl, xy.symm, xz.symm, xy, rfl, yz.symm, xz, yz, rfl⟩
  · rintro ⟨-, -, -, xy, -, -, xz, yz, -⟩
    exact ⟨⟨xy, xz⟩, yz⟩

end

variable {α : Type} [Field α]

theorem add_eq (d e : Dyad α) : d + e = d.zipWith (· + ·) e := rfl

theorem sub_eq (d e : Dyad α) : d - e = d.zipWith (· - ·) e := rfl

theorem dot_add_apply (d e : Dyad α) (v w : Vector3 α) :
    v.dot ((d + e).apply w) = v.dot (d.apply w) + v.dot (e.apply w) := by
  simp only [add_eq, zipWith, apply, rows, Vector3.map, Vector3.dot]
  ring

theorem dot_sub_apply (d e : Dyad α) (v w : Vector3 α) :
    v.dot ((d - e).apply w) = v.dot (d.apply w) - v.dot (e.apply w) := by
  simp only [sub_eq, zipWith, apply, rows, Vector3.map, Vector3.dot]
  ring

theorem dot_scale_apply (d : Dyad α) (c : α) (v w : Vector3 α) :
    v.dot ((d.scale c).apply w) = v.dot (d.apply w) * c := by
  simp only [scale, map, apply, rows, Vector3.map, Vector3.dot]
  ring

theorem dot_transpose_apply (d : Dyad α) (v : Vector3 α) : v.dot (d.transpose.apply v) = v.dot (d.apply v) := by
  rw [d.dot_apply, Vector3.dot_comm]

theorem symmetricPart_transpose (d : Dyad α) : d.transpose.symmetricPart = d.symmetricPart := by
  simp only [symmetricPart, transpose, add_comm]

theorem trace_symmetricPart (d : Dyad α) : d.symmetricPart.trace = d.trace := rfl

theorem dot_skewPart_apply (d : Dyad α) (v : Vector3 α) : v.dot (d.skewPart.apply v) = 0 := by
  rw [skewPart, dot_scale_apply, dot_sub_apply, dot_transpose_apply, sub_self, zero_mul]

theorem transpose_skewPart (d : Dyad α) : d.skewPart.transpose = -d.skewPart := by
  have turned (a b : α) : (a - b) * 0.5 = -((b - a) * 0.5) := by rw [← neg_mul, neg_sub]
  change mk _ _ _ _ _ _ _ _ _ = mk (-_) (-_) (-_) (-_) (-_) (-_) (-_) (-_) (-_)
  congr 1 <;> exact turned _ _

theorem symmetricPart_add (d e : Dyad α) : (d + e).symmetricPart = d.symmetricPart + e.symmetricPart := by
  have mean (a b c d : α) : 0.5 * (a + b + (c + d)) = 0.5 * (a + c) + 0.5 * (b + d) := by ring
  change SymmetricDyad.mk _ _ _ _ _ _ = SymmetricDyad.mk (_ + _) (_ + _) (_ + _) (_ + _) (_ + _) (_ + _)
  congr 1 <;> exact mean _ _ _ _

/-- The symmetric part goes through whatever keeps the mean of two numbers. -/
theorem symmetricPart_map {f : α → α} (mean : ∀ x y, f (0.5 * (x + y)) = 0.5 * (f x + f y)) (d : Dyad α) :
    (d.map f).symmetricPart = d.symmetricPart.map f := by
  simp only [symmetricPart, map, SymmetricDyad.map, mean]

theorem symmetricPart_scale (d : Dyad α) (c : α) : (d.scale c).symmetricPart = d.symmetricPart.scale c := by
  apply symmetricPart_map
  intro x y
  ring

variable [CharZero α]

theorem half_add_self (a : α) : 0.5 * (a + a) = a := by
  norm_num
  ring

theorem ofSymmetric_symmetricPart (d : Dyad α) : ofSymmetric d.symmetricPart = (d + d.transpose).scale 0.5 := by
  simp only [add_eq, zipWith, scale, map, transpose, mul_comm _ (0.5 : α), half_add_self]
  simp only [ofSymmetric, symmetricPart, SymmetricDyad.yx, SymmetricDyad.zx, SymmetricDyad.zy, add_comm]

theorem symmetricPart_ofSymmetric (s : SymmetricDyad α) : (ofSymmetric s).symmetricPart = s := by
  change SymmetricDyad.mk s.xx (0.5 * (s.xy + s.xy)) (0.5 * (s.xz + s.xz)) s.yy (0.5 * (s.yz + s.yz)) s.zz = s
  simp only [half_add_self]

theorem symmetricPart_add_skewPart (d : Dyad α) : ofSymmetric d.symmetricPart + d.skewPart = d := by
  have halves (a b : α) : (a + b) * 0.5 + (a - b) * 0.5 = a := by
    rw [← add_mul, add_add_sub_cancel, mul_comm, half_add_self]
  rw [ofSymmetric_symmetricPart, skewPart]
  change mk _ _ _ _ _ _ _ _ _ = d
  simp only [add_eq, sub_eq, scale, map, zipWith, halves]

theorem dot_symmetricPart_apply (d : Dyad α) (v : Vector3 α) :
    v.dot (d.symmetricPart.apply v) = v.dot (d.apply v) := by
  change v.dot ((ofSymmetric d.symmetricPart).apply v) = _
  rw [ofSymmetric_symmetricPart, dot_scale_apply, dot_add_apply, dot_transpose_apply, mul_comm, half_add_self]

theorem isSymmetric_iff_eq_symmetricPart [DecidableEq α] (d : Dyad α) :
    d.isSymmetric = true ↔ d = ofSymmetric d.symmetricPart := by
  rw [isSymmetric_iff]
  constructor
  · intro symmetric
    have halved : (d + d).scale 0.5 = d := by
      simp only [add_eq, zipWith, scale, map, mul_comm _ (0.5 : α), half_add_self]
    calc d = (d + d).scale 0.5 := halved.symm
      _ = (d + d.transpose).scale 0.5 := by rw [symmetric]
      _ = ofSymmetric d.symmetricPart := d.ofSymmetric_symmetricPart.symm
  · intro equal
    rw [equal, transpose_ofSymmetric]

end Dyad

/-- A symmetric tensor with the trace and the quadratic form of a general one. -/
structure SymmetricDyad.SharesForm {α : Type} [Add α] [Mul α] (s : SymmetricDyad α) (d : Dyad α) : Prop where
  trace : s.trace = d.trace
  quadratic : ∀ v : Vector3 α, v.dot (s.apply v) = v.dot (d.apply v)

/-- Only the symmetric part does: the form of a vector along an axis is a component on the diagonal, and that of the
sum of two such vectors has the mean of two components beside them. -/
theorem SymmetricDyad.sharesForm_iff {α : Type} [Field α] [CharZero α] (s : SymmetricDyad α) (d : Dyad α) :
    s.SharesForm d ↔ s = d.symmetricPart := by
  constructor
  · rintro ⟨-, quadratic⟩
    have form (x y z : α) :
        s.xx * x ^ 2 + s.yy * y ^ 2 + s.zz * z ^ 2 + 2 * (s.xy * x * y + s.xz * x * z + s.yz * y * z) =
          d.xx * x ^ 2 + d.yy * y ^ 2 + d.zz * z ^ 2 +
            ((d.xy + d.yx) * x * y + (d.xz + d.zx) * x * z + (d.yz + d.zy) * y * z) := by
      have expanded := quadratic ⟨x, y, z⟩
      simp only [Vector3.dot, apply, yx, zx, zy, Dyad.apply, Dyad.rows, Vector3.map] at expanded
      linear_combination expanded
    have xx : s.xx = d.xx := by linear_combination form 1 0 0
    have yy : s.yy = d.yy := by linear_combination form 0 1 0
    have zz : s.zz = d.zz := by linear_combination form 0 0 1
    have xy : s.xy = 0.5 * (d.xy + d.yx) := by linear_combination (form 1 1 0 - xx - yy) / 2
    have xz : s.xz = 0.5 * (d.xz + d.zx) := by linear_combination (form 1 0 1 - xx - zz) / 2
    have yz : s.yz = 0.5 * (d.yz + d.zy) := by linear_combination (form 0 1 1 - yy - zz) / 2
    calc s = ⟨s.xx, s.xy, s.xz, s.yy, s.yz, s.zz⟩ := rfl
      _ = d.symmetricPart := by rw [xx, xy, xz, yy, yz, zz, Dyad.symmetricPart]
  · rintro rfl
    exact ⟨d.trace_symmetricPart, d.dot_symmetricPart_apply⟩

namespace Family.Unit

variable {α : Type} [Field α] [HasPi α] {f : Family}

theorem pivot_sub_pivot (source target : f.Unit) (x y : α) :
    source.pivot target x - source.pivot target y = (x - y) * (source.slope / target.slope) := by
  rw [pivot, pivot, fromStandard_sub_fromStandard, toStandard_sub_toStandard, mul_div_assoc]

variable [CharZero α]

theorem pivot_mean (source target : f.Unit) (x y : α) :
    source.pivot target (0.5 * (x + y)) = 0.5 * (source.pivot target x + source.pivot target y) := by
  have left := source.pivot_sub_pivot target (0.5 * (x + y)) x
  have right := source.pivot_sub_pivot target (0.5 * (x + y)) y
  linear_combination (left + right) / 2

theorem convert_symmetricPart (source target : f.Unit) (d : Dyad α) :
    source.convert target (.symmetricDyad d.symmetricPart) =
      .symmetricDyad (source.convert target (.dyad d)).toDyad.symmetricPart := by
  rw [convert_eq_map, convert_eq_map]
  exact congrArg Container.symmetricDyad (Dyad.symmetricPart_map (source.pivot_mean target) d).symm

end Family.Unit

namespace Quantity

variable {α : Type} [Field α]

theorem combine?_traction (stress : Quantity (.symmetricDyad .stress) α) (n : Vector3 α) :
    (Value.ofQuantity stress).combine? .multiply ⟨.direction, .vector n⟩ =
      some (.ofQuantity (stress.traction n)) := by
  cases stress with | mk value => cases value with | symmetricDyad s => rfl

theorem valueIn_strainRate [CharZero α] [HasPi α] (gradient : Quantity (.dyad .velocityGradient) α)
    (u : Family.frequency.Unit) :
    gradient.strainRate.valueIn u = .symmetricDyad (gradient.valueIn u).toDyad.symmetricPart := by
  cases gradient with | mk value => cases value with | dyad d =>
    exact Family.Unit.convert_symmetricPart Family.frequency.standard u d

theorem dot_traction (stress : Quantity (.symmetricDyad .stress) α) (m n : Vector3 α) :
    n.dot (stress.traction m).components = m.dot (stress.traction n).components := by
  let d := Dyad.ofSymmetric stress.value.toSymmetricDyad
  calc n.dot (d.apply m) = (d.transpose.apply n).dot m := d.dot_apply n m
    _ = m.dot (d.apply n) := Vector3.dot_comm _ _

end Quantity

/-- A gradient is the sum of a symmetric part, with its trace and its quadratic form, and of a skew part, without
either. The symmetric part is linear and may be taken before or after a conversion, so strains and rates of strain
have the trace and the form of their gradients in every unit. Stresses are symmetric as forms. -/
theorem gradient_split {α : Type} [Field α] [CharZero α] [DecidableEq α] [HasPi α] :
    (∀ (d : Dyad α) (v : Vector3 α),
      Dyad.ofSymmetric d.symmetricPart + d.skewPart = d ∧
      d.transpose.symmetricPart = d.symmetricPart ∧
      d.symmetricPart.SharesForm d ∧
      v.dot (d.skewPart.apply v) = 0 ∧
      d.skewPart.transpose = -d.skewPart ∧
      (d.isSymmetric = true ↔ d = .ofSymmetric d.symmetricPart)) ∧
    (∀ s : SymmetricDyad α, (Dyad.ofSymmetric s).symmetricPart = s) ∧
    (∀ (d e : Dyad α) (c : α),
      (d + e).symmetricPart = d.symmetricPart + e.symmetricPart ∧
      (d.scale c).symmetricPart = d.symmetricPart.scale c) ∧
    (∀ (f : Family) (source target : f.Unit) (d : Dyad α),
      source.convert target (.symmetricDyad d.symmetricPart) =
        .symmetricDyad (source.convert target (.dyad d)).toDyad.symmetricPart) ∧
    (∀ (gradient : Quantity (.dyad .velocityGradient) α) (u : Family.frequency.Unit),
      (gradient.strainRate.valueIn u).toSymmetricDyad.SharesForm (gradient.valueIn u).toDyad ∧
      gradient.strainRate.symmetricTrace.valueIn u = gradient.trace.valueIn u) ∧
    (∀ gradient : Dimensionless .dyad α,
      gradient.strain.value.toSymmetricDyad.SharesForm gradient.value.toDyad) ∧
    (∀ (stress : Quantity (.symmetricDyad .stress) α) (m n : Vector3 α),
      n.dot (stress.traction m).components = m.dot (stress.traction n).components) := by
  refine ⟨?_, Dyad.symmetricPart_ofSymmetric, ?_, ?_, ?_, ?_, Quantity.dot_traction⟩
  · intro d v
    exact ⟨d.symmetricPart_add_skewPart, d.symmetricPart_transpose, (SymmetricDyad.sharesForm_iff _ d).mpr rfl,
      d.dot_skewPart_apply v, d.transpose_skewPart, d.isSymmetric_iff_eq_symmetricPart⟩
  · intro d e c
    exact ⟨d.symmetricPart_add e, d.symmetricPart_scale c⟩
  · intro f source target d
    exact source.convert_symmetricPart target d
  · intro gradient u
    rw [Quantity.valueIn_strainRate]
    exact ⟨(SymmetricDyad.sharesForm_iff _ _).mpr rfl, rfl⟩
  · intro gradient
    exact (SymmetricDyad.sharesForm_iff _ _).mpr rfl

theorem gradient_split_flow :
    CharZero ℚ ∧
    ∃ (gradient : Quantity (.dyad .velocityGradient) ℚ) (perMinute : Family.frequency.Unit),
      gradient.value.toDyad = ⟨1, 4, 0, 2, 3, 0, 0, 0, -4⟩ ∧
      (gradient.strainRate.valueIn perMinute).toSymmetricDyad = ⟨60, 180, 0, 180, 0, -240⟩ ∧
      (⟨60, 180, 0, 180, 0, -240⟩ : SymmetricDyad ℚ).SharesForm ⟨60, 240, 0, 120, 180, 0, 0, 0, -240⟩ := by
  let gradient : Quantity (.dyad .velocityGradient) ℚ := ⟨.dyad ⟨1, 4, 0, 2, 3, 0, 0, 0, -4⟩⟩
  let perMinute : Family.frequency.Unit := ⟨⟨5, by decide⟩⟩
  have rate : (gradient.strainRate.valueIn perMinute).toSymmetricDyad = ⟨60, 180, 0, 180, 0, -240⟩ := by
    decide +kernel
  have numbers : (gradient.valueIn perMinute).toDyad = ⟨60, 240, 0, 120, 180, 0, 0, 0, -240⟩ := by
    decide +kernel
  obtain ⟨-, -, -, -, rates, -, -⟩ := gradient_split (α := ℚ)
  have shared := (rates gradient perMinute).1
  rw [rate, numbers] at shared
  exact ⟨inferInstance, gradient, perMinute, rfl, rate, shared⟩

end Metrology

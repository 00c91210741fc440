import Mathlib
import Metrology.Container.Dyad
import Metrology.Proofs.Binary64.Laws

namespace Metrology.SymmetricDyad

open Dyad (ofSymmetric)

variable {α : Type} {same : α → α → Prop}

theorem minors_ofSymmetric [Sub α] [Mul α] (mul_comm : ∀ a b : α, a * b = b * a) (s : SymmetricDyad α) :
    (ofSymmetric s).minors =
      ⟨s.yy * s.zz - s.yz * s.yz, s.xy * s.zz - s.yz * s.xz, s.xy * s.yz - s.yy * s.xz⟩ := by
  simp only [Dyad.minors, ofSymmetric, yx, zx, zy, mul_comm s.xz]

theorem determinant_ofSymmetric [Add α] [Sub α] [Mul α] (mul_comm : ∀ a b : α, a * b = b * a)
    (s : SymmetricDyad α) : (ofSymmetric s).determinant = s.determinant := by
  rw [Dyad.determinant, minors_ofSymmetric mul_comm]
  rfl

/-- Eight of the nine cofactors are the same products in another order. The remaining one is the difference
turned around. -/
theorem adjugate_ofSymmetric [Sub α] [Mul α] [Neg α] (mul_comm : ∀ a b : α, a * b = b * a)
    (refl : ∀ a, same a a) (neg_sub : ∀ a b, same (b - a) (-(a - b))) (s : SymmetricDyad α) :
    List.Forall₂ same (ofSymmetric s.adjugate).toList (ofSymmetric s).adjugate.toList := by
  simp only [Dyad.toList, Dyad.adjugate, minors_ofSymmetric mul_comm]
  simp only [ofSymmetric, adjugate, yx, zx, zy, List.forall₂_cons, List.forall₂_nil_left_iff, and_true]
  have xy : same (s.xz * s.yz - s.xy * s.zz) (s.xz * s.yz - s.zz * s.xy) := by
    rw [mul_comm s.zz]
    exact refl _
  have xz : same (s.xy * s.yz - s.xz * s.yy) (s.xy * s.yz - s.yy * s.xz) := by
    rw [mul_comm s.yy]
    exact refl _
  have yx : same (s.xz * s.yz - s.xy * s.zz) (-(s.xy * s.zz - s.yz * s.xz)) := by
    rw [mul_comm s.xz s.yz]
    exact neg_sub _ _
  have yz : same (s.xy * s.xz - s.xx * s.yz) (s.xz * s.xy - s.yz * s.xx) := by
    rw [mul_comm s.xz, mul_comm s.yz]
    exact refl _
  have zy : same (s.xy * s.xz - s.xx * s.yz) (s.xy * s.xz - s.yz * s.xx) := by
    rw [mul_comm s.yz]
    exact refl _
  exact ⟨refl _, xy, xz, yx, refl _, yz, xz, zy, refl _⟩

theorem shrink_ofSymmetric [Div α] (div_congr : ∀ a b c, same a b → same (a / c) (b / c))
    {s : SymmetricDyad α} {d : Dyad α} (agree : List.Forall₂ same (ofSymmetric s).toList d.toList)
    (divisor : α) :
    List.Forall₂ same (ofSymmetric (s.shrink divisor)).toList (d.shrink divisor).toList := by
  change List.Forall₂ same ((ofSymmetric s).toList.map (· / divisor)) (d.toList.map (· / divisor))
  rw [List.forall₂_map_left_iff, List.forall₂_map_right_iff]
  exact agree.imp fun a b equal => div_congr a b divisor equal

variable [Add α] [Sub α] [Mul α] [Div α] [Neg α] [OfScientific α] [BEq α]

structure AgreesWithGeneral (same : α → α → Prop) (s : SymmetricDyad α) (v : Vector3 α) : Prop where
  determinant : s.determinant = (ofSymmetric s).determinant
  trace : s.trace = (ofSymmetric s).trace
  apply : s.apply v = (ofSymmetric s).apply v
  singular : s.inverse? = none ↔ (ofSymmetric s).inverse? = none
  inverse : ∀ t d, s.inverse? = some t → (ofSymmetric s).inverse? = some d →
    List.Forall₂ same (ofSymmetric t).toList d.toList

theorem agreesWithGeneral (mul_comm : ∀ a b : α, a * b = b * a) (refl : ∀ a, same a a)
    (neg_sub : ∀ a b, same (b - a) (-(a - b))) (div_congr : ∀ a b c, same a b → same (a / c) (b / c))
    (s : SymmetricDyad α) (v : Vector3 α) : AgreesWithGeneral same s v where
  determinant := (determinant_ofSymmetric mul_comm s).symm
  trace := rfl
  apply := rfl
  singular := by
    rw [inverse?, Dyad.inverse?, determinant_ofSymmetric mul_comm]
    simp only [ite_eq_left_iff, reduceCtorEq, imp_false]
  inverse t d found general := by
    rw [inverse?, Option.ite_none_left_eq_some] at found
    rw [Dyad.inverse?, Option.ite_none_left_eq_some, determinant_ofSymmetric mul_comm] at general
    rw [← Option.some.inj found.2, ← Option.some.inj general.2]
    exact shrink_ofSymmetric div_congr (adjugate_ofSymmetric mul_comm refl neg_sub s) s.determinant

/-- The formulas of symmetric tensors and those of general tensors agree wherever factors commute and a
difference turned around is the opposite; of sums nothing is needed. Doubles have the second law up to the
sign of a zero, and so are the inverses of doubles the same up to that. -/
theorem symmetric_agrees_with_general :
    (∀ {α : Type} [Add α] [Sub α] [Mul α] [Div α] [Neg α] [OfScientific α] [BEq α],
      (∀ a b : α, a * b = b * a) → (∀ a b : α, -(a - b) = b - a) →
        ∀ (s : SymmetricDyad α) (v : Vector3 α), AgreesWithGeneral Eq s v) ∧
    ∀ (s : SymmetricDyad Float) (v : Vector3 Float), AgreesWithGeneral Binary64.EqualUpToZeroSign s v := by
  constructor
  · intro α _ _ _ _ _ _ _ mul_comm neg_sub s v
    have div_congr (a b c : α) (equal : a = b) : a / c = b / c := by rw [equal]
    exact agreesWithGeneral mul_comm Eq.refl (fun a b => (neg_sub a b).symm) div_congr s v
  · intro s v
    exact agreesWithGeneral Binary64.mul_comm_float .refl Binary64.sub_equal_neg_sub
      (fun _ _ divisor equal => equal.div divisor) s v

theorem symmetric_agrees_with_general_rational :
    (∀ a b : ℚ, a * b = b * a) ∧ (∀ a b : ℚ, -(a - b) = b - a) ∧
      (⟨4, 1, 1 / 2, 3, -1, 2⟩ : SymmetricDyad ℚ).inverse?.isSome ∧
      AgreesWithGeneral Eq (⟨4, 1, 1 / 2, 3, -1, 2⟩ : SymmetricDyad ℚ) ⟨1, 0, 0⟩ :=
  ⟨mul_comm, neg_sub, by decide +kernel, symmetric_agrees_with_general.1 mul_comm neg_sub _ _⟩

end Metrology.SymmetricDyad

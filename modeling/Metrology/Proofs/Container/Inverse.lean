import Mathlib
import Metrology.Proofs.Container.Matrix
import Metrology.Proofs.Container.Symmetric

namespace Metrology

variable {α : Type}

namespace SymmetricDyad

open Dyad (ofSymmetric)

theorem ofSymmetric_injective : Function.Injective (ofSymmetric (α := α)) := by
  intro s t same
  cases s
  cases t
  simp only [ofSymmetric, Dyad.mk.injEq] at same
  simp [same]

theorem ofSymmetric_adjugate [Field α] (s : SymmetricDyad α) :
    ofSymmetric s.adjugate = (ofSymmetric s).adjugate := by
  have entries : List.Forall₂ Eq (ofSymmetric s.adjugate).toList (ofSymmetric s).adjugate.toList :=
    adjugate_ofSymmetric mul_comm Eq.refl (fun a b => (neg_sub a b).symm) s
  rw [List.forall₂_eq_eq_eq] at entries
  exact Option.some.inj (congrArg Dyad.ofList? entries)

end SymmetricDyad

/-- The cofactors over the determinant are the inverse of the matrix. -/
theorem Dyad.toMatrix_mul_adjugate_shrink [Field α] {d : Dyad α} (regular : d.determinant ≠ 0) :
    d.toMatrix * (d.adjugate.shrink d.determinant).toMatrix = 1 := by
  rw [toMatrix_shrink, ← adjugate_toMatrix, Matrix.mul_smul, Matrix.mul_adjugate, det_toMatrix, smul_smul,
    inv_mul_cancel₀ regular, one_smul]

variable [Field α] [DecidableEq α]

namespace Dyad

theorem inverse?_eq_none_iff (d : Dyad α) : d.inverse? = none ↔ d.determinant = 0 := by
  rw [inverse?, Container.zero_literal]
  by_cases zero : d.determinant = 0
  · simp [zero]
  · simp [zero]

theorem inverse?_eq_some_iff (d e : Dyad α) : d.inverse? = some e ↔ d.toMatrix * e.toMatrix = 1 := by
  have found (regular : d.determinant ≠ 0) : d.inverse? = some (d.adjugate.shrink d.determinant) := by
    rw [inverse?, Container.zero_literal, beq_false_of_ne regular]
    rfl
  constructor
  · intro inverse
    have regular : d.determinant ≠ 0 := by
      rw [ne_eq, ← inverse?_eq_none_iff, inverse]
      exact Option.some_ne_none e
    rw [← Option.some.inj ((found regular).symm.trans inverse)]
    exact toMatrix_mul_adjugate_shrink regular
  · intro product
    have regular : d.determinant ≠ 0 := by
      rw [← det_toMatrix]
      exact Matrix.det_ne_zero_of_right_inverse product
    have same := left_inv_eq_right_inv (mul_eq_one_comm.mp product) (toMatrix_mul_adjugate_shrink regular)
    rw [found regular, toMatrix_injective same]

theorem inverse?_eq_some_iff_compose (d e : Dyad α) : d.inverse? = some e ↔ d.compose e = identity := by
  rw [inverse?_eq_some_iff, ← toMatrix_compose, ← toMatrix_identity, toMatrix_injective.eq_iff]

theorem inverse?_comm (d e : Dyad α) : d.inverse? = some e ↔ e.inverse? = some d := by
  rw [inverse?_eq_some_iff, inverse?_eq_some_iff, mul_eq_one_comm]

theorem inverse?_compose {d e d' e' : Dyad α} (first : d.inverse? = some d') (second : e.inverse? = some e') :
    (d.compose e).inverse? = some (e'.compose d') := by
  rw [inverse?_eq_some_iff] at first second ⊢
  rw [toMatrix_compose, toMatrix_compose]
  calc d.toMatrix * e.toMatrix * (e'.toMatrix * d'.toMatrix)
      = d.toMatrix * (e.toMatrix * e'.toMatrix) * d'.toMatrix := by simp only [mul_assoc]
    _ = 1 := by rw [second, mul_one, first]

theorem inverse?_transpose (d : Dyad α) : d.transpose.inverse? = d.inverse?.map transpose := by
  cases inverse : d.inverse? with
  | none =>
    rw [inverse?_eq_none_iff, ← det_toMatrix] at inverse
    rw [Option.map_none, inverse?_eq_none_iff, ← det_toMatrix, toMatrix_transpose, Matrix.det_transpose,
      inverse]
  | some e =>
    rw [inverse?_eq_some_iff] at inverse
    rw [Option.map_some, inverse?_eq_some_iff, toMatrix_transpose, toMatrix_transpose, ← Matrix.transpose_mul,
      mul_eq_one_comm.mp inverse, Matrix.transpose_one]

end Dyad

structure InversionLaws {T : Type} (inverse? : T → Option T) (determinant : T → α) (product : T → T → Dyad α)
    (transpose : T → T) : Prop where
  singular : ∀ d, inverse? d = none ↔ determinant d = 0
  unsolvable : ∀ d, determinant d = 0 ↔ ¬∃ e, product d e = .identity
  inverse : ∀ d e, inverse? d = some e →
    product d e = .identity ∧ product e d = .identity ∧ inverse? e = some d
  determinant_product : ∀ d e, (product d e).determinant = determinant d * determinant e
  inverse_product : ∀ d e d' e', inverse? d = some d' → inverse? e = some e' →
    (product d e).inverse? = some (product e' d')
  transposed : ∀ d, inverse? (transpose d) = (inverse? d).map transpose

/-- Tensors that are stored in another way have the laws if all they compute is what the general tensors that
they stand for compute. -/
theorem inversionLaws_of_embedding {T : Type} {inverse? : T → Option T} {determinant : T → α}
    {product : T → T → Dyad α} {transpose : T → T} {embed : T → Dyad α} (injective : Function.Injective embed)
    (inverse_embed : ∀ d, (embed d).inverse? = (inverse? d).map embed)
    (determinant_embed : ∀ d, (embed d).determinant = determinant d)
    (product_embed : ∀ d e, product d e = (embed d).compose (embed e))
    (transpose_embed : ∀ d, embed (transpose d) = (embed d).transpose) :
    InversionLaws inverse? determinant product transpose := by
  have found (d e : T) : inverse? d = some e ↔ (embed d).inverse? = some (embed e) := by
    rw [inverse_embed, ← Option.map_some, (Option.map_injective injective).eq_iff]
  have solves (d e : T) : inverse? d = some e ↔ product d e = .identity := by
    rw [found, Dyad.inverse?_eq_some_iff_compose, product_embed]
  have exchanged (d e : T) : inverse? d = some e ↔ inverse? e = some d := by
    rw [found, found, Dyad.inverse?_comm]
  have singular (d : T) : inverse? d = none ↔ determinant d = 0 := by
    rw [← determinant_embed, ← Dyad.inverse?_eq_none_iff, inverse_embed, Option.map_eq_none_iff]
  refine ⟨singular, fun d => ?_, fun d e inverse => ?_, fun d e => ?_, fun d e d' e' first second => ?_,
    fun d => ?_⟩
  · simp only [← singular, ← solves, ← Option.isSome_iff_exists, Option.not_isSome_iff_eq_none]
  · have other := (exchanged d e).mp inverse
    exact ⟨(solves d e).mp inverse, (solves e d).mp other, other⟩
  · rw [product_embed, Dyad.determinant_compose, determinant_embed, determinant_embed]
  · rw [product_embed, product_embed]
    exact Dyad.inverse?_compose ((found d d').mp first) ((found e e').mp second)
  · apply Option.map_injective injective
    rw [← inverse_embed, transpose_embed, Dyad.inverse?_transpose, inverse_embed, Option.map_map,
      Option.map_map]
    exact congrArg (fun f => (inverse? d).map f) (funext fun e => (transpose_embed e).symm)

theorem SymmetricDyad.inverse?_ofSymmetric (s : SymmetricDyad α) :
    (Dyad.ofSymmetric s).inverse? = s.inverse?.map .ofSymmetric := by
  rw [Dyad.inverse?, inverse?, determinant_ofSymmetric mul_comm, ← ofSymmetric_adjugate]
  split <;> rfl

/-- General and symmetric tensors are inverted correctly, and whenever they can be. -/
theorem tensors_inverted_exactly :
    InversionLaws (α := α) Dyad.inverse? Dyad.determinant Dyad.compose Dyad.transpose ∧
      InversionLaws (α := α) SymmetricDyad.inverse? SymmetricDyad.determinant SymmetricDyad.compose
        SymmetricDyad.transpose := by
  constructor
  · exact inversionLaws_of_embedding Function.injective_id (fun _ => Option.map_id'.symm) (fun _ => rfl)
      (fun _ _ => rfl) (fun _ => rfl)
  · exact inversionLaws_of_embedding SymmetricDyad.ofSymmetric_injective SymmetricDyad.inverse?_ofSymmetric
      (SymmetricDyad.determinant_ofSymmetric mul_comm) (fun _ _ => rfl) (fun _ => rfl)

example : (⟨2, 1, 0, 0, 3, -1, 4, 0, 1⟩ : Dyad ℚ).inverse? =
    some ⟨3 / 2, -1 / 2, -1 / 2, -2, 1, 1, -6, 2, 3⟩ := by
  decide +kernel

end Metrology

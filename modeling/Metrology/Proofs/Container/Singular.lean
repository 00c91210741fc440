import Mathlib
import Metrology.Proofs.Container.Determinant

namespace Metrology

open Binary64 (HasValue IsNearestTo EqualUpToZeroSign)

/-- How an inverse tells a singular tensor of doubles from others, `v` being the numbers that it holds. The rounded
determinant decides. Where no operation rounds, the inverse is missing exactly for singular tensors, and otherwise
its components are the doubles nearest to those of the exact inverse. Where no operation overflows, the rounded
determinant is near the exact one. The inverse is then there if the exact one is beyond the bound of the rounding,
and it is never zero. -/
structure FindsSingular (v : Dyad ℚ) (determinant : Float) (inverse : Option (Dyad Float)) : Prop where
  decided : inverse = none ↔ (determinant == 0.0) = true
  exact : v.IsWhole → (inverse = none ↔ v.determinant = 0) ∧
    ∀ i, inverse = some i → ∃ w, v.inverse? = some w ∧ i.Rel IsNearestTo w
  rounded : v.IsBounded → (∃ w, HasValue determinant w ∧ |w - v.determinant| ≤ v.roundingBound) ∧
    (v.roundingBound < |v.determinant| → inverse ≠ none) ∧
    ∀ i, inverse = some i → ¬i.Rel HasValue .zero

theorem Dyad.findsSingular {d : Dyad Float} {v : Dyad ℚ} (values : d.Rel HasValue v) :
    FindsSingular v d.determinant d.inverse? where
  decided := inverse?_eq_none_iff_beq
  exact := inverse?_of_isWhole values
  rounded bounded := by
    obtain ⟨-, w, held, error⟩ := isWithin_determinant values bounded
    refine ⟨⟨w, held, error⟩, fun beyond singular => ?_, fun i => inverse?_ne_zero values bounded⟩
    rw [(inverse?_eq_none_iff_value held).mp singular, zero_sub, abs_neg] at error
    exact error.not_gt beyond

theorem FindsSingular.of_equal {v : Dyad ℚ} {determinant : Float} {inverse inverse' : Option (Dyad Float)}
    (found : FindsSingular v determinant inverse) (singular : inverse' = none ↔ inverse = none)
    (equal : ∀ i, inverse' = some i → ∃ j, inverse = some j ∧ i.Rel EqualUpToZeroSign j) :
    FindsSingular v determinant inverse' where
  decided := singular.trans found.decided
  exact whole := by
    obtain ⟨decided, nearest⟩ := found.exact whole
    refine ⟨singular.trans decided, fun i is_inverse => ?_⟩
    obtain ⟨j, other, same⟩ := equal i is_inverse
    obtain ⟨w, exact, near⟩ := nearest j other
    exact ⟨w, exact, same.trans near fun _ _ _ equal near => equal.isNearestTo near⟩
  rounded bounded := by
    obtain ⟨near, present, nonzero⟩ := found.rounded bounded
    refine ⟨near, fun beyond => singular.not.mpr (present beyond), fun i is_inverse zero => ?_⟩
    obtain ⟨j, other, same⟩ := equal i is_inverse
    exact nonzero j other (same.flip.trans zero fun _ _ _ equal held => equal.hasValue held)

namespace SymmetricDyad

theorem agreesWithGeneral_float (s : SymmetricDyad Float) : AgreesWithGeneral EqualUpToZeroSign s .zero :=
  agreesWithGeneral Binary64.mul_comm_float .refl Binary64.sub_equal_neg_sub
    (fun _ _ divisor equal => EqualUpToZeroSign.div equal divisor) s .zero

theorem findsSingular {s : SymmetricDyad Float} {v : Dyad ℚ} (values : (Dyad.ofSymmetric s).Rel HasValue v) :
    FindsSingular v s.determinant (s.inverse?.map .ofSymmetric) := by
  have agree := agreesWithGeneral_float s
  rw [agree.determinant]
  refine (Dyad.findsSingular values).of_equal (Option.map_eq_none_iff.trans agree.singular) fun i found => ?_
  obtain ⟨t, inverse, rfl⟩ := Option.map_eq_some_iff.mp found
  cases general : (Dyad.ofSymmetric s).inverse? with
  | none =>
    rw [agree.singular.mpr general] at inverse
    cases inverse
  | some j => exact ⟨j, rfl, Dyad.rel_iff_forall₂.mpr (agree.inverse t j inverse general)⟩

end SymmetricDyad

/-- General and symmetric tensors of finite doubles are found singular where nothing is rounded, and otherwise as
well as the rounded determinant can tell. -/
theorem inverse_finds_singular {d : Dyad Float} {s : SymmetricDyad Float} {v u : Dyad ℚ}
    (general : d.Rel HasValue v) (symmetric : (Dyad.ofSymmetric s).Rel HasValue u) :
    FindsSingular v d.determinant d.inverse? ∧
      FindsSingular u s.determinant (s.inverse?.map .ofSymmetric) :=
  ⟨Dyad.findsSingular general, SymmetricDyad.findsSingular symmetric⟩

theorem inverse_finds_singular_halves :
    Dyad.Rel HasValue ⟨2.0, 1.0, 0.0, 0.0, 3.0, -1.0, 4.0, 0.0, 1.0⟩ ⟨2, 1, 0, 0, 3, -1, 4, 0, 1⟩ ∧
    Dyad.Rel HasValue (.ofSymmetric ⟨1.0, 2.0, 3.0, 4.0, 6.0, 9.0⟩) (.ofSymmetric ⟨1, 2, 3, 4, 6, 9⟩) ∧
    (∃ i, Dyad.inverse? (⟨2.0, 1.0, 0.0, 0.0, 3.0, -1.0, 4.0, 0.0, 1.0⟩ : Dyad Float) = some i ∧
      i.Rel IsNearestTo ⟨3 / 2, -1 / 2, -1 / 2, -2, 1, 1, -6, 2, 3⟩ ∧ ¬i.Rel HasValue .zero) ∧
    SymmetricDyad.inverse? (⟨1.0, 2.0, 3.0, 4.0, 6.0, 9.0⟩ : SymmetricDyad Float) = none := by
  have values :
      Dyad.Rel HasValue ⟨2.0, 1.0, 0.0, 0.0, 3.0, -1.0, 4.0, 0.0, 1.0⟩ ⟨2, 1, 0, 0, 3, -1, 4, 0, 1⟩ := by
    decide +kernel
  have values' :
      Dyad.Rel HasValue (.ofSymmetric ⟨1.0, 2.0, 3.0, 4.0, 6.0, 9.0⟩) (.ofSymmetric ⟨1, 2, 3, 4, 6, 9⟩) := by
    decide +kernel
  have whole : Dyad.IsWhole ⟨2, 1, 0, 0, 3, -1, 4, 0, 1⟩ :=
    Dyad.isWhole_cast (n := ⟨2, 1, 0, 0, 3, -1, 4, 0, 1⟩) (by decide)
  have whole' : Dyad.IsWhole (.ofSymmetric ⟨1, 2, 3, 4, 6, 9⟩) :=
    Dyad.isWhole_cast (n := .ofSymmetric ⟨1, 2, 3, 4, 6, 9⟩) (by decide)
  obtain ⟨found, found'⟩ := inverse_finds_singular values values'
  refine ⟨values, values', ?_, Option.map_eq_none_iff.mp ((found'.exact whole').1.mpr (by decide +kernel))⟩
  have regular : Dyad.inverse? (⟨2.0, 1.0, 0.0, 0.0, 3.0, -1.0, 4.0, 0.0, 1.0⟩ : Dyad Float) ≠ none :=
    (found.exact whole).1.not.mpr (by decide +kernel)
  obtain ⟨i, inverse⟩ := Option.ne_none_iff_exists'.mp regular
  obtain ⟨w, exact, near⟩ := (found.exact whole).2 i inverse
  have same : Dyad.inverse? (⟨2, 1, 0, 0, 3, -1, 4, 0, 1⟩ : Dyad ℚ) =
      some ⟨3 / 2, -1 / 2, -1 / 2, -2, 1, 1, -6, 2, 3⟩ := by
    decide +kernel
  rw [same, Option.some.injEq] at exact
  exact ⟨i, inverse, exact ▸ near, (found.rounded whole.isBounded).2.2 i inverse⟩

def equalRows : Dyad Float := ⟨0.1, 0.2, 0.3, 0.1, 0.2, 0.3, 0.7, 0.8, 1.0⟩

/-- The last row is one and a half times the second, less the first. -/
def dependentRows : SymmetricDyad Float := ⟨0.2, 0.4, 0.4, 0.4, 0.2, -0.1⟩

def isotropic (x : Float) : SymmetricDyad Float := ⟨x, 0.0, 0.0, x, 0.0, x⟩

/-- The identity times `2 ^ -400`. -/
def tiny : SymmetricDyad Float := isotropic (Float.ofBits 0x26f0000000000000)

/-- The identity times `2 ^ 400`. -/
def huge : SymmetricDyad Float := isotropic (Float.ofBits 0x58f0000000000000)

/-- Rounding hides the dependence of rows from the inverse. A determinant that underflows makes a tensor with an
inverse appear as singular, and one that overflows makes its inverse zero. -/
theorem singularity_lost_in_rounding :
    (equalRows.Rel HasValue (equalRows.map Binary64.exact) ∧
      (equalRows.map Binary64.exact).determinant = 0 ∧ equalRows.inverse? ≠ none) ∧
    ((Dyad.ofSymmetric dependentRows).Rel HasValue ((Dyad.ofSymmetric dependentRows).map Binary64.exact) ∧
      ((Dyad.ofSymmetric dependentRows).map Binary64.exact).determinant = 0 ∧ dependentRows.inverse? ≠ none) ∧
    ((Dyad.ofSymmetric tiny).Rel HasValue ((Dyad.ofSymmetric tiny).map Binary64.exact) ∧
      ((Dyad.ofSymmetric tiny).map Binary64.exact).inverse? =
        some ((Dyad.ofSymmetric huge).map Binary64.exact) ∧
      tiny.inverse? = none ∧ (Dyad.ofSymmetric tiny).inverse? = none) ∧
    ((Dyad.ofSymmetric huge).Rel HasValue ((Dyad.ofSymmetric huge).map Binary64.exact) ∧
      ((Dyad.ofSymmetric huge).map Binary64.exact).inverse? =
        some ((Dyad.ofSymmetric tiny).map Binary64.exact) ∧
      (huge.inverse?.map fun i => decide ((Dyad.ofSymmetric i).Rel HasValue .zero)) = some true ∧
      ((Dyad.ofSymmetric huge).inverse?.map fun i => decide (i.Rel HasValue .zero)) = some true) := by
  decide +kernel

end Metrology

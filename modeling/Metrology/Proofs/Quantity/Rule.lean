import Metrology.Proofs.Quantity.Combination
import Metrology.Proofs.System.Scale
import Metrology.Quantity.Rule

/-!
What every rule between two types of value keeps: it does what its operator says to the components, and the
dimension of its result is the one that the operator gives for the dimensions of the operands.
-/

namespace Metrology

deriving instance DecidableEq for Combination

deriving instance DecidableEq for Rule

namespace ValueType

def isMechanical (t : ValueType) : Bool := t.family?.all Family.isMechanical

theorem dimensions_isSmall (t : ValueType) : t.dimensions.IsSmall := by
  cases t with
  | plain s => exact DimensionSet.isSmall_dimensionless
  | measured k => exact k.family.dimensions_isSmall
  | pure k => exact DimensionSet.isSmall_dimensionless

end ValueType

namespace Rule

structure IsCoherent (op : Operator) {a b : ValueType} (rule : Rule a b) : Prop where
  operator : rule.combination.operator = op
  balanced : op.isAdditive = true → a.dimensions = b.dimensions
  dimensions : op.dimensions a.dimensions b.dimensions = rule.result.dimensions
  mechanical : a.isMechanical = true → b.isMechanical = true → rule.result.isMechanical = true

instance (op : Operator) {a b : ValueType} (rule : Rule a b) : Decidable (rule.IsCoherent op) :=
  decidable_of_iff
    (rule.combination.operator = op ∧ (op.isAdditive = true → a.dimensions = b.dimensions) ∧
      op.dimensions a.dimensions b.dimensions = rule.result.dimensions ∧
      (a.isMechanical = true → b.isMechanical = true → rule.result.isMechanical = true))
    ⟨fun h => ⟨h.1, h.2.1, h.2.2.1, h.2.2.2⟩, fun h => ⟨h.1, h.2, h.3, h.4⟩⟩

variable {op : Operator} {a b : ValueType} {rule : Rule a b}

theorem linear?_isCoherent (found : linear? op a b = some rule) : rule.IsCoherent op := by
  unfold linear? at found
  split at found
  · next same =>
    subst same
    split at found
    · cases op with
      | add => cases found; exact ⟨rfl, fun _ => rfl, rfl, fun h _ => h⟩
      | subtract => cases found; exact ⟨rfl, fun _ => rfl, rfl, fun h _ => h⟩
      | multiply => cases found
      | divide => cases found
    · cases found
  · cases found

theorem scaling?_isCoherent (found : scaling? op a b = some rule) : rule.IsCoherent op := by
  unfold scaling? at found
  split at found
  · split at found
    · cases found
      exact ⟨rfl, nofun, DimensionSet.product_dimensionless _, fun h _ => h⟩
    · cases found
  · split at found
    · cases found
      exact ⟨rfl, nofun, DimensionSet.quotient_dimensionless _, fun h _ => h⟩
    · cases found
  · cases found

theorem multiple?_isCoherent (found : multiple? op a b = some rule) : rule.IsCoherent op := by
  unfold multiple? at found
  split at found
  · split at found
    · cases found
      exact ⟨rfl, nofun, DimensionSet.dimensionless_product _, fun _ h => h⟩
    · cases found
  · cases found

theorem ratio?_isCoherent (found : ratio? op a b = some rule) : rule.IsCoherent op := by
  unfold ratio? at found
  split at found
  · split at found
    · next same =>
      cases same
      cases found
      exact ⟨rfl, nofun, DimensionSet.quotient_self _, fun _ _ => rfl⟩
    · cases found
  · cases found

theorem absolute?_isCoherent (found : absolute? op a b = some rule) : rule.IsCoherent op := by
  unfold absolute? at found
  split at found <;> cases found <;> decide

theorem reciprocal?_isCoherent (found : reciprocal? op a b = some rule) : rule.IsCoherent op := by
  unfold reciprocal? at found
  split at found <;> cases found <;> decide

theorem tensor?_isCoherent (found : tensor? op a b = some rule) : rule.IsCoherent op := by
  unfold tensor? at found
  split at found <;> cases found <;> decide

theorem relations_isCoherent :
    ∀ r ∈ relations, (Rule.mk r.result r.combination).IsCoherent r.operator := by
  decide +kernel

theorem related?_isCoherent (found : related? op a b = some rule) : rule.IsCoherent op := by
  obtain ⟨r, member, found⟩ := List.exists_of_findSome?_eq_some found
  unfold ofRelation? at found
  split at found
  · next same =>
    obtain ⟨rfl, rfl, rfl⟩ := same
    cases found
    exact relations_isCoherent r member
  · cases found

/-- Where a rule that is found comes from. -/
theorem find?_cases (found : find? op a b = some rule) :
    linear? op a b = some rule ∨ scaling? op a b = some rule ∨ multiple? op a b = some rule ∨
      ratio? op a b = some rule ∨ absolute? op a b = some rule ∨ reciprocal? op a b = some rule ∨
      tensor? op a b = some rule ∨ related? op a b = some rule := by
  simp only [find?, Option.orElse_eq_orElse, Option.orElse_eq_or, Option.or_eq_some_iff] at found
  tauto

theorem find?_isCoherent (found : find? op a b = some rule) : rule.IsCoherent op := by
  rcases find?_cases found with h | h | h | h | h | h | h | h
  · exact linear?_isCoherent h
  · exact scaling?_isCoherent h
  · exact multiple?_isCoherent h
  · exact ratio?_isCoherent h
  · exact absolute?_isCoherent h
  · exact reciprocal?_isCoherent h
  · exact tensor?_isCoherent h
  · exact related?_isCoherent h

/-- No other rule is found in the place of a declared relation. -/
theorem find?_relation : ∀ r ∈ relations,
    find? r.operator r.lhs r.rhs = some ⟨r.result, r.combination⟩ := by
  decide +kernel

end Rule

end Metrology

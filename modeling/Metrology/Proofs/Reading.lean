import Metrology.Proofs.Conversion.Groupoid
import Metrology.Proofs.Spelling.Rows
import Metrology.Reading

namespace Metrology.Reading

section

variable {f : Family} {α : Type} [Add α] [Sub α] [Mul α] [Div α] [OfScientific α] [HasPi α]

theorem resolve_of_parse? {r : Reading f α} {u : f.Unit} (parsed : f.named.parse? r.unit = some u) :
    r.resolve = .ok (.ofUnit (.scalar r.value) u) := by
  rw [resolve, Named.read, parsed]
  rfl

theorem resolve_of_parse?_none {r : Reading f α} (unknown : f.named.parse? r.unit = none) :
    r.resolve = .error (.unknownUnit f r.unit) := by
  rw [resolve, Named.read, unknown]
  rfl

theorem resolve_ofMeasurement_eq (q : Measurement f .scalar α) (u : f.Unit) :
    (ofMeasurement q u).resolve = .ok (.ofUnit (q.valueIn u) u) := by
  have parsed : f.named.parse? (ofMeasurement q u).unit = some u := Family.parse?_abbreviation u
  rw [resolve_of_parse? parsed, ofMeasurement]
  obtain ⟨a⟩ := q.valueIn u
  rfl

theorem resolve_inStandard (over_one : ∀ x : α, x / Factor.eval 1 = x) (q : Measurement f .scalar α) :
    (inStandard q).resolve = .ok q := by
  have still : ∀ c : Container α .scalar, f.standard.convert f.standard c = c := by
    intro c
    rw [Family.Unit.convert, if_pos rfl]
    exact Container.map_eq_self (Family.fromStandard_standard over_one f) c
  rw [inStandard, resolve_ofMeasurement_eq, Measurement.ofUnit, Measurement.valueIn, still, still]

theorem resolve_eq_error_iff (r : Reading f α) (error : UnitError) :
    r.resolve = .error error ↔ f.named.parse? r.unit = none ∧ error = .unknownUnit f r.unit := by
  cases parsed : f.named.parse? r.unit with
  | none => simp [resolve_of_parse?_none parsed, eq_comm]
  | some u => simp [resolve_of_parse? parsed]

end

theorem resolve_ofMeasurement {f : Family} {α : Type} [Field α] [CharZero α] [HasPi α]
    (pi_ne_zero : (HasPi.pi : α) ≠ 0) (q : Measurement f .scalar α) (u : f.Unit) :
    (ofMeasurement q u).resolve = .ok q := by
  rw [resolve_ofMeasurement_eq, Measurement.ofUnit_valueIn pi_ne_zero]

/-- Every quantity comes back from the reading it is written as. A reading fails to resolve exactly where its
unit is unknown, and says so in the words it was given. -/
theorem resolution_faithful {f : Family} {α K : Type} [Add α] [Sub α] [Mul α] [Div α] [OfScientific α]
    [HasPi α] [Field K] [CharZero K] [HasPi K] :
    (∀ (q : Measurement f .scalar α) (u : f.Unit),
      f.named.parse? (ofMeasurement q u).unit = some u ∧
      ∃ resolved, (ofMeasurement q u).resolve = .ok resolved) ∧
    ((HasPi.pi : K) ≠ 0 → ∀ (q : Measurement f .scalar K) (u : f.Unit),
      (ofMeasurement q u).resolve = .ok q) ∧
    ((∀ x : α, x / Factor.eval 1 = x) → ∀ q : Measurement f .scalar α, (inStandard q).resolve = .ok q) ∧
    (∀ r : Reading f α,
      (r.resolve = .error (.unknownUnit f r.unit) ↔ f.named.parse? r.unit = none) ∧
      ∀ error, r.resolve = .error error → error = .unknownUnit f r.unit ∧
        error.message = "Unknown " ++ f.name ++ " unit: " ++ r.unit) ∧
    (∀ (r t : Reading f α) (u : f.Unit), r.value = t.value →
      f.named.parse? r.unit = some u → f.named.parse? t.unit = some u →
      ∃ q, r.resolve = .ok q ∧ t.resolve = .ok q) ∧
    (∀ r : Reading f α, r.toMeasurement = r.resolve) := by
  refine ⟨?_, ?_, ?_, ?_, ?_, fun r => rfl⟩
  · intro q u
    exact ⟨Family.parse?_abbreviation u, _, resolve_ofMeasurement_eq q u⟩
  · intro pi_ne_zero q u
    exact resolve_ofMeasurement pi_ne_zero q u
  · intro over_one q
    exact resolve_inStandard over_one q
  · intro r
    refine ⟨by simp [resolve_eq_error_iff], ?_⟩
    intro error failed
    obtain ⟨_, rfl⟩ := (resolve_eq_error_iff r error).mp failed
    exact ⟨rfl, rfl⟩
  · intro r t u same parsed parsed'
    refine ⟨_, resolve_of_parse? parsed, ?_⟩
    rw [resolve_of_parse? parsed', same]

theorem resolution_faithful_temperature :
    (HasPi.pi : ℚ) ≠ 0 ∧
    (ofMeasurement (f := .temperature) (.ofUnit (.scalar (20 : ℚ)) ⟨⟨1, by decide⟩⟩) ⟨⟨3, by decide⟩⟩).value =
      68 ∧
    (ofMeasurement (f := .temperature) (.ofUnit (.scalar (20 : ℚ)) ⟨⟨1, by decide⟩⟩) ⟨⟨3, by decide⟩⟩).resolve =
      .ok (.ofUnit (.scalar 20) ⟨⟨1, by decide⟩⟩) ∧
    (∀ x : ℚ, x / Factor.eval 1 = x) ∧
    (inStandard (f := .temperature) (.ofUnit (.scalar (20 : ℚ)) ⟨⟨1, by decide⟩⟩)).resolve =
      .ok (.ofUnit (.scalar 20) ⟨⟨1, by decide⟩⟩) := by
  have pi_ne_zero : (HasPi.pi : ℚ) ≠ 0 := rational_pi_pos.ne'
  have faithful := resolution_faithful (f := .temperature) (α := ℚ) (K := ℚ)
  refine ⟨pi_ne_zero, by decide +kernel, ?_, Factor.div_eval_one, ?_⟩
  · exact faithful.2.1 pi_ne_zero _ _
  · exact faithful.2.2.1 Factor.div_eval_one _

end Metrology.Reading

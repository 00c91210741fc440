import Metrology.Measurement.Basic
import Metrology.Proofs.Container
import Metrology.Proofs.Factor

namespace Metrology

/-- Only the entries from the starting place onwards change, and each becomes its own image. -/
theorem updateFrom_getElem? {α : Type} (image : α → α) (entries : Array α) (place index : Nat) :
    (updateFrom image entries place)[index]? =
      if index < place then entries[index]? else entries[index]?.map image := by
  fun_induction updateFrom image entries place with
  | case1 entries place inside ih =>
      rw [ih, Array.getElem?_set]
      by_cases here : place = index
      · subst index
        simp [inside]
      · have side : index < place + 1 ↔ index < place := by omega
        simp only [here, side, if_false]
  | case2 entries place outside =>
      split
      · rfl
      · have beyond : entries.size ≤ index := by omega
        simp [beyond]

theorem updateFrom_zero_toList {α : Type} (image : α → α) (entries : Array α) :
    (updateFrom image entries 0).toList = entries.toList.map image := by
  apply List.ext_getElem?
  intro index
  simp [updateFrom_getElem?]

namespace Family

theorem standard_conversion (f : Family) : f.standard.row.conversion = .scale 1 := by
  cases f <;> rfl

theorem Unit.eq_standard_iff {f : Family} (u : f.Unit) :
    u = f.standard ↔ u.place = f.standard.place := by
  cases u
  cases f.standard
  simp

end Family

section

variable {α : Type} [Add α] [Sub α] [Mul α] [Div α] [OfScientific α] [HasPi α]

variable {f : Family} {s : Shape}

theorem Family.toStandard_standard (times_one : ∀ x : α, x * Factor.eval 1 = x) (f : Family) (x : α) :
    f.standard.toStandard x = x := by
  rw [Unit.toStandard, standard_conversion]
  exact times_one x

theorem Family.fromStandard_standard (over_one : ∀ x : α, x / Factor.eval 1 = x) (f : Family) (x : α) :
    f.standard.fromStandard x = x := by
  rw [Unit.fromStandard, standard_conversion]
  exact over_one x

namespace Family.Unit

theorem convert_eq_map_convertNumber (source target : f.Unit) (c : Container α s) :
    source.convert target c = c.map (source.convertNumber target) := by
  -- Comparing units and comparing their places take the same branch.
  by_cases first : source = f.standard
  · have number : (source.convertNumber target : α → α) = target.fromStandard := by
      funext value
      simp [convertNumber, first]
    rw [number, convert, if_pos first]
  · have place : source.place ≠ f.standard.place := mt (eq_standard_iff source).mpr first
    by_cases second : target = f.standard
    · have number : (source.convertNumber target : α → α) = source.toStandard := by
        funext value
        rw [convertNumber, if_neg place, if_pos ((eq_standard_iff target).mp second)]
      rw [number, convert, if_neg first, if_pos second]
    · have number : (source.convertNumber target : α → α) =
          fun value => target.fromStandard (source.toStandard value) := by
        funext value
        rw [convertNumber, if_neg place, if_neg (mt (eq_standard_iff target).mpr second)]
      rw [number, convert, if_neg first, if_neg second]

theorem convertNumber_eq_pivot (times_one : ∀ x : α, x * Factor.eval 1 = x)
    (over_one : ∀ x : α, x / Factor.eval 1 = x) (source target : f.Unit) (x : α) :
    source.convertNumber target x = source.pivot target x := by
  simp only [convertNumber, ← eq_standard_iff, pivot]
  split
  · next first => rw [first, toStandard_standard times_one]
  · split
    · next second => rw [second, fromStandard_standard over_one]
    · rfl

theorem convert_eq_map_pivot (times_one : ∀ x : α, x * Factor.eval 1 = x)
    (over_one : ∀ x : α, x / Factor.eval 1 = x) (source target : f.Unit) (c : Container α s) :
    source.convert target c = c.map (source.pivot target) := by
  rw [convert_eq_map_convertNumber]
  exact Container.map_congr (convertNumber_eq_pivot times_one over_one source target) c

theorem convertInPlace_toList (source target : f.Unit) (c : Container α s) :
    (source.convertInPlace target c.entries).toList = (source.convert target c).toList := by
  unfold convertInPlace convert
  split
  · rw [updateFrom_zero_toList, Container.toList_map, Container.entries]
  · split <;> rw [updateFrom_zero_toList, Container.toList_map, Container.entries]

end Family.Unit

theorem Measurement.eachValueIn_eq_valueIn (q : Measurement f s α) (u : f.Unit) :
    q.eachValueIn u = q.valueIn u :=
  (Family.Unit.convert_eq_map_convertNumber f.standard u q.value).symm

theorem Measurement.staticValueIn_toList (q : Measurement f s α) (u : f.Unit) :
    (q.staticValueIn u).toList = (q.eachValueIn u).toList := by
  obtain ⟨c⟩ := q
  cases c with
  | scalar a => rfl
  | vector v => rfl
  | dyad d => exact updateFrom_zero_toList _ _
  | symmetricDyad t => exact updateFrom_zero_toList _ _

/-- Nothing but `x * 1 = x` and `x / 1 = x` is used: every conversion of every family gives, component by
component, what the way through the standard unit gives. -/
theorem conversion_paths_agree (times_one : ∀ x : α, x * Factor.eval 1 = x)
    (over_one : ∀ x : α, x / Factor.eval 1 = x) (source target : f.Unit) (c : Container α s) :
    source.convert target c = c.map (fun x => target.fromStandard (source.toStandard x)) ∧
    (source.convertInPlace target c.entries).toList =
      c.toList.map (fun x => target.fromStandard (source.toStandard x)) ∧
    c.map (source.convertNumber target) = c.map (fun x => target.fromStandard (source.toStandard x)) ∧
    (∀ index : Nat, (source.convert target c).toList[index]? =
      c.toList[index]?.map (fun x => target.fromStandard (source.toStandard x))) ∧
    (∀ (q : Measurement f s α) (u : f.Unit),
      q.eachValueIn u = q.valueIn u ∧ (q.staticValueIn u).toList = (q.valueIn u).toList) := by
  have whole : source.convert target c = c.map (source.pivot target) :=
    Family.Unit.convert_eq_map_pivot times_one over_one source target c
  have components : (source.convert target c).toList = c.toList.map (source.pivot target) := by
    rw [whole, Container.toList_map]
  refine ⟨whole, ?_, ?_, ?_, ?_⟩
  · rw [Family.Unit.convertInPlace_toList, components]
    rfl
  · exact (Family.Unit.convert_eq_map_convertNumber source target c).symm.trans whole
  · intro index
    rw [components, List.getElem?_map]
    rfl
  · intro q u
    have static := Measurement.eachValueIn_eq_valueIn q u
    exact ⟨static, by rw [Measurement.staticValueIn_toList, static]⟩

end

theorem conversion_paths_agree_length :
    (∀ x : ℚ, x * Factor.eval 1 = x) ∧ (∀ x : ℚ, x / Factor.eval 1 = x) ∧
    (Family.Unit.convert (f := .length) ⟨⟨10, by decide⟩⟩ ⟨⟨11, by decide⟩⟩
      (.vector ⟨1, -2, 5⟩ : Container ℚ .vector)).toList = [12, -24, 60] := by
  have times_one : ∀ x : ℚ, x * Factor.eval 1 = x := Factor.mul_eval_one
  have over_one : ∀ x : ℚ, x / Factor.eval 1 = x := Factor.div_eval_one
  refine ⟨times_one, over_one, ?_⟩
  rw [(conversion_paths_agree times_one over_one _ _ _).1]
  decide +kernel

end Metrology

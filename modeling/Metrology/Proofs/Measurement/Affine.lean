import Mathlib.Algebra.BigOperators.Group.List.Basic
import Metrology.Proofs.Measurement.Arithmetic
import Metrology.Quantity.Value

/-!
Absolute temperatures and positions are points, and their differences are steps between points. Read in any
unit they keep the laws of points and steps, although the two have units in different tables: the zero of a
scale cancels, and units of one name have one slope.
-/

namespace Metrology

namespace Container

variable {α : Type} [Field α] {s : Shape}

instance : Zero (Container α s) := ⟨zero s⟩

theorem zero_zipWith_add (a : Container α s) : (zero s).zipWith (· + ·) a = a :=
  replicate_zipWith (by simp [zero_literal]) a

instance : AddCommGroup (Container α s) where
  add_assoc := zipWith_assoc add_assoc
  zero_add := zero_zipWith_add
  add_zero a := (zipWith_comm add_comm a (zero s)).trans (zero_zipWith_add a)
  neg_add_cancel := map_zipWith_self (by simp [zero_literal])
  add_comm := zipWith_comm add_comm
  sub_eq_add_neg a b := by
    calc a - b = a.zipWith (fun x y => x + -y) b :=
          congrArg (fun k => a.zipWith k b) (funext fun x => funext (sub_eq_add_neg x))
      _ = (a.map id).zipWith (· + ·) (b.map (- ·)) := (zipWith_map_map (· + ·) id (- ·) a b).symm
      _ = a + -b := by
          rw [map_eq_self (g := id) fun _ => rfl]
          rfl
  nsmul := nsmulRec
  zsmul := zsmulRec

end Container

section

variable {α : Type} [Field α] [HasPi α] {f g : Family} {s : Shape}

/-- A difference of two measurements reads as the difference of their readings, in any unit of another family
that has the same slope. -/
theorem Measurement.valueIn_sub (linear : g.isLinear = true) {u : f.Unit} {w : g.Unit}
    (same : (w.slope : α) = u.slope) (a b : Measurement f s α) :
    (⟨a.value - b.value⟩ : Measurement g s α).valueIn w = a.valueIn u - b.valueIn u := by
  rw [valueIn_eq_shrink linear, valueIn_eq_map, valueIn_eq_map, same]
  calc (a.value - b.value).shrink u.slope
      = a.value.zipWith (fun x y => (x - y) / u.slope) b.value :=
        Container.map_zipWith_eq (· / u.slope) (· - ·) a.value b.value
    _ = a.value.zipWith (fun x y => u.fromStandard x - u.fromStandard y) b.value := by
        simp only [Family.Unit.fromStandard_sub_fromStandard]
    _ = a.value.map u.fromStandard - b.value.map u.fromStandard :=
        (Container.zipWith_map_map (· - ·) u.fromStandard u.fromStandard a.value b.value).symm

end

inductive AbsoluteKind where
  | temperature
  | position

namespace AbsoluteKind

def kind : AbsoluteKind → Kind
  | temperature => .scalar .temperature
  | position => .vector .position

def shape : AbsoluteKind → Shape
  | temperature => .scalar
  | position => .vector

def family : AbsoluteKind → Family
  | temperature => .temperature
  | position => .length

def steps : AbsoluteKind → Family
  | temperature => .temperatureDifference
  | position => .length

def stepUnit : (k : AbsoluteKind) → k.family.Unit → k.steps.Unit
  | temperature, u => ⟨u.place⟩
  | position, u => u

variable {α : Type}

def point : (k : AbsoluteKind) → Measurement k.family k.shape α → Value α
  | temperature, q => .ofQuantity (k := .scalar .temperature) q
  | position, q => .ofQuantity (k := .vector .position) q

def step : (k : AbsoluteKind) → Measurement k.steps k.shape α → Value α
  | temperature, d => .ofQuantity (k := .scalar .temperatureDifference) d
  | position, d => .ofQuantity (k := .vector .displacement) d

theorem isLinear_steps (k : AbsoluteKind) : k.steps.isLinear = true := by
  cases k <;> rfl

theorem name_eq_iff (k : AbsoluteKind) (u : k.family.Unit) (v : k.steps.Unit) :
    v.name = u.name ↔ v = k.stepUnit u := by
  have positions : ∀ u v : Fin Family.length.table.units.length,
      (⟨v⟩ : Family.length.Unit).name = (⟨u⟩ : Family.length.Unit).name ↔ v = u := by
    decide
  have temperatures : ∀ u v : Fin Family.temperature.table.units.length,
      (⟨v⟩ : Family.temperatureDifference.Unit).name = (⟨u⟩ : Family.temperature.Unit).name ↔ v = u := by
    decide
  obtain ⟨place⟩ := u
  obtain ⟨other⟩ := v
  rw [Family.Unit.mk.injEq]
  cases k with
  | temperature => exact temperatures place other
  | position => exact positions place other

/-- Moving the zero of a scale does not change its slope. -/
theorem slope_stepUnit [Field α] [HasPi α] (k : AbsoluteKind) (u : k.family.Unit) :
    ((k.stepUnit u).slope : α) = u.slope := by
  cases k with
  | position => rfl
  | temperature =>
      match u with
      | ⟨⟨0, _⟩⟩ => rfl
      | ⟨⟨1, _⟩⟩ =>
          change Step.slopeAll [.mul 1] = Step.slopeAll [.add 273.15]
          simp [Step.slopeAll, Step.slope, Factor.eval_one]
      | ⟨⟨2, _⟩⟩ => rfl
      | ⟨⟨3, _⟩⟩ =>
          change Step.slopeAll [.mul Factor.rankine] = Step.slopeAll [.add 459.67, .mul Factor.rankine]
          simp [Step.slopeAll, Step.slope]

section

variable [Add α] [Sub α] [Mul α] [Div α] (k : AbsoluteKind) (a b : Measurement k.family k.shape α)
  (d : Measurement k.steps k.shape α)

theorem combine?_subtract_point :
    (k.point a).combine? .subtract (k.point b) = some (k.step ⟨a.value - b.value⟩) := by
  cases k <;> rfl

theorem combine?_add_step : (k.point a).combine? .add (k.step d) = some (k.point ⟨a.value + d.value⟩) := by
  cases k <;> rfl

theorem combine?_add_point : (k.step d).combine? .add (k.point a) = some (k.point ⟨d.value + a.value⟩) := by
  cases k <;> rfl

theorem combine?_subtract_step :
    (k.point a).combine? .subtract (k.step d) = some (k.point ⟨a.value - d.value⟩) := by
  cases k <;> rfl

theorem assign?_add_step : (k.point a).assign? .add (k.step d) = some (k.point ⟨a.value + d.value⟩) := by
  cases k <;> rfl

theorem assign?_subtract_step :
    (k.point a).assign? .subtract (k.step d) = some (k.point ⟨a.value - d.value⟩) := by
  cases k <;> rfl

end

/-- A change in place by a step, forwards or backwards, that is given in some unit. -/
inductive Move (k : AbsoluteKind) (α : Type) where
  | forward (amount : Amount k.steps k.shape α)
  | backward (amount : Amount k.steps k.shape α)

section

variable [Add α] [Sub α] [Mul α] [Div α] [Neg α] [OfScientific α] [HasPi α] {k : AbsoluteKind}

def Move.perform? (v : Value α) : Move k α → Option (Value α)
  | forward amount => v.assign? .add (k.step amount.toMeasurement)
  | backward amount => v.assign? .subtract (k.step amount.toMeasurement)

def Move.reading (w : k.steps.Unit) : Move k α → Container α k.shape
  | forward amount => amount.toMeasurement.valueIn w
  | backward amount => -amount.toMeasurement.valueIn w

def walk? (v : Value α) (moves : List (Move k α)) : Option (Value α) := moves.foldlM Move.perform? v

end

variable [Field α] [HasPi α] (k : AbsoluteKind) (u : k.family.Unit)

theorem valueIn_subtract_point (a b : Measurement k.family k.shape α) :
    (⟨a.value - b.value⟩ : Measurement k.steps k.shape α).valueIn (k.stepUnit u) =
      a.valueIn u - b.valueIn u :=
  Measurement.valueIn_sub k.isLinear_steps (k.slope_stepUnit u) a b

theorem valueIn_add_step (a : Measurement k.family k.shape α) (d : Measurement k.steps k.shape α) :
    (⟨a.value + d.value⟩ : Measurement k.family k.shape α).valueIn u =
      a.valueIn u + d.valueIn (k.stepUnit u) := by
  have way := k.valueIn_subtract_point u ⟨a.value + d.value⟩ a
  rw [add_sub_cancel_left] at way
  exact (eq_add_of_sub_eq' way.symm)

theorem valueIn_subtract_step (a : Measurement k.family k.shape α) (d : Measurement k.steps k.shape α) :
    (⟨a.value - d.value⟩ : Measurement k.family k.shape α).valueIn u =
      a.valueIn u - d.valueIn (k.stepUnit u) := by
  have back := k.valueIn_add_step u ⟨a.value - d.value⟩ d
  rw [sub_add_cancel] at back
  exact (eq_sub_of_add_eq back.symm)

theorem Move.perform?_valueIn (a : Measurement k.family k.shape α) (move : Move k α) :
    ∃ moved, move.perform? (k.point a) = some (k.point moved) ∧
      moved.valueIn u = a.valueIn u + move.reading (k.stepUnit u) := by
  cases move with
  | forward amount => exact ⟨_, k.assign?_add_step a _, k.valueIn_add_step u a _⟩
  | backward amount =>
      refine ⟨_, k.assign?_subtract_step a _, ?_⟩
      rw [valueIn_subtract_step, sub_eq_add_neg, reading]

theorem walk?_valueIn (a : Measurement k.family k.shape α) (moves : List (Move k α)) :
    ∃ last, walk? (k.point a) moves = some (k.point last) ∧
      last.valueIn u = a.valueIn u + (moves.map (Move.reading (k.stepUnit u))).sum := by
  induction moves generalizing a with
  | nil => exact ⟨a, rfl, (add_zero _).symm⟩
  | cons move moves ih =>
      obtain ⟨moved, performed, reading⟩ := move.perform?_valueIn k u a
      obtain ⟨last, walked, final⟩ := ih moved
      refine ⟨last, ?_, ?_⟩
      · rw [walk?, List.foldlM_cons, performed]
        exact walked
      · rw [final, reading, List.map_cons, List.sum_cons, add_assoc]

end AbsoluteKind

/-- In any unit, points and steps read as their own laws say: what lies between two points, where a step leads
from a point, on either side of the sign and backwards, and where a walk of many steps ends. -/
theorem absolute_affine {α : Type} [Field α] [HasPi α] (k : AbsoluteKind) (u : k.family.Unit) :
    (∀ w : k.steps.Unit, w.name = u.name ↔ w = k.stepUnit u) ∧
    (∀ a b : Measurement k.family k.shape α, ∃ d : Measurement k.steps k.shape α,
      (k.point a).combine? .subtract (k.point b) = some (k.step d) ∧
      d.valueIn (k.stepUnit u) = a.valueIn u - b.valueIn u ∧
      (k.point b).combine? .add (k.step d) = some (k.point a)) ∧
    (∀ (a : Measurement k.family k.shape α) (d : Measurement k.steps k.shape α),
      ∃ sum : Measurement k.family k.shape α,
        (k.point a).combine? .add (k.step d) = some (k.point sum) ∧
        (k.step d).combine? .add (k.point a) = some (k.point sum) ∧
        sum.valueIn u = a.valueIn u + d.valueIn (k.stepUnit u) ∧
        (k.point sum).combine? .subtract (k.point a) = some (k.step d)) ∧
    (∀ (a : Measurement k.family k.shape α) (d : Measurement k.steps k.shape α),
      ∃ rest : Measurement k.family k.shape α,
        (k.point a).combine? .subtract (k.step d) = some (k.point rest) ∧
        rest.valueIn u = a.valueIn u - d.valueIn (k.stepUnit u)) ∧
    (∀ (a : Measurement k.family k.shape α) (moves : List (k.Move α)),
      ∃ last : Measurement k.family k.shape α,
        AbsoluteKind.walk? (k.point a) moves = some (k.point last) ∧
        last.valueIn u = a.valueIn u + (moves.map (AbsoluteKind.Move.reading (k.stepUnit u))).sum) := by
  refine ⟨k.name_eq_iff u, ?_, ?_, ?_, k.walk?_valueIn u⟩
  · intro a b
    refine ⟨_, k.combine?_subtract_point a b, k.valueIn_subtract_point u a b, ?_⟩
    rw [k.combine?_add_step, add_sub_cancel]
  · intro a d
    refine ⟨_, k.combine?_add_step a d, ?_, k.valueIn_add_step u a d, ?_⟩
    · rw [k.combine?_add_point, add_comm]
    · rw [k.combine?_subtract_point, add_sub_cancel_left]
  · intro a d
    exact ⟨_, k.combine?_subtract_step a d, k.valueIn_subtract_step u a d⟩

end Metrology

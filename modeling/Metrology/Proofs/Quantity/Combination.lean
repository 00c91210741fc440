import Mathlib.Algebra.Field.Basic
import Mathlib.Tactic.Ring
import Metrology.Proofs.Container
import Metrology.Quantity.Relation

namespace Metrology

def Operator.isAdditive : Operator → Bool
  | add => true
  | subtract => true
  | multiply => false
  | divide => false

def Operator.factor {α : Type} [Mul α] [Div α] (op : Operator) (p q : α) : α :=
  match op with
  | add => p
  | subtract => p
  | multiply => p * q
  | divide => p / q

def Combination.operator {s t u : Shape} : Combination s t u → Operator
  | sum => .add
  | difference => .subtract
  | scaled => .multiply
  | shrunk => .divide
  | multiple => .multiply
  | dyadOnVector => .multiply
  | symmetricOnVector => .multiply
  | dyadProduct => .multiply
  | symmetricProduct => .multiply

structure Numbers (α : Type) where
  shape : Shape
  container : Container α shape

namespace Numbers

variable {α : Type} [Add α] [Sub α] [Mul α] [Div α] [Neg α]

def neg (a : Numbers α) : Numbers α := ⟨a.shape, -a.container⟩

/-- Plain arithmetic: sums and differences of equal shapes, multiples, and products of tensors. -/
def combine? : Operator → Numbers α → Numbers α → Option (Numbers α)
  | .add, ⟨s, a⟩, ⟨t, b⟩ => if same : t = s then some ⟨s, a + same ▸ b⟩ else none
  | .subtract, ⟨s, a⟩, ⟨t, b⟩ => if same : t = s then some ⟨s, a - same ▸ b⟩ else none
  | .multiply, ⟨s, a⟩, ⟨.scalar, .scalar b⟩ => some ⟨s, a.scale b⟩
  | .multiply, ⟨.scalar, .scalar a⟩, ⟨t, b⟩ => some ⟨t, b.scale a⟩
  | .multiply, ⟨.dyad, .dyad d⟩, ⟨.vector, .vector v⟩ => some ⟨.vector, .vector (d.apply v)⟩
  | .multiply, ⟨.dyad, .dyad d⟩, ⟨.dyad, .dyad e⟩ => some ⟨.dyad, .dyad (d.compose e)⟩
  | .multiply, ⟨.symmetricDyad, .symmetricDyad d⟩, ⟨.vector, .vector v⟩ =>
    some ⟨.vector, .vector (d.apply v)⟩
  | .multiply, ⟨.symmetricDyad, .symmetricDyad d⟩, ⟨.symmetricDyad, .symmetricDyad e⟩ =>
    some ⟨.dyad, .dyad (d.compose e)⟩
  | .multiply, _, _ => none
  | .divide, ⟨s, a⟩, ⟨.scalar, .scalar b⟩ => some ⟨s, a.shrink b⟩
  | .divide, _, _ => none

end Numbers

section

variable {α : Type} [Field α] {s t u : Shape}

theorem Container.scale_one (c : Container α s) : c.scale 1 = c :=
  map_eq_self mul_one c

theorem Container.neg_scale (c : Container α s) (p : α) : -(c.scale p) = (-c).scale p := by
  have entry : ∀ a : α, -(a * p) = -a * p := fun a => (neg_mul a p).symm
  change (c.map _).map _ = (c.map _).map _
  rw [map_map, map_map]
  exact map_congr entry c

theorem Dyad.apply_scale (d : Dyad α) (v : Vector3 α) (p q : α) :
    (d.map (· * p)).apply (v.map (· * q)) = (d.apply v).map (· * (p * q)) := by
  simp only [Dyad.apply, Dyad.rows, Dyad.map, Vector3.map, Vector3.dot, Vector3.mk.injEq]
  refine ⟨?_, ?_, ?_⟩ <;> ring

theorem Dyad.compose_scale (d e : Dyad α) (p q : α) :
    (d.map (· * p)).compose (e.map (· * q)) = (d.compose e).map (· * (p * q)) := by
  simp only [Dyad.compose, Dyad.rows, Dyad.columns, Dyad.ofRows, Dyad.map, Vector3.map, Vector3.dot,
    Dyad.mk.injEq]
  refine ⟨?_, ?_, ?_, ?_, ?_, ?_, ?_, ?_, ?_⟩ <;> ring

theorem SymmetricDyad.apply_scale (d : SymmetricDyad α) (v : Vector3 α) (p q : α) :
    (d.map (· * p)).apply (v.map (· * q)) = (d.apply v).map (· * (p * q)) :=
  Dyad.apply_scale (.ofSymmetric d) v p q

theorem SymmetricDyad.compose_scale (d e : SymmetricDyad α) (p q : α) :
    (d.map (· * p)).compose (e.map (· * q)) = (d.compose e).map (· * (p * q)) :=
  Dyad.compose_scale (.ofSymmetric d) (.ofSymmetric e) p q

namespace Combination

theorem combine?_operator (combination : Combination s t u) (x : Container α s) (y : Container α t) :
    Numbers.combine? combination.operator ⟨s, x⟩ ⟨t, y⟩ = some ⟨u, combination.run x y⟩ := by
  cases combination with
  | sum => simp [operator, Numbers.combine?, run]
  | difference => simp [operator, Numbers.combine?, run]
  | scaled => cases y; rfl
  | shrunk => cases y; rfl
  | multiple =>
      cases x with
      | scalar a =>
          cases y with
          | scalar b =>
              change some (Numbers.mk _ (Container.scalar (a * b))) = some ⟨_, .scalar (b * a)⟩
              rw [mul_comm]
          | vector v => rfl
          | dyad d => rfl
          | symmetricDyad d => rfl
  | dyadOnVector => cases x; cases y; rfl
  | symmetricOnVector => cases x; cases y; rfl
  | dyadProduct => cases x; cases y; rfl
  | symmetricProduct => cases x; cases y; rfl

theorem run_scale (combination : Combination s t u) {p q : α}
    (balanced : combination.operator.isAdditive = true → p = q) (x : Container α s) (y : Container α t) :
    combination.run (x.scale p) (y.scale q) =
      (combination.run x y).scale (combination.operator.factor p q) := by
  cases combination with
  | sum =>
      cases balanced rfl
      exact (Container.map_zipWith (fun a b => add_mul a b p) x y).symm
  | difference =>
      cases balanced rfl
      exact (Container.map_zipWith (fun a b => sub_mul a b p) x y).symm
  | scaled =>
      cases y with
      | scalar b =>
          have entry : ∀ a : α, a * p * (b * q) = a * b * (p * q) := fun a => by ring
          change (x.scale p).scale (b * q) = (x.scale b).scale (p * q)
          simp only [Container.scale, Container.map_map]
          exact Container.map_congr entry x
  | shrunk =>
      cases y with
      | scalar b =>
          have entry : ∀ a : α, a * p / (b * q) = a / b * (p / q) := fun a => mul_div_mul_comm a p b q
          change (x.scale p).shrink (b * q) = (x.shrink b).scale (p / q)
          simp only [Container.scale, Container.shrink, Container.map_map]
          exact Container.map_congr entry x
  | multiple =>
      cases x with
      | scalar a =>
          have entry : ∀ b : α, b * q * (a * p) = b * a * (p * q) := fun b => by ring
          change (y.scale q).scale (a * p) = (y.scale a).scale (p * q)
          simp only [Container.scale, Container.map_map]
          exact Container.map_congr entry y
  | dyadOnVector =>
      cases x with | dyad d => cases y with | vector v =>
        exact congrArg Container.vector (d.apply_scale v p q)
  | symmetricOnVector =>
      cases x with | symmetricDyad d => cases y with | vector v =>
        exact congrArg Container.vector (d.apply_scale v p q)
  | dyadProduct =>
      cases x with | dyad d => cases y with | dyad e =>
        exact congrArg Container.dyad (d.compose_scale e p q)
  | symmetricProduct =>
      cases x with | symmetricDyad d => cases y with | symmetricDyad e =>
        exact congrArg Container.dyad (d.compose_scale e p q)

end Combination

end

end Metrology

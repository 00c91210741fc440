import Metrology.Quantity.Rule

namespace Metrology

structure Value (α : Type) where
  type : ValueType
  container : Container α type.shape

namespace Value

variable {α : Type}

def ofNumber (a : α) : Value α := ⟨.number, .scalar a⟩

def ofVector (v : Vector3 α) : Value α := ⟨.plain .vector, .vector v⟩

def ofDyad (d : Dyad α) : Value α := ⟨.plain .dyad, .dyad d⟩

def ofSymmetricDyad (d : SymmetricDyad α) : Value α := ⟨.plain .symmetricDyad, .symmetricDyad d⟩

def ofQuantity {k : Kind} (q : Quantity k α) : Value α := ⟨.measured k, q.value⟩

variable [Add α] [Sub α] [Mul α] [Div α] [Neg α]

def ofDirection [OfScientific α] [HasSqrt α] [BEq α] (v : Vector3 α) : Value α :=
  ⟨.direction, .vector v.normalized⟩

/-- A value without a unit. Directions are brought to length one. -/
def make [OfScientific α] [HasSqrt α] [BEq α] (t : ValueType) (c : Container α t.shape) : Value α :=
  match t, c with
  | .pure .direction, c => ofDirection c.toVector
  | t, c => ⟨t, c⟩

def measure [OfScientific α] [HasPi α] (k : Kind) (c : Container α k.shape) (u : k.family.Unit) : Value α :=
  ofQuantity (k := k) (.ofUnit c u)

def zero [OfScientific α] (t : ValueType) : Value α := ⟨t, .zero t.shape⟩

def neg? (a : Value α) : Option (Value α) :=
  if a.type.isNegatable then some ⟨a.type, -a.container⟩ else none

def combine? (op : Operator) (a b : Value α) : Option (Value α) :=
  (Rule.find? op a.type b.type).map fun rule => ⟨rule.result, rule.combination.run a.container b.container⟩

def assign? (op : Operator) (a b : Value α) : Option (Value α) :=
  (Rule.assign? op a.type b.type).map fun combination =>
    ⟨a.type, combination.run a.container b.container⟩

end Value

end Metrology

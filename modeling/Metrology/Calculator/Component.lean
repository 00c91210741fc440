import Metrology.Quantity.Physics

namespace Metrology

inductive Component where
  | along (axis : Axis)
  | entry (row column : Axis)
  | magnitude
  | magnitudeSquared
  | trace
  | determinant
  | vonMises
  deriving Repr, DecidableEq

variable {α : Type} [Add α] [Sub α] [Mul α] [Div α] [Neg α] [OfScientific α] [HasSqrt α]

def Vector3.component? (v : Vector3 α) : Component → Option α
  | .along axis => some (v.along axis)
  | .magnitude => some v.magnitude
  | .magnitudeSquared => some v.magnitudeSquared
  | _ => none

def Dyad.component? (d : Dyad α) : Component → Option α
  | .entry row column => some (d.entry row column)
  | .trace => some d.trace
  | .determinant => some d.determinant
  | _ => none

def SymmetricDyad.component? (s : SymmetricDyad α) : Component → Option α
  | .entry row column => some (s.entry row column)
  | .trace => some s.trace
  | .determinant => some s.determinant
  | .vonMises => some s.vonMises
  | _ => none

namespace Component

def isLinearInVector : Component → Bool
  | along _ => true
  | magnitude => true
  | _ => false

def isLinearInTensor : Component → Bool
  | entry _ _ => true
  | trace => true
  | _ => false

def isAlongAxis : Component → Bool
  | along _ => true
  | _ => false

end Component

namespace Value

def ofScalar (k : ScalarKind) (a : α) : Value α := ofQuantity (.ofNumber (k := k) a)

def component? (v : Value α) (c : Component) : Option (Value α) :=
  match v with
  | ⟨.plain .vector, .vector w⟩ => (w.component? c).map ofNumber
  | ⟨.plain .dyad, .dyad d⟩ => (d.component? c).map ofNumber
  | ⟨.plain .symmetricDyad, .symmetricDyad s⟩ => (s.component? c).map ofNumber
  | ⟨.pure .direction, .vector w⟩ => if c.isAlongAxis then (w.component? c).map ofNumber else none
  | ⟨.measured (.vector k), .vector w⟩ =>
    if c.isLinearInVector then (w.component? c).map (ofScalar k.component) else none
  | ⟨.measured (.dyad k), .dyad d⟩ =>
    if c.isLinearInTensor then (d.component? c).map (ofScalar k.component) else none
  | ⟨.measured (.symmetricDyad k), .symmetricDyad s⟩ =>
    if c.isLinearInTensor then (s.component? c).map (ofScalar k.component) else none
  | _ => none

end Value

end Metrology

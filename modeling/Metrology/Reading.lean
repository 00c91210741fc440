import Metrology.Measurement.Basic
import Metrology.Unit.Spelling

/-!
A number with its unit spelled out, as quantities stand in configuration files. The unit stays a text
until it is resolved against the spellings of its family.
-/

namespace Metrology

structure Reading (f : Family) (α : Type) where
  value : α
  unit : String

namespace Reading

variable {f : Family} {α : Type} [Add α] [Sub α] [Mul α] [Div α] [OfScientific α] [HasPi α]

def ofMeasurement (q : Measurement f .scalar α) (u : f.Unit) : Reading f α :=
  ⟨(q.valueIn u).toNumber, u.abbreviation⟩

def inStandard (q : Measurement f .scalar α) : Reading f α := ofMeasurement q f.standard

def resolve (r : Reading f α) : Except UnitError (Measurement f .scalar α) :=
  (f.named.read r.unit).map fun u => .ofUnit (.scalar r.value) u

def toMeasurement (r : Reading f α) : Except UnitError (Measurement f .scalar α) := r.resolve

def events (r : Reading f α) : List (Event α) :=
  match f.named.read r.unit with
  | .ok _ => []
  | .error e => f.named.events r.unit ++ [.unresolvable r.value r.unit e]

omit [Add α] [Sub α] [Mul α] [Div α] [OfScientific α] [HasPi α]

def sameResolution [BEq α] : (a b : Except UnitError (Measurement f .scalar α)) → Bool
  | .ok a, .ok b => a.agrees b
  | .error a, .error b => a == b
  | _, _ => false

end Reading

end Metrology

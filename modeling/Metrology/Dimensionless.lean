import Metrology.Container.Basic
import Metrology.Container.Text
import Metrology.Measurement.Operation

namespace Metrology

structure Dimensionless (s : Shape) (α : Type) where
  value : Container α s

namespace Dimensionless

variable {s : Shape} {α : Type}

def dimensions : DimensionSet := .dimensionless

def agrees [BEq α] (a b : Dimensionless s α) : Bool := a.value.agrees b.value

def order? [BEq α] [LT α] [DecidableLT α] (a b : Dimensionless s α) : Option Ordering :=
  a.value.order? b.value

def hashValue (q : Dimensionless s Float) : UInt64 := q.value.hashValue

def formats (q : Dimensionless s Float) (precision? : Option Precision) : Formats :=
  q.value.formats (precision?.getD .double)

def strain [Add α] [Mul α] [OfScientific α] (gradient : Dimensionless .dyad α) :
    Dimensionless .symmetricDyad α :=
  ⟨.symmetricDyad gradient.value.toDyad.symmetricPart⟩

variable [Add α] [Sub α] [Mul α] [Div α] [Neg α] [OfScientific α]

def calculate (q : Dimensionless s α) (a : Arithmetic (Container α s) α) : Dimensionless s α :=
  ⟨a.run q.value⟩

def replace (q : Dimensionless s α) (r : Replacement α s) : Dimensionless s α := ⟨r.run q.value⟩

end Dimensionless

end Metrology

import Metrology.Container.Text
import Metrology.Unit.Convert

/-!
Values of a shape measured in a family of units.

The value is held in the standard unit of the family; the unit it was given in is not remembered.
Equality, order and hash are those of the stored value.
-/

namespace Metrology

structure Measurement (f : Family) (s : Shape) (α : Type) where
  value : Container α s

namespace Measurement

variable {f : Family} {s : Shape} {α : Type}

def agrees [BEq α] (a b : Measurement f s α) : Bool := a.value.agrees b.value

def order? [BEq α] [LT α] [DecidableLT α] (a b : Measurement f s α) : Option Ordering :=
  a.value.order? b.value

def hashValue (q : Measurement f s Float) : UInt64 := q.value.hashValue

section

variable [Add α] [Sub α] [Mul α] [Div α] [OfScientific α] [HasPi α]

def ofUnit (c : Container α s) (u : f.Unit) : Measurement f s α := ⟨u.convert f.standard c⟩

def valueIn (q : Measurement f s α) (u : f.Unit) : Container α s := f.standard.convert u q.value

def eachValueIn (q : Measurement f s α) (u : f.Unit) : Container α s :=
  q.value.map (f.standard.convertNumber u)

/-- The value read in a unit, with the components of a vector written out one by one and those of a
tensor changed in a loop. -/
def staticValueIn (q : Measurement f s α) (u : f.Unit) : Array α :=
  match q.value with
  | .scalar a => #[f.standard.convertNumber u a]
  | .vector v =>
    #[f.standard.convertNumber u v.x, f.standard.convertNumber u v.y, f.standard.convertNumber u v.z]
  | .dyad d => updateFrom (f.standard.convertNumber u) d.toList.toArray 0
  | .symmetricDyad t => updateFrom (f.standard.convertNumber u) t.toList.toArray 0

end

section

variable [Add α] [Sub α] [Mul α] [Div α] [Neg α] [OfScientific α]

def zero : Measurement f s α := ⟨.zero s⟩

def ratio (a b : Measurement f .scalar α) : α := a.value.toNumber / b.value.toNumber

def ofNumber (a : α) : Measurement f .scalar α := ⟨.scalar a⟩

def x (q : Measurement f .vector α) : Measurement f .scalar α := ofNumber q.value.toVector.x

def y (q : Measurement f .vector α) : Measurement f .scalar α := ofNumber q.value.toVector.y

def z (q : Measurement f .vector α) : Measurement f .scalar α := ofNumber q.value.toVector.z

def magnitude [HasSqrt α] (q : Measurement f .vector α) : Measurement f .scalar α :=
  ofNumber q.value.toVector.magnitude

def ofMagnitude (magnitude : Measurement f .scalar α) (direction : Vector3 α) :
    Measurement f .vector α :=
  ⟨.vector (direction.scale magnitude.value.toNumber)⟩

def transpose (q : Measurement f .dyad α) : Measurement f .dyad α := ⟨.dyad q.value.toDyad.transpose⟩

def trace (q : Measurement f .dyad α) : Measurement f .scalar α := ofNumber q.value.toDyad.trace

def symmetricTrace (q : Measurement f .symmetricDyad α) : Measurement f .scalar α :=
  ofNumber q.value.toSymmetricDyad.trace

def vonMises [HasSqrt α] (q : Measurement f .symmetricDyad α) : Measurement f .scalar α :=
  ofNumber q.value.toSymmetricDyad.vonMises

end

def print (q : Measurement f s Float) (u : f.Unit) (p : Precision) : List Char :=
  (q.valueIn u).print p ++ ' ' :: u.abbreviation.toList

def json (q : Measurement f s Float) (u : f.Unit) (p : Precision) : List Char :=
  Text.braced [
    Text.labelled (Text.quoted "value".toList) ((q.valueIn u).json p),
    Text.labelled (Text.quoted "unit".toList) (Text.quoted u.abbreviation.toList)]

def xml (q : Measurement f s Float) (u : f.Unit) (p : Precision) : List Char :=
  Text.element "value".toList ((q.valueIn u).xml p) ++ Text.element "unit".toList u.abbreviation.toList

def yaml (q : Measurement f s Float) (u : f.Unit) (p : Precision) : List Char :=
  Text.braced [
    Text.labelled "value".toList ((q.valueIn u).yaml p),
    Text.labelled "unit".toList (Text.quoted u.abbreviation.toList)]

def display (q : Measurement f s Float) : List Char := q.print f.standard .double

/-- The texts in a unit and a precision, the standard unit and double precision where they are not
given. A precision counts only together with a unit. -/
def formats (q : Measurement f s Float) (unit? : Option f.Unit) (precision? : Option Precision) : Formats :=
  let u := unit?.getD f.standard
  let p := if unit?.isSome then precision?.getD .double else .double
  { print := .ofList (q.print u p)
    json := .ofList (q.json u p)
    xml := .ofList (q.xml u p)
    yaml := .ofList (q.yaml u p)
    display := .ofList q.display }

end Measurement

end Metrology

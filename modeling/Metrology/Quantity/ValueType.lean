import Metrology.Quantity.Kind

namespace Metrology

inductive ValueType where
  | plain (shape : Shape)
  | measured (kind : Kind)
  | pure (kind : PureKind)
  deriving Repr, DecidableEq

namespace ValueType

def all : List ValueType :=
  [plain .scalar, plain .vector, plain .dyad, plain .symmetricDyad] ++ Kind.all.map measured ++
    PureKind.all.map pure

def name : ValueType → String
  | plain .scalar => "number"
  | plain .vector => "Vector"
  | plain .dyad => "Dyad"
  | plain .symmetricDyad => "SymmetricDyad"
  | measured k => k.name
  | pure k => k.name

def ofName? (name : String) : Option ValueType := all.find? fun t => t.name == name

def shape : ValueType → Shape
  | plain s => s
  | measured k => k.shape
  | pure k => k.shape

def family? : ValueType → Option Family
  | measured k => some k.family
  | _ => none

def dimensions : ValueType → DimensionSet
  | measured k => k.dimensions
  | _ => .dimensionless

def number : ValueType := plain .scalar

def direction : ValueType := pure .direction

def temperature : ValueType := measured (.scalar .temperature)

def temperatureDifference : ValueType := measured (.scalar .temperatureDifference)

def position : ValueType := measured (.vector .position)

def displacement : ValueType := measured (.vector .displacement)

/-- Types whose values can be added to each other and scaled by numbers. Numbers themselves are what
others are scaled by and are left to the number type. -/
def isLinear : ValueType → Bool
  | plain .scalar => false
  | plain _ => true
  | measured k => !k.isAbsolute
  | pure .direction => false
  | pure _ => true

def isNegatable (t : ValueType) : Bool := t.isLinear || t == direction

end ValueType

end Metrology

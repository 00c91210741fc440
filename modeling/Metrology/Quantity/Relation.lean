import Metrology.Quantity.ValueType

/-!
Products and quotients between kinds of quantity.

Each product is declared once; it stands for the operators that multiply in both orders and those that
divide a factor out again. `relations` lists the operators that all declarations stand for.
-/

namespace Metrology

inductive Combination : Shape → Shape → Shape → Type where
  | sum {s : Shape} : Combination s s s
  | difference {s : Shape} : Combination s s s
  | scaled {s : Shape} : Combination s .scalar s
  | shrunk {s : Shape} : Combination s .scalar s
  | multiple {s : Shape} : Combination .scalar s s
  | dyadOnVector : Combination .dyad .vector .vector
  | symmetricOnVector : Combination .symmetricDyad .vector .vector
  | dyadProduct : Combination .dyad .dyad .dyad
  | symmetricProduct : Combination .symmetricDyad .symmetricDyad .dyad

namespace Combination

def into {s t u v : Shape} (combination : Combination s t u) : u = v → Combination s t v
  | rfl => combination

variable {α : Type} [Add α] [Sub α] [Mul α] [Div α]

def run {s t u : Shape} : Combination s t u → Container α s → Container α t → Container α u
  | sum, a, b => a + b
  | difference, a, b => a - b
  | scaled, a, .scalar b => a.scale b
  | shrunk, a, .scalar b => a.shrink b
  | multiple, .scalar a, b => b.scale a
  | dyadOnVector, .dyad d, .vector v => .vector (d.apply v)
  | symmetricOnVector, .symmetricDyad d, .vector v => .vector (d.apply v)
  | dyadProduct, .dyad d, .dyad e => .dyad (d.compose e)
  | symmetricProduct, .symmetricDyad d, .symmetricDyad e => .dyad (d.compose e)

end Combination

inductive Operator where
  | add
  | subtract
  | multiply
  | divide
  deriving Repr, DecidableEq

namespace Operator

def symbol : Operator → String
  | add => "+"
  | subtract => "-"
  | multiply => "*"
  | divide => "/"

def name : Operator → String
  | add => "Add"
  | subtract => "Subtract"
  | multiply => "Multiply"
  | divide => "Divide"

def all : List Operator := [add, subtract, multiply, divide]

def ofSymbol? (symbol : String) : Option Operator := all.find? fun op => op.symbol == symbol

def ofName? (name : String) : Option Operator := all.find? fun op => op.name == name

def dimensions (op : Operator) (lhs rhs : DimensionSet) : DimensionSet :=
  match op with
  | add => lhs
  | subtract => lhs
  | multiply => lhs.product rhs
  | divide => lhs.quotient rhs

end Operator

structure Relation where
  result : ValueType
  lhs : ValueType
  operator : Operator
  rhs : ValueType
  combination : Combination lhs.shape rhs.shape result.shape

namespace Relation

def isCoherent (r : Relation) : Bool :=
  r.operator.dimensions r.lhs.dimensions r.rhs.dimensions == r.result.dimensions

def text (r : Relation) : String :=
  r.result.name ++ " = " ++ r.lhs.name ++ " " ++ r.operator.symbol ++ " " ++ r.rhs.name

def scalarType (k : ScalarKind) : ValueType := .measured (.scalar k)

def vectorType (k : VectorKind) : ValueType := .measured (.vector k)

def scalar (c a b : ScalarKind) : List Relation := [
  ⟨scalarType c, scalarType a, .multiply, scalarType b, .scaled⟩,
  ⟨scalarType c, scalarType b, .multiply, scalarType a, .scaled⟩,
  ⟨scalarType b, scalarType c, .divide, scalarType a, .shrunk⟩,
  ⟨scalarType a, scalarType c, .divide, scalarType b, .shrunk⟩
]

def square (c a : ScalarKind) : List Relation := [
  ⟨scalarType c, scalarType a, .multiply, scalarType a, .scaled⟩,
  ⟨scalarType a, scalarType c, .divide, scalarType a, .shrunk⟩
]

def scaled (c : VectorKind) (a : ScalarKind) (b : VectorKind) : List Relation := [
  ⟨vectorType c, scalarType a, .multiply, vectorType b, .multiple⟩,
  ⟨vectorType c, vectorType b, .multiply, scalarType a, .scaled⟩,
  ⟨vectorType b, vectorType c, .divide, scalarType a, .shrunk⟩
]

/-- `c = a * n` with a scalar `a` and a direction `n`, which cannot be divided out again. -/
def directional (c : VectorKind) (a : ScalarKind) : List Relation := [
  ⟨vectorType c, scalarType a, .multiply, .direction, .multiple⟩,
  ⟨vectorType c, .direction, .multiply, scalarType a, .scaled⟩
]

end Relation

def scalarProducts : List (ScalarKind × ScalarKind × ScalarKind) := [
  (.volume, .area, .length),
  (.length, .speed, .time),
  (.speed, .length, .frequency),
  (.speed, .scalarAcceleration, .time),
  (.angle, .angularSpeed, .time),
  (.angularSpeed, .angularAccelerationMagnitude, .time),
  (.scalarForce, .mass, .scalarAcceleration),
  (.scalarForce, .pressure, .area),
  (.energy, .scalarForce, .length),
  (.energy, .power, .time),
  (.energy, .pressure, .volume),
  (.energy, .specificEnergy, .mass),
  (.energy, .heatCapacity, .temperatureDifference),
  (.power, .scalarForce, .speed),
  (.power, .energy, .frequency),
  (.power, .scalarHeatFlux, .area),
  (.mass, .massDensity, .volume),
  (.mass, .massRate, .time),
  (.massRate, .mass, .frequency),
  (.massRate, .massDensity, .volumeRate),
  (.volume, .volumeRate, .time),
  (.volumeRate, .volume, .frequency),
  (.dynamicViscosity, .massDensity, .kinematicViscosity),
  (.dynamicViscosity, .pressure, .time),
  (.kinematicViscosity, .area, .frequency),
  (.heatCapacity, .specificHeatCapacity, .mass),
  (.specificEnergy, .specificHeatCapacity, .temperatureDifference),
  (.electricCharge, .electricCurrent, .time),
  (.memory, .memoryRate, .time),
  (.memoryRate, .memory, .frequency),
  (.scalarHeatFlux, .thermalConductivity, .scalarTemperatureGradient),
  (.temperatureDifference, .scalarTemperatureGradient, .length)
]

def squareProducts : List (ScalarKind × ScalarKind) := [
  (.area, .length)
]

def vectorProducts : List (VectorKind × ScalarKind × VectorKind) := [
  (.displacement, .time, .velocity),
  (.velocity, .time, .acceleration),
  (.force, .mass, .acceleration),
  (.force, .area, .traction)
]

def directionProducts : List (VectorKind × ScalarKind) := [
  (.displacement, .length),
  (.velocity, .speed),
  (.acceleration, .scalarAcceleration),
  (.force, .scalarForce),
  (.traction, .scalarTraction),
  (.temperatureGradient, .scalarTemperatureGradient),
  (.heatFlux, .scalarHeatFlux)
]

def relations : List Relation :=
  scalarProducts.flatMap (fun p => Relation.scalar p.1 p.2.1 p.2.2) ++
    squareProducts.flatMap (fun p => Relation.square p.1 p.2) ++
    vectorProducts.flatMap (fun p => Relation.scaled p.1 p.2.1 p.2.2) ++
    directionProducts.flatMap (fun p => Relation.directional p.1 p.2)

end Metrology

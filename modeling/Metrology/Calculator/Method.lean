import Metrology.Calculator.Component
import Metrology.Dimensionless

namespace Metrology.Calculator

inductive Refusal where
  /-- There is no such operator or method between these types. -/
  | unsupported
  | outOfBounds (size index : Nat)
  /-- A name that names nothing, or components that do not fill a shape. -/
  | malformed
  deriving Repr, DecidableEq

def Refusal.message? : Refusal → Option String
  | outOfBounds size index =>
    some ("index out of bounds: the len is " ++ toString size ++ " but the index is " ++ toString index)
  | _ => none

inductive Reply where
  | value (v : Value Float)
  /-- The new value of what the method was called on. -/
  | changed (v : Value Float)
  | container {s : Shape} (c : Container Float s)
  | dimensions (d : DimensionSet)
  | unit (name : String)
  | formats (f : Formats)
  | hash (h : UInt64)
  | flag (b : Bool)
  | order (o : Option Ordering)
  | nothing

inductive Method where
  | value
  | valueIn (unit : String)
  | eachValueIn (unit : String)
  | standardUnit
  | dimensions
  | formats (unit : Option String) (precision : Option Precision)
  | hash
  | set (components : List Float)
  | adjust (components : List Float)
  | setAlong (axis : Axis) (value : Float)
  | equals (other : Value Float)
  | compare (other : Value Float)
  | component (c : Component)
  | index (i : Nat)
  | row (i : Nat)
  | column (i : Nat)
  | direction
  | normalized
  | toDirection
  | angleTo (other : Value Float)
  | angleBetween (other : Value Float)
  | dot (other : Value Float)
  | cross (other : Value Float)
  | dyadic (other : Value Float)
  | transpose
  | inverse
  | isSymmetric
  | symmetricPart
  | skewPart
  | deviatoric
  | toDyad
  /-- The same vector or tensor, put together again from its columns. -/
  | reassembled
  | reciprocal
  | period
  | strainRate
  | strain
  | vonMises
  | hydrostaticPressure
  | traction (normal : Value Float)
  | machNumber (sound : Value Float)
  | heatFlux (gradient : Value Float)

def orRefuse {β : Type} (refusal : Refusal) : Option β → Except Refusal β
  | some b => .ok b
  | none => .error refusal

def orUnsupported (v : Option (Value Float)) : Except Refusal Reply :=
  (orRefuse .unsupported v).map .value

def create (t : ValueType) (components : List Float) (unit : Option String) : Except Refusal (Value Float) :=
  match t, unit with
  | .measured k, some name => do
    let c ← orRefuse .malformed (Container.ofList? k.shape components)
    let u ← orRefuse .malformed (k.family.unitNamed? name)
    return Value.measure k c u
  | .measured _, none => .error .malformed
  | t, _ => do
    let c ← orRefuse .malformed (Container.ofList? t.shape components)
    return Value.make t c

def createFromMagnitude (t : ValueType) (magnitude direction : Value Float) : Except Refusal (Value Float) :=
  match t, magnitude, direction with
  | .measured (.vector k), ⟨.measured (.scalar j), c⟩, ⟨.pure .direction, d⟩ =>
    if j = k.component then
      .ok (.ofQuantity (Quantity.ofMagnitude (k := k) (.ofNumber c.toNumber) d.toVector))
    else .error .unsupported
  | _, _, _ => .error .unsupported

def reynolds : List (Value Float) → Except Refusal (Value Float)
  | [⟨.measured (.scalar .massDensity), density⟩, ⟨.measured (.scalar .speed), speed⟩,
      ⟨.measured (.scalar .length), length⟩, ⟨.measured (.scalar .dynamicViscosity), viscosity⟩] =>
    .ok ⟨.pure .reynoldsNumber, .scalar (Quantity.reynoldsNumber ⟨density⟩ ⟨speed⟩ ⟨length⟩ ⟨viscosity⟩)⟩
  | [⟨.measured (.scalar .speed), speed⟩, ⟨.measured (.scalar .length), length⟩,
      ⟨.measured (.scalar .kinematicViscosity), viscosity⟩] =>
    .ok ⟨.pure .reynoldsNumber, .scalar (Quantity.kinematicReynoldsNumber ⟨speed⟩ ⟨length⟩ ⟨viscosity⟩)⟩
  | _ => .error .unsupported

def display (v : Value Float) : List Char :=
  match v with
  | ⟨.measured k, c⟩ => Measurement.display (f := k.family) ⟨c⟩
  | ⟨_, c⟩ => c.print .double

/-- The value of another of the same type. Numbers are left to the number type. -/
def sameType? (a b : Value Float) : Option (Container Float a.type.shape) :=
  if a.type = .number then none
  else if same : b.type = a.type then some (same ▸ b.container)
  else none

def read (v : Value Float) (unit : String)
    (way : {k : Kind} → Quantity k Float → k.family.Unit → Container Float k.shape) : Except Refusal Reply :=
  match v with
  | ⟨.measured k, c⟩ => do
    let u ← orRefuse .malformed (k.family.unitNamed? unit)
    return .container (way (k := k) ⟨c⟩ u)
  | _ => .error .unsupported

def formats (v : Value Float) (unit : Option String) (precision : Option Precision) : Except Refusal Reply :=
  match v, unit with
  | ⟨.measured k, c⟩, some name => do
    let u ← orRefuse .malformed (k.family.unitNamed? name)
    return .formats (Measurement.formats (f := k.family) ⟨c⟩ (some u) precision)
  | ⟨.measured k, c⟩, none => .ok (.formats (Measurement.formats (f := k.family) ⟨c⟩ none precision))
  | ⟨_, c⟩, _ => .ok (.formats (c.formats (precision.getD .double)))

/-- Kinds other than directions can have their stored value replaced. -/
def replaced (v : Value Float) (components : List Float)
    (replacement : {s : Shape} → Container Float s → Replacement Float s) : Except Refusal Reply :=
  match v.type with
  | .plain _ => .error .unsupported
  | .pure .direction => .error .unsupported
  | _ => do
    let c ← orRefuse .malformed (Container.ofList? v.type.shape components)
    return .changed ⟨v.type, (replacement c).run v.container⟩

def call (v : Value Float) (method : Method) : Except Refusal Reply :=
  match method, v with
  | .value, ⟨.plain _, _⟩ => .error .unsupported
  | .value, ⟨_, c⟩ => .ok (.container c)
  | .valueIn unit, v => read v unit Measurement.valueIn
  | .eachValueIn unit, v => read v unit Measurement.eachValueIn
  | .standardUnit, ⟨.measured k, _⟩ =>
    if k.isAbsolute then .ok (.unit k.family.standard.name) else .error .unsupported
  | .dimensions, ⟨.plain _, _⟩ => .error .unsupported
  | .dimensions, ⟨t, _⟩ => .ok (.dimensions t.dimensions)
  | .formats unit precision, v => formats v unit precision
  | .hash, ⟨_, c⟩ => .ok (.hash c.hashValue)
  | .set components, v => replaced v components .set
  | .adjust components, v => replaced v components .adjust
  | .setAlong axis value, ⟨.plain .vector, .vector w⟩ => .ok (.changed (.ofVector (w.set axis value)))
  | .equals other, v => do return .flag (v.container.agrees (← orRefuse .unsupported (sameType? v other)))
  | .compare other, v => do return .order (v.container.order? (← orRefuse .unsupported (sameType? v other)))
  | .component c, v => orUnsupported (v.component? c)
  | .index i, ⟨.plain .vector, .vector w⟩ =>
    match w.get? i with
    | some a => .ok (.value (.ofNumber a))
    | none => .error (.outOfBounds w.toList.length i)
  | .row i, ⟨.plain .dyad, .dyad d⟩ => .ok ((d.row? i).elim .nothing fun w => .value (.ofVector w))
  | .column i, ⟨.plain .dyad, .dyad d⟩ => .ok ((d.column? i).elim .nothing fun w => .value (.ofVector w))
  | .direction, ⟨.measured (.vector _), .vector w⟩ => .ok (.value (.ofDirection w))
  | .normalized, ⟨.plain .vector, .vector w⟩ => .ok (.value (.ofVector w.normalized))
  | .toDirection, ⟨.plain .vector, .vector w⟩ => .ok (.value (.ofDirection w))
  | .angleTo ⟨.plain .vector, .vector b⟩, ⟨.plain .vector, .vector a⟩ =>
    .ok (.value (.ofNumber (a.angleTo b)))
  | .angleTo ⟨.measured (.vector j), .vector b⟩, ⟨.measured (.vector k), .vector a⟩ =>
    if j = k then .ok (.value (.ofScalar .angle (a.angleTo b))) else .error .unsupported
  | .angleBetween ⟨.pure .direction, .vector b⟩, ⟨.pure .direction, .vector a⟩ =>
    .ok (.value (.ofScalar .angle (a.angleTo b)))
  | .dot ⟨.plain .vector, .vector b⟩, ⟨.plain .vector, .vector a⟩ => .ok (.value (.ofNumber (a.dot b)))
  | .dot ⟨.pure .direction, .vector b⟩, ⟨.pure .direction, .vector a⟩ =>
    .ok (.value (.ofNumber (a.dot b)))
  | .cross ⟨.plain .vector, .vector b⟩, ⟨.plain .vector, .vector a⟩ => .ok (.value (.ofVector (a.cross b)))
  | .cross ⟨.pure .direction, .vector b⟩, ⟨.pure .direction, .vector a⟩ =>
    .ok (.value (.ofDirection (a.cross b)))
  | .dyadic ⟨.plain .vector, .vector b⟩, ⟨.plain .vector, .vector a⟩ => .ok (.value (.ofDyad (a.dyadic b)))
  | .transpose, ⟨.plain .dyad, .dyad d⟩ => .ok (.value (.ofDyad d.transpose))
  | .transpose, ⟨.plain .symmetricDyad, .symmetricDyad s⟩ => .ok (.value (.ofSymmetricDyad s.transpose))
  | .transpose, ⟨.measured (.dyad k), c⟩ =>
    .ok (.value (.ofQuantity (k := .dyad k) (Measurement.transpose (f := k.family) ⟨c⟩)))
  | .inverse, ⟨.plain .dyad, .dyad d⟩ => .ok (d.inverse?.elim .nothing fun e => .value (.ofDyad e))
  | .inverse, ⟨.plain .symmetricDyad, .symmetricDyad s⟩ =>
    .ok (s.inverse?.elim .nothing fun t => .value (.ofSymmetricDyad t))
  | .isSymmetric, ⟨.plain .dyad, .dyad d⟩ => .ok (.flag d.isSymmetric)
  | .symmetricPart, ⟨.plain .dyad, .dyad d⟩ => .ok (.value (.ofSymmetricDyad d.symmetricPart))
  | .skewPart, ⟨.plain .dyad, .dyad d⟩ => .ok (.value (.ofDyad d.skewPart))
  | .deviatoric, ⟨.plain .symmetricDyad, .symmetricDyad s⟩ => .ok (.value (.ofSymmetricDyad s.deviatoric))
  | .toDyad, ⟨.plain .symmetricDyad, .symmetricDyad s⟩ => .ok (.value (.ofDyad (.ofSymmetric s)))
  | .reassembled, ⟨.plain .vector, .vector w⟩ => .ok (.value (.ofVector ⟨w.x, w.y, w.z⟩))
  | .reassembled, ⟨.plain .dyad, .dyad d⟩ =>
    .ok (.value (.ofDyad (Dyad.ofRows d.columns.x d.columns.y d.columns.z).transpose))
  | .reciprocal, ⟨.measured (.scalar .time), c⟩ =>
    .ok (.value (.ofQuantity (Quantity.reciprocal ⟨c⟩)))
  | .period, ⟨.measured (.scalar .frequency), c⟩ => .ok (.value (.ofQuantity (Quantity.period ⟨c⟩)))
  | .strainRate, ⟨.measured (.dyad .velocityGradient), c⟩ =>
    .ok (.value (.ofQuantity (Quantity.strainRate ⟨c⟩)))
  | .strain, ⟨.pure .displacementGradient, c⟩ =>
    .ok (.value ⟨.pure .strain, (Dimensionless.strain ⟨c⟩).value⟩)
  | .vonMises, ⟨.measured (.symmetricDyad .stress), c⟩ =>
    .ok (.value (.ofQuantity (Quantity.vonMises ⟨c⟩)))
  | .hydrostaticPressure, ⟨.measured (.symmetricDyad .stress), c⟩ =>
    .ok (.value (.ofQuantity (Quantity.hydrostaticPressure ⟨c⟩)))
  | .traction ⟨.pure .direction, n⟩, ⟨.measured (.symmetricDyad .stress), c⟩ =>
    .ok (.value (.ofQuantity (Quantity.traction ⟨c⟩ n.toVector)))
  | .machNumber ⟨.measured (.scalar .speed), sound⟩, ⟨.measured (.scalar .speed), c⟩ =>
    .ok (.value ⟨.pure .machNumber, .scalar (Quantity.machNumber ⟨c⟩ ⟨sound⟩)⟩)
  | .heatFlux ⟨.measured (.vector .temperatureGradient), g⟩, ⟨.measured (.scalar .thermalConductivity), c⟩ =>
    .ok (.value (.ofQuantity (Quantity.heatFlux ⟨c⟩ ⟨g⟩)))
  | _, _ => .error .unsupported

end Metrology.Calculator

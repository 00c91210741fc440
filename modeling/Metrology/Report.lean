import Metrology.Quantity.Physics
import Metrology.Unit.Spelling

namespace Metrology.Report

def unit (f : Family) (name : String) : f.Unit := (f.unitNamed? name).getD f.standard

def quantity (k : ScalarKind) (value : Float) (name : String) : Quantity (.scalar k) Float :=
  .ofUnit (.scalar value) (unit k.family name)

def shown {k : ScalarKind} (q : Quantity (.scalar k) Float) (name : String)
    (p : Precision := .double) : String :=
  .ofList (Measurement.print (f := k.family) q (unit k.family name) p)

def result (k : ScalarKind) (op : Operator) (a b : Value Float) : Quantity (.scalar k) Float :=
  match a.combine? op b with
  | some ⟨.measured (.scalar _), .scalar x⟩ => .ofNumber x
  | _ => Measurement.zero

def rule : String := String.ofList (List.replicate 50 '-')

def heading (title : String) : List String := [title, rule]

def alignedRight (width : Nat) (text : String) : String :=
  String.ofList (List.replicate (width - text.length) ' ') ++ text

def conversions : List String :=
  let parsed := (Family.angularAcceleration.named.parse? "deg/s^2").getD Family.angularAcceleration.standard
  let spinUp : Quantity (.scalar .angularAccelerationMagnitude) Float := .ofUnit (.scalar 90) parsed
  let display := String.ofList (Measurement.display (f := .angularAcceleration) spinUp)
  let json := Measurement.json (f := .angularAcceleration) spinUp
    (unit .angularAcceleration "RevolutionPerSquareMinute") .double
  [shown spinUp parsed.name ++ " = " ++ display, "as JSON: " ++ String.ofList json]

def temperatures : List String :=
  let outside := quantity .temperature 68 "Fahrenheit"
  let inside := quantity .temperature 22 "Celsius"
  let difference := result .temperatureDifference .subtract (.ofQuantity inside) (.ofQuantity outside)
  [shown inside "Celsius" ++ " - " ++ shown outside "Fahrenheit" ++ " = " ++ shown difference "Celsius"]

def derived : List String :=
  let mass := quantity .mass 150 "Pound"
  let gravity := quantity .scalarAcceleration 1 "StandardGravity"
  let weight := result .scalarForce .multiply (.ofQuantity mass) (.ofQuantity gravity)
  let height := quantity .length 3 "Metre"
  let climb := result .energy .multiply (.ofQuantity weight) (.ofQuantity height)
  let time := quantity .time 2 "Second"
  let power := result .power .divide (.ofQuantity climb) (.ofQuantity time)
  ["weight of " ++ shown mass "Pound" ++ ": " ++ shown weight "Pound",
    "climbing 3 m in 2 s takes " ++ shown power "Horsepower" .single]

def consistentUnits : List String :=
  UnitSystem.all.map fun system =>
    let pressure := (Family.pressure.consistent? system).getD Family.pressure.standard
    alignedRight 12 system.abbreviation ++ ": pressure in " ++ pressure.abbreviation

def energyRelations : List String :=
  (relations.filter fun r => r.result == .measured (.scalar .energy)).map Relation.text

def lines : List String :=
  ["=== Unit Conversion ===", ""] ++
    heading "Parsing and converting" ++ conversions ++ ["", ""] ++
    heading "Temperatures" ++ temperatures ++ ["", ""] ++
    heading "Derived quantities" ++ derived ++ ["", ""] ++
    heading "Consistent units" ++ consistentUnits ++ ["", ""] ++
    heading "Relations" ++ energyRelations

end Metrology.Report

import Metrology.Dimension.Set
import Metrology.Json.Reader
import Metrology.Precision
import Metrology.Reading

namespace Metrology.Json

structure Form (β : Type) where
  write : β → Json
  read? : Json → Option β

namespace Form

/-- A value of a closed set, as its name. A name may also be written as the only key of an object, over
null. -/
def ofNames {β : Type} (values : List β) (name : β → String) : Form β where
  write value := .ofString (name value)
  read? json :=
    let written := match json with
      | .string points => points.text?
      | .object [(key, .null)] => key.text?
      | _ => none
    written.bind fun text => values.find? fun value => name value == text

def unit (f : Family) : Form f.Unit := ofNames f.units Family.Unit.name

def system : Form UnitSystem := ofNames UnitSystem.all UnitSystem.name

def precision : Form Precision := ofNames Precision.all Precision.name

/-- The double nearest to a written number. A number beyond the largest double is not read. -/
def double? (n : Number) : Option Float :=
  n.decimal.toSize?.map fun size => (Binary64.finite n.negative size).toFloat

def ofSize (negative : Bool) (size : Binary64.Size) : Json :=
  .number ⟨negative, false, if size.mantissa = 0 then ⟨0, 0⟩ else size.shortest⟩

def double : Form Float where
  write x :=
    match Binary64.ofFloat x with
    | .finite negative size => ofSize negative size
    | _ => .null
  read?
    | .number n => double? n
    | _ => none

/-- The integer that a number is written as. A zero with a sign is not an integer. -/
def integer? (n : Number) : Option Int :=
  if n.isInteger ∧ ¬(n.negative ∧ n.decimal.digits = 0) then
    some (if n.negative then -(n.decimal.digits : Int) else n.decimal.digits)
  else none

def exponent : Form Int8 where
  write n := .number ⟨n.toInt < 0, true, ⟨n.toInt.natAbs, 0⟩⟩
  read?
    | .number n => do
      let value ← integer? n
      if -128 ≤ value ∧ value ≤ 127 then some (Int8.ofInt value) else none
    | _ => none

def components (s : Shape) : Form (Container Float s) where
  write c := .array (c.toList.map double.write)
  read?
    | .array items => (items.mapM double.read?).bind (Container.ofList? s)
    | _ => none

def keyed? (members : List (Points × Json)) : Option (List (String × Json)) :=
  members.mapM fun member => member.1.text?.map fun key => (key, member.2)

def field? (members : List (String × Json)) (key : String) : Option Json :=
  match members.filter fun member => member.1 == key with
  | [(_, value)] => some value
  | _ => none

/-- The values of given keys, from an object that holds each of them once, or from an array of just these
values in order. Other keys do not matter. -/
def fields? (keys : List String) : Json → Option (List Json)
  | .object members => do
    let members ← keyed? members
    keys.mapM (field? members)
  | .array items => if items.length = keys.length then some items else none
  | _ => none

def record (members : List (String × Json)) : Json :=
  .object (members.map fun member => (member.1.toList.map Char.toNat, member.2))

def dimensionSet : Form DimensionSet where
  write d := record (BaseDimension.all.map fun base => (base.key, exponent.write (d.exponent base)))
  read? json := do
    let values ← fields? (BaseDimension.all.map BaseDimension.key) json
    let exponents ← values.mapM exponent.read?
    DimensionSet.ofList? exponents

def reading (f : Family) : Form (Reading f Float) where
  write r := record [("value", double.write r.value), ("unit", .ofString r.unit)]
  read? json := do
    match ← fields? ["value", "unit"] json with
    | [value, unit] => return ⟨← double.read? value, ← unit.text?⟩
    | _ => none

end Form

end Metrology.Json

import Metrology.Container.Basic
import Metrology.Unit.Family

/-!
Conversion between two units of a family, which passes through the standard unit.

`convert` and `convertNumber` leave out the half of the way that starts or ends at the standard unit;
`pivot` always goes the whole way.
-/

namespace Metrology

def updateFrom {α : Type} (image : α → α) (entries : Array α) (place : Nat) : Array α :=
  if inside : place < entries.size then
    updateFrom image (entries.set place (image entries[place])) (place + 1)
  else entries
termination_by entries.size - place

namespace Family.Unit

variable {α : Type} [Add α] [Sub α] [Mul α] [Div α] [OfScientific α] [HasPi α]

variable {f : Family} {s : Shape}

def convert (source target : f.Unit) (c : Container α s) : Container α s :=
  if source = f.standard then c.map target.fromStandard
  else if target = f.standard then c.map source.toStandard
  else c.map fun value => target.fromStandard (source.toStandard value)

/-- The conversion of a container as loops over the array of its components. -/
def convertInPlace (source target : f.Unit) (entries : Array α) : Array α :=
  if source = f.standard then updateFrom target.fromStandard entries 0
  else if target = f.standard then updateFrom source.toStandard entries 0
  else updateFrom (fun value => target.fromStandard (source.toStandard value)) entries 0

def convertNumber (source target : f.Unit) (value : α) : α :=
  if source.place = f.standard.place then target.fromStandard value
  else if target.place = f.standard.place then source.toStandard value
  else target.fromStandard (source.toStandard value)

def pivot (source target : f.Unit) (value : α) : α := target.fromStandard (source.toStandard value)

def chain (source : f.Unit) (c : Container α s) : List f.Unit → List (Container α s)
  | [] => []
  | target :: targets => source.convert target c :: chain target (source.convert target c) targets

end Family.Unit

end Metrology

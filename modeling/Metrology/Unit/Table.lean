import Metrology.Dimension.Set
import Metrology.Unit.Conversion

namespace Metrology

inductive UnitSystem where
  | metreKilogramSecondKelvin
  | millimetreGramSecondKelvin
  /-- The unit of mass is the slug. -/
  | footPoundSecondRankine
  /-- The unit of mass is the slinch. -/
  | inchPoundSecondRankine
  deriving Repr, DecidableEq

namespace UnitSystem

def all : List UnitSystem :=
  [.metreKilogramSecondKelvin, .millimetreGramSecondKelvin, .footPoundSecondRankine,
    .inchPoundSecondRankine]

def place : UnitSystem → Nat
  | metreKilogramSecondKelvin => 0
  | millimetreGramSecondKelvin => 1
  | footPoundSecondRankine => 2
  | inchPoundSecondRankine => 3

instance : Ord UnitSystem := ⟨fun a b => compare a.place b.place⟩

def name : UnitSystem → String
  | metreKilogramSecondKelvin => "MetreKilogramSecondKelvin"
  | millimetreGramSecondKelvin => "MillimetreGramSecondKelvin"
  | footPoundSecondRankine => "FootPoundSecondRankine"
  | inchPoundSecondRankine => "InchPoundSecondRankine"

def abbreviation : UnitSystem → String
  | metreKilogramSecondKelvin => "m·kg·s·K"
  | millimetreGramSecondKelvin => "mm·g·s·K"
  | footPoundSecondRankine => "ft·lbf·s·°R"
  | inchPoundSecondRankine => "in·lbf·s·°R"

end UnitSystem

structure UnitRow where
  name : String
  abbreviation : String
  conversion : Conversion
  spellings : List String
  deriving Repr, DecidableEq

/-- A family of units of one physical dimension. Units are referred to by their place in `units`.
`systems` lists, in the order of `UnitSystem.all`, the unit that goes with each system, or nothing for
a family that belongs to none. -/
structure FamilyTable where
  dimensions : DimensionSet
  units : List UnitRow
  standard : Nat
  systems : List Nat
  standard_lt : standard < units.length := by decide
  systems_lt : ∀ place ∈ systems, place < units.length := by decide

namespace FamilyTable

def consistent? (table : FamilyTable) (system : UnitSystem) : Option Nat :=
  table.systems[system.place]?

theorem consistent?_lt (table : FamilyTable) {system : UnitSystem} {place : Nat}
    (found : table.consistent? system = some place) : place < table.units.length :=
  table.systems_lt place (List.mem_of_getElem? found)

end FamilyTable

end Metrology

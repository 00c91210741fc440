import Metrology.Unit.Table.Heat
import Metrology.Unit.Table.Matter
import Metrology.Unit.Table.Motion
import Metrology.Unit.Table.Signal
import Metrology.Unit.Table.Space

namespace Metrology

inductive Family where
  | length
  | area
  | volume
  | angle
  | solidAngle
  | time
  | frequency
  | speed
  | acceleration
  | angularSpeed
  | angularAcceleration
  | volumeRate
  | kinematicViscosity
  | mass
  | substanceAmount
  | massDensity
  | massRate
  | force
  | pressure
  | dynamicViscosity
  | energy
  | power
  | specificEnergy
  | temperature
  | temperatureDifference
  | temperatureGradient
  | heatCapacity
  | specificHeatCapacity
  | thermalConductivity
  | energyFlux
  | electricCurrent
  | electricCharge
  | luminousIntensity
  | memory
  | memoryRate
  deriving Repr, DecidableEq

namespace Family

def all : List Family := [
  .length, .area, .volume, .angle, .solidAngle, .time, .frequency, .speed, .acceleration,
  .angularSpeed, .angularAcceleration, .volumeRate, .kinematicViscosity, .mass, .substanceAmount,
  .massDensity, .massRate, .force, .pressure, .dynamicViscosity, .energy, .power, .specificEnergy,
  .temperature, .temperatureDifference, .temperatureGradient, .heatCapacity, .specificHeatCapacity,
  .thermalConductivity, .energyFlux, .electricCurrent, .electricCharge, .luminousIntensity,
  .memory, .memoryRate
]

def name : Family → String
  | length => "Length"
  | area => "Area"
  | volume => "Volume"
  | angle => "Angle"
  | solidAngle => "SolidAngle"
  | time => "Time"
  | frequency => "Frequency"
  | speed => "Speed"
  | acceleration => "Acceleration"
  | angularSpeed => "AngularSpeed"
  | angularAcceleration => "AngularAcceleration"
  | volumeRate => "VolumeRate"
  | kinematicViscosity => "KinematicViscosity"
  | mass => "Mass"
  | substanceAmount => "SubstanceAmount"
  | massDensity => "MassDensity"
  | massRate => "MassRate"
  | force => "Force"
  | pressure => "Pressure"
  | dynamicViscosity => "DynamicViscosity"
  | energy => "Energy"
  | power => "Power"
  | specificEnergy => "SpecificEnergy"
  | temperature => "Temperature"
  | temperatureDifference => "TemperatureDifference"
  | temperatureGradient => "TemperatureGradient"
  | heatCapacity => "HeatCapacity"
  | specificHeatCapacity => "SpecificHeatCapacity"
  | thermalConductivity => "ThermalConductivity"
  | energyFlux => "EnergyFlux"
  | electricCurrent => "ElectricCurrent"
  | electricCharge => "ElectricCharge"
  | luminousIntensity => "LuminousIntensity"
  | memory => "Memory"
  | memoryRate => "MemoryRate"

def table : Family → FamilyTable
  | length => .length
  | area => .area
  | volume => .volume
  | angle => .angle
  | solidAngle => .solidAngle
  | time => .time
  | frequency => .frequency
  | speed => .speed
  | acceleration => .acceleration
  | angularSpeed => .angularSpeed
  | angularAcceleration => .angularAcceleration
  | volumeRate => .volumeRate
  | kinematicViscosity => .kinematicViscosity
  | mass => .mass
  | substanceAmount => .substanceAmount
  | massDensity => .massDensity
  | massRate => .massRate
  | force => .force
  | pressure => .pressure
  | dynamicViscosity => .dynamicViscosity
  | energy => .energy
  | power => .power
  | specificEnergy => .specificEnergy
  | temperature => .temperature
  | temperatureDifference => .temperatureDifference
  | temperatureGradient => .temperatureGradient
  | heatCapacity => .heatCapacity
  | specificHeatCapacity => .specificHeatCapacity
  | thermalConductivity => .thermalConductivity
  | energyFlux => .energyFlux
  | electricCurrent => .electricCurrent
  | electricCharge => .electricCharge
  | luminousIntensity => .luminousIntensity
  | memory => .memory
  | memoryRate => .memoryRate

def dimensions (f : Family) : DimensionSet := f.table.dimensions

/-- Whether values of the family may be summed and scaled. Absolute temperatures may not: their units
have zeros of their own, so a sum of two of them has no meaning. -/
def isLinear : Family → Bool
  | temperature => false
  | _ => true

def ofName? (name : String) : Option Family := all.find? fun f => f.name == name

structure Unit (f : Family) where
  place : Fin f.table.units.length
  deriving DecidableEq

def units (f : Family) : List f.Unit := (List.finRange f.table.units.length).map Unit.mk

def standard (f : Family) : f.Unit := ⟨⟨f.table.standard, f.table.standard_lt⟩⟩

def consistent? (f : Family) (system : UnitSystem) : Option f.Unit :=
  match found : f.table.consistent? system with
  | some place => some ⟨⟨place, f.table.consistent?_lt found⟩⟩
  | none => none

namespace Unit

variable {f : Family}

instance : Ord f.Unit := ⟨fun a b => compare a.place.val b.place.val⟩

def row (u : f.Unit) : UnitRow := f.table.units[u.place]

def name (u : f.Unit) : String := u.row.name

def abbreviation (u : f.Unit) : String := u.row.abbreviation

/-- The system that this unit goes with, if it goes with exactly one. -/
def relatedSystem? (u : f.Unit) : Option UnitSystem :=
  match UnitSystem.all.filter fun system => f.consistent? system == some u with
  | [system] => some system
  | _ => none

variable {α : Type} [Add α] [Sub α] [Mul α] [Div α] [OfScientific α] [HasPi α]

def toStandard (u : f.Unit) (value : α) : α := u.row.conversion.toStandard value

def fromStandard (u : f.Unit) (value : α) : α := u.row.conversion.fromStandard value

end Unit

def unitNamed? (f : Family) (name : String) : Option f.Unit := f.units.find? fun u => u.name == name

end Family

end Metrology

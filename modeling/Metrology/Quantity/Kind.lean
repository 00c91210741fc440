import Metrology.Measurement.Basic

/-!
Named kinds of quantity: for each its shape and the family of units it is measured in. Several kinds can
share one family, such as pressures, stresses and tractions.
-/

namespace Metrology

inductive ScalarKind where
  | time
  | frequency
  | length
  | mass
  | electricCurrent
  | electricCharge
  | substanceAmount
  | luminousIntensity
  | angle
  | solidAngle
  | area
  | volume
  | speed
  | scalarAcceleration
  | angularSpeed
  | angularAccelerationMagnitude
  | scalarForce
  | pressure
  | energy
  | power
  | massDensity
  | massRate
  | volumeRate
  | dynamicViscosity
  | kinematicViscosity
  | thermalConductivity
  | specificEnergy
  | specificHeatCapacity
  | heatCapacity
  | memory
  | memoryRate
  | temperature
  | temperatureDifference
  | scalarTemperatureGradient
  | scalarHeatFlux
  | scalarTraction
  | scalarStress
  | scalarStrainRate
  | scalarVelocityGradient
  deriving Repr, DecidableEq

namespace ScalarKind

def all : List ScalarKind := [
  .time, .frequency, .length, .mass, .electricCurrent, .electricCharge, .substanceAmount,
  .luminousIntensity, .angle, .solidAngle, .area, .volume, .speed, .scalarAcceleration,
  .angularSpeed, .angularAccelerationMagnitude, .scalarForce, .pressure, .energy, .power,
  .massDensity, .massRate, .volumeRate, .dynamicViscosity, .kinematicViscosity,
  .thermalConductivity, .specificEnergy, .specificHeatCapacity, .heatCapacity, .memory,
  .memoryRate, .temperature, .temperatureDifference, .scalarTemperatureGradient, .scalarHeatFlux,
  .scalarTraction, .scalarStress, .scalarStrainRate, .scalarVelocityGradient
]

def name : ScalarKind → String
  | time => "Time"
  | frequency => "Frequency"
  | length => "Length"
  | mass => "Mass"
  | electricCurrent => "ElectricCurrent"
  | electricCharge => "ElectricCharge"
  | substanceAmount => "SubstanceAmount"
  | luminousIntensity => "LuminousIntensity"
  | angle => "Angle"
  | solidAngle => "SolidAngle"
  | area => "Area"
  | volume => "Volume"
  | speed => "Speed"
  | scalarAcceleration => "ScalarAcceleration"
  | angularSpeed => "AngularSpeed"
  | angularAccelerationMagnitude => "AngularAccelerationMagnitude"
  | scalarForce => "ScalarForce"
  | pressure => "Pressure"
  | energy => "Energy"
  | power => "Power"
  | massDensity => "MassDensity"
  | massRate => "MassRate"
  | volumeRate => "VolumeRate"
  | dynamicViscosity => "DynamicViscosity"
  | kinematicViscosity => "KinematicViscosity"
  | thermalConductivity => "ThermalConductivity"
  | specificEnergy => "SpecificEnergy"
  | specificHeatCapacity => "SpecificHeatCapacity"
  | heatCapacity => "HeatCapacity"
  | memory => "Memory"
  | memoryRate => "MemoryRate"
  | temperature => "Temperature"
  | temperatureDifference => "TemperatureDifference"
  | scalarTemperatureGradient => "ScalarTemperatureGradient"
  | scalarHeatFlux => "ScalarHeatFlux"
  | scalarTraction => "ScalarTraction"
  | scalarStress => "ScalarStress"
  | scalarStrainRate => "ScalarStrainRate"
  | scalarVelocityGradient => "ScalarVelocityGradient"

def family : ScalarKind → Family
  | time => .time
  | frequency => .frequency
  | length => .length
  | mass => .mass
  | electricCurrent => .electricCurrent
  | electricCharge => .electricCharge
  | substanceAmount => .substanceAmount
  | luminousIntensity => .luminousIntensity
  | angle => .angle
  | solidAngle => .solidAngle
  | area => .area
  | volume => .volume
  | speed => .speed
  | scalarAcceleration => .acceleration
  | angularSpeed => .angularSpeed
  | angularAccelerationMagnitude => .angularAcceleration
  | scalarForce => .force
  | pressure => .pressure
  | energy => .energy
  | power => .power
  | massDensity => .massDensity
  | massRate => .massRate
  | volumeRate => .volumeRate
  | dynamicViscosity => .dynamicViscosity
  | kinematicViscosity => .kinematicViscosity
  | thermalConductivity => .thermalConductivity
  | specificEnergy => .specificEnergy
  | specificHeatCapacity => .specificHeatCapacity
  | heatCapacity => .heatCapacity
  | memory => .memory
  | memoryRate => .memoryRate
  | temperature => .temperature
  | temperatureDifference => .temperatureDifference
  | scalarTemperatureGradient => .temperatureGradient
  | scalarHeatFlux => .energyFlux
  | scalarTraction => .pressure
  | scalarStress => .pressure
  | scalarStrainRate => .frequency
  | scalarVelocityGradient => .frequency

end ScalarKind

inductive VectorKind where
  | position
  | displacement
  | velocity
  | acceleration
  | force
  | traction
  | temperatureGradient
  | heatFlux
  deriving Repr, DecidableEq

namespace VectorKind

def all : List VectorKind := [
  .position, .displacement, .velocity, .acceleration, .force, .traction, .temperatureGradient,
  .heatFlux
]

def name : VectorKind → String
  | position => "Position"
  | displacement => "Displacement"
  | velocity => "Velocity"
  | acceleration => "Acceleration"
  | force => "Force"
  | traction => "Traction"
  | temperatureGradient => "TemperatureGradient"
  | heatFlux => "HeatFlux"

def family : VectorKind → Family
  | position => .length
  | displacement => .length
  | velocity => .speed
  | acceleration => .acceleration
  | force => .force
  | traction => .pressure
  | temperatureGradient => .temperatureGradient
  | heatFlux => .energyFlux

def component : VectorKind → ScalarKind
  | position => .length
  | displacement => .length
  | velocity => .speed
  | acceleration => .scalarAcceleration
  | force => .scalarForce
  | traction => .scalarTraction
  | temperatureGradient => .scalarTemperatureGradient
  | heatFlux => .scalarHeatFlux

end VectorKind

inductive DyadKind where
  | velocityGradient
  deriving Repr, DecidableEq

namespace DyadKind

def name : DyadKind → String
  | velocityGradient => "VelocityGradient"

def family : DyadKind → Family
  | velocityGradient => .frequency

def component : DyadKind → ScalarKind
  | velocityGradient => .scalarVelocityGradient

end DyadKind

inductive SymmetricKind where
  | stress
  | strainRate
  deriving Repr, DecidableEq

namespace SymmetricKind

def name : SymmetricKind → String
  | stress => "Stress"
  | strainRate => "StrainRate"

def family : SymmetricKind → Family
  | stress => .pressure
  | strainRate => .frequency

def component : SymmetricKind → ScalarKind
  | stress => .scalarStress
  | strainRate => .scalarStrainRate

end SymmetricKind

inductive Kind where
  | scalar (kind : ScalarKind)
  | vector (kind : VectorKind)
  | dyad (kind : DyadKind)
  | symmetricDyad (kind : SymmetricKind)
  deriving Repr, DecidableEq

namespace Kind

def all : List Kind :=
  ScalarKind.all.map scalar ++ VectorKind.all.map vector ++
    [dyad .velocityGradient, symmetricDyad .stress, symmetricDyad .strainRate]

def name : Kind → String
  | scalar k => k.name
  | vector k => k.name
  | dyad k => k.name
  | symmetricDyad k => k.name

def shape : Kind → Shape
  | scalar _ => .scalar
  | vector _ => .vector
  | dyad _ => .dyad
  | symmetricDyad _ => .symmetricDyad

def family : Kind → Family
  | scalar k => k.family
  | vector k => k.family
  | dyad k => k.family
  | symmetricDyad k => k.family

def dimensions (k : Kind) : DimensionSet := k.family.dimensions

/-- Absolute kinds have an origin that is a matter of choice. They can be subtracted, which gives a
difference, and moved by a difference; they cannot be added or scaled. -/
def isAbsolute : Kind → Bool
  | scalar .temperature => true
  | vector .position => true
  | _ => false

end Kind

inductive PureKind where
  | machNumber
  | poissonRatio
  | reynoldsNumber
  | strain
  | displacementGradient
  /-- A vector of length one, or the zero vector. -/
  | direction
  deriving Repr, DecidableEq

namespace PureKind

def all : List PureKind :=
  [.machNumber, .poissonRatio, .reynoldsNumber, .strain, .displacementGradient, .direction]

def name : PureKind → String
  | machNumber => "MachNumber"
  | poissonRatio => "PoissonRatio"
  | reynoldsNumber => "ReynoldsNumber"
  | strain => "Strain"
  | displacementGradient => "DisplacementGradient"
  | direction => "Direction"

def shape : PureKind → Shape
  | machNumber => .scalar
  | poissonRatio => .scalar
  | reynoldsNumber => .scalar
  | strain => .symmetricDyad
  | displacementGradient => .dyad
  | direction => .vector

end PureKind

abbrev Quantity (k : Kind) (α : Type) := Measurement k.family k.shape α

end Metrology

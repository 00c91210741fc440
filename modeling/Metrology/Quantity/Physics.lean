import Metrology.Quantity.Value

namespace Metrology.Quantity

variable {α : Type} [Add α] [Sub α] [Mul α] [Div α] [Neg α] [OfScientific α]

def ofNumber {k : ScalarKind} (a : α) : Quantity (.scalar k) α := ⟨.scalar a⟩

def number {k : ScalarKind} (q : Quantity (.scalar k) α) : α := Container.toNumber q.value

def components {k : VectorKind} (q : Quantity (.vector k) α) : Vector3 α := Container.toVector q.value

def ofMagnitude {k : VectorKind} (magnitude : Quantity (.scalar k.component) α) (direction : Vector3 α) :
    Quantity (.vector k) α :=
  ⟨.vector (direction.scale magnitude.number)⟩

def angleTo {k : VectorKind} (a b : Quantity (.vector k) Float) : Quantity (.scalar .angle) Float :=
  ofNumber (a.components.angleTo b.components)

def reciprocal (time : Quantity (.scalar .time) α) : Quantity (.scalar .frequency) α :=
  ofNumber (1.0 / time.number)

def period (frequency : Quantity (.scalar .frequency) α) : Quantity (.scalar .time) α :=
  ofNumber (1.0 / frequency.number)

def strainRate (gradient : Quantity (.dyad .velocityGradient) α) :
    Quantity (.symmetricDyad .strainRate) α :=
  ⟨.symmetricDyad (Container.toDyad gradient.value).symmetricPart⟩

def vonMises [HasSqrt α] (stress : Quantity (.symmetricDyad .stress) α) :
    Quantity (.scalar .scalarStress) α :=
  ofNumber (Container.toSymmetricDyad stress.value).vonMises

/-- The mean compressive stress. -/
def hydrostaticPressure (stress : Quantity (.symmetricDyad .stress) α) : Quantity (.scalar .pressure) α :=
  ofNumber (-(Container.toSymmetricDyad stress.value).trace / 3.0)

def traction (stress : Quantity (.symmetricDyad .stress) α) (normal : Vector3 α) :
    Quantity (.vector .traction) α :=
  ⟨.vector ((Container.toSymmetricDyad stress.value).apply normal)⟩

def heatFlux (conductivity : Quantity (.scalar .thermalConductivity) α)
    (gradient : Quantity (.vector .temperatureGradient) α) : Quantity (.vector .heatFlux) α :=
  ⟨.vector (gradient.components.scale (-conductivity.number))⟩

def machNumber (speed sound : Quantity (.scalar .speed) α) : α := speed.number / sound.number

def reynoldsNumber (density : Quantity (.scalar .massDensity) α) (speed : Quantity (.scalar .speed) α)
    (length : Quantity (.scalar .length) α) (viscosity : Quantity (.scalar .dynamicViscosity) α) : α :=
  density.number * speed.number * length.number / viscosity.number

def kinematicReynoldsNumber (speed : Quantity (.scalar .speed) α) (length : Quantity (.scalar .length) α)
    (viscosity : Quantity (.scalar .kinematicViscosity) α) : α :=
  speed.number * length.number / viscosity.number

end Metrology.Quantity

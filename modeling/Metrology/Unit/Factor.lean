/-!
Conversion factors as expressions, so that one table serves every number type: doubles evaluate a factor
in double arithmetic, left to right as written, and a field evaluates it exactly.
-/

namespace Metrology

class HasPi (α : Type) where
  pi : α

instance : HasPi Float := ⟨3.141592653589793⟩

inductive Factor where
  | decimal (mantissa : Nat) (negativeExponent : Bool) (exponent : Nat)
  | pi
  | mul (a b : Factor)
  | div (a b : Factor)
  deriving Repr, DecidableEq

namespace Factor

instance (n : Nat) : OfNat Factor n := ⟨decimal n false 0⟩

instance : OfScientific Factor := ⟨decimal⟩

instance : Mul Factor := ⟨mul⟩

instance : Div Factor := ⟨div⟩

variable {α : Type} [Mul α] [Div α] [OfScientific α] [HasPi α]

def eval : Factor → α
  | decimal mantissa negativeExponent exponent =>
    OfScientific.ofScientific mantissa negativeExponent exponent
  | pi => HasPi.pi
  | mul a b => a.eval * b.eval
  | div a b => a.eval / b.eval

-- Lengths, in metres.
def foot : Factor := 0.3048

def inch : Factor := 0.0254

def yard : Factor := 0.9144

def mile : Factor := 1609.344

def nauticalMile : Factor := 1852

-- Masses, in kilograms, and forces, in newtons.
def pound : Factor := 0.45359237

def standardGravity : Factor := 9.80665

def poundForce : Factor := pound * standardGravity

/-- The mass that a pound-force accelerates by a foot per square second. -/
def slug : Factor := poundForce / foot

def slinch : Factor := poundForce / inch

def usGallon : Factor := 231 * inch * inch * inch

/-- Coulombs in one elementary charge, and joules in one electronvolt. -/
def elementaryCharge : Factor := 1.602176634e-19

def avogadro : Factor := 6.02214076e23

-- Energies, in joules.
def calorie : Factor := 4.184

def britishThermalUnit : Factor := 1055.05585262

def rankine : Factor := 5 / 9

end Factor

end Metrology

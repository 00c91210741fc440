import Metrology.Dimension.Base
import Metrology.Text

namespace Metrology

structure DimensionSet where
  time : Int8 := 0
  length : Int8 := 0
  mass : Int8 := 0
  electricCurrent : Int8 := 0
  temperature : Int8 := 0
  substanceAmount : Int8 := 0
  luminousIntensity : Int8 := 0
  deriving Repr, DecidableEq

namespace DimensionSet

def exponent (d : DimensionSet) : BaseDimension → Int8
  | .time => d.time
  | .length => d.length
  | .mass => d.mass
  | .electricCurrent => d.electricCurrent
  | .temperature => d.temperature
  | .substanceAmount => d.substanceAmount
  | .luminousIntensity => d.luminousIntensity

def ofExponents (f : BaseDimension → Int8) : DimensionSet where
  time := f .time
  length := f .length
  mass := f .mass
  electricCurrent := f .electricCurrent
  temperature := f .temperature
  substanceAmount := f .substanceAmount
  luminousIntensity := f .luminousIntensity

@[simp] theorem exponent_ofExponents (f : BaseDimension → Int8) (base : BaseDimension) :
    (ofExponents f).exponent base = f base := by
  cases base <;> rfl

@[simp] theorem ofExponents_exponent (d : DimensionSet) : ofExponents d.exponent = d := rfl

theorem ext_exponent {a b : DimensionSet} (same : ∀ base, a.exponent base = b.exponent base) :
    a = b := by
  rw [← ofExponents_exponent a, ← ofExponents_exponent b, funext same]

def dimensionless : DimensionSet := {}

instance : Inhabited DimensionSet := ⟨dimensionless⟩

def exponents (d : DimensionSet) : List Int8 := BaseDimension.all.map d.exponent

def ofList? : List Int8 → Option DimensionSet
  | [time, length, mass, current, temperature, amount, intensity] =>
    some ⟨time, length, mass, current, temperature, amount, intensity⟩
  | _ => none

def isDimensionless (d : DimensionSet) : Bool := d.exponents.all (· == 0)

def product (a b : DimensionSet) : DimensionSet :=
  ofExponents fun base => a.exponent base + b.exponent base

def quotient (a b : DimensionSet) : DimensionSet :=
  ofExponents fun base => a.exponent base - b.exponent base

def power (a : DimensionSet) (n : Int8) : DimensionSet :=
  ofExponents fun base => a.exponent base * n

instance : Mul DimensionSet := ⟨product⟩

instance : Div DimensionSet := ⟨quotient⟩

protected def compare (a b : DimensionSet) : Ordering :=
  BaseDimension.all.foldr (fun base rest => (compare (a.exponent base) (b.exponent base)).then rest) .eq

instance : Ord DimensionSet := ⟨DimensionSet.compare⟩

def entries (d : DimensionSet) : List (BaseDimension × Int8) :=
  (BaseDimension.all.map fun base => (base, d.exponent base)).filter fun entry => entry.2 != 0

/-- Powers joined by middle dots, `T^(-2)·L`, or `1` when nothing appears. -/
def print (d : DimensionSet) : List Char :=
  match d.entries with
  | [] => ['1']
  | entries => Text.joined ['·'] (entries.map fun entry => entry.1.power entry.2)

def json (d : DimensionSet) : List Char :=
  Text.braced (d.entries.map fun entry =>
    Text.labelled (Text.quoted entry.1.key.toList) (Text.integer entry.2.toInt))

def xml (d : DimensionSet) : List Char :=
  d.entries.flatMap fun entry => Text.element entry.1.key.toList (Text.integer entry.2.toInt)

def yaml (d : DimensionSet) : List Char :=
  Text.braced (d.entries.map fun entry =>
    Text.labelled entry.1.key.toList (Text.integer entry.2.toInt))

end DimensionSet

end Metrology

import Metrology.Text

namespace Metrology

inductive BaseDimension where
  | time
  | length
  | mass
  | electricCurrent
  | temperature
  | substanceAmount
  | luminousIntensity
  deriving Repr, DecidableEq

namespace BaseDimension

def all : List BaseDimension :=
  [.time, .length, .mass, .electricCurrent, .temperature, .substanceAmount, .luminousIntensity]

def symbol : BaseDimension → String
  | .time => "T"
  | .length => "L"
  | .mass => "M"
  | .electricCurrent => "I"
  | .temperature => "Θ"
  | .substanceAmount => "N"
  | .luminousIntensity => "J"

def label : BaseDimension → String
  | .time => "Time"
  | .length => "Length"
  | .mass => "Mass"
  | .electricCurrent => "Electric Current"
  | .temperature => "Temperature"
  | .substanceAmount => "Substance Amount"
  | .luminousIntensity => "Luminous Intensity"

def key : BaseDimension → String
  | .time => "time"
  | .length => "length"
  | .mass => "mass"
  | .electricCurrent => "electric_current"
  | .temperature => "temperature"
  | .substanceAmount => "substance_amount"
  | .luminousIntensity => "luminous_intensity"

/-- A power of the dimension: nothing for the exponent zero, the bare symbol for one, `L^2` for greater
exponents and `L^(-1)` for negative ones. -/
def power (base : BaseDimension) (exponent : Int8) : List Char :=
  if exponent = 0 then []
  else if exponent = 1 then base.symbol.toList
  else if 0 < exponent then base.symbol.toList ++ '^' :: Text.integer exponent.toInt
  else base.symbol.toList ++ '^' :: '(' :: (Text.integer exponent.toInt ++ [')'])

end BaseDimension

end Metrology

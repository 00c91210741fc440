import Metrology.Unit.Table

namespace Metrology.FamilyTable

open Factor

def length : FamilyTable where
  dimensions := { length := 1 }
  units := [
    ⟨"Kilometre", "km", .scale 1000, ["kilometre", "kilometres", "kilometer", "kilometers"]⟩,
    ⟨"Metre", "m", .scale 1, ["metre", "metres", "meter", "meters"]⟩,
    ⟨"Decimetre", "dm", .per 10, ["decimetre", "decimetres", "decimeter", "decimeters"]⟩,
    ⟨"Centimetre", "cm", .per 100, ["centimetre", "centimetres", "centimeter", "centimeters"]⟩,
    ⟨"Millimetre", "mm", .per 1000, ["millimetre", "millimetres", "millimeter", "millimeters"]⟩,
    ⟨"Micrometre", "μm", .per 1e6, ["micron", "microns", "micrometre", "micrometer"]⟩,
    ⟨"Nanometre", "nm", .per 1e9, ["nanometre", "nanometer"]⟩,
    ⟨"NauticalMile", "nmi", .scale nauticalMile, ["nautical mile", "nautical miles"]⟩,
    ⟨"Mile", "mi", .scale mile, ["mile", "miles"]⟩,
    ⟨"Yard", "yd", .scale yard, ["yard", "yards"]⟩,
    ⟨"Foot", "ft", .scale foot, ["foot", "feet", "'"]⟩,
    ⟨"Inch", "in", .scale inch, ["inch", "inches", "\""]⟩,
    ⟨"Mil", "mil", .scale (inch / 1000), ["mils", "thou"]⟩
  ]
  standard := 1
  systems := [1, 4, 10, 11]

def area : FamilyTable where
  dimensions := { length := 2 }
  units := [
    ⟨"SquareKilometre", "km²", .scale 1e6, ["square kilometre", "square kilometer"]⟩,
    ⟨"Hectare", "ha", .scale 1e4, ["hectare", "hectares"]⟩,
    ⟨"SquareMetre", "m²", .scale 1, ["square metre", "square metres", "square meter", "square meters"]⟩,
    ⟨"SquareDecimetre", "dm²", .per 100, ["square decimetre", "square decimeter"]⟩,
    ⟨"SquareCentimetre", "cm²", .per 1e4, ["square centimetre", "square centimeter"]⟩,
    ⟨"SquareMillimetre", "mm²", .per 1e6, ["square millimetre", "square millimeter"]⟩,
    ⟨"SquareMile", "mi²", .scale (mile * mile), ["square mile", "square miles"]⟩,
    ⟨"Acre", "ac", .scale (43560 * foot * foot), ["acre", "acres"]⟩,
    ⟨"SquareYard", "yd²", .scale (yard * yard), ["square yard", "square yards"]⟩,
    ⟨"SquareFoot", "ft²", .scale (foot * foot), ["square foot", "square feet", "sq ft"]⟩,
    ⟨"SquareInch", "in²", .scale (inch * inch), ["square inch", "square inches", "sq in"]⟩
  ]
  standard := 2
  systems := [2, 5, 9, 10]

def volume : FamilyTable where
  dimensions := { length := 3 }
  units := [
    ⟨"CubicKilometre", "km³", .scale 1e9, ["cubic kilometre", "cubic kilometer"]⟩,
    ⟨"CubicMetre", "m³", .scale 1, ["cubic metre", "cubic metres", "cubic meter", "cubic meters"]⟩,
    ⟨"Litre", "L", .per 1000, ["litre", "litres", "liter", "liters", "dm³"]⟩,
    ⟨"Millilitre", "mL", .per 1e6,
      ["millilitre", "millilitres", "milliliter", "milliliters", "cm³", "cc"]⟩,
    ⟨"CubicMillimetre", "mm³", .per 1e9, ["cubic millimetre", "cubic millimeter"]⟩,
    ⟨"CubicMile", "mi³", .scale (mile * mile * mile), ["cubic mile", "cubic miles"]⟩,
    ⟨"CubicYard", "yd³", .scale (yard * yard * yard), ["cubic yard", "cubic yards"]⟩,
    ⟨"CubicFoot", "ft³", .scale (foot * foot * foot), ["cubic foot", "cubic feet", "cu ft"]⟩,
    ⟨"CubicInch", "in³", .scale (inch * inch * inch), ["cubic inch", "cubic inches", "cu in"]⟩,
    ⟨"UsGallon", "gal", .scale usGallon, ["gallon", "gallons", "US gal"]⟩,
    ⟨"UsQuart", "qt", .scale (usGallon / 4), ["quart", "quarts"]⟩,
    ⟨"UsFluidOunce", "fl oz", .scale (usGallon / 128), ["fluid ounce", "fluid ounces"]⟩
  ]
  standard := 1
  systems := [1, 4, 7, 8]

def angle : FamilyTable where
  dimensions := {}
  units := [
    ⟨"Radian", "rad", .scale 1, ["radian", "radians"]⟩,
    ⟨"Milliradian", "mrad", .per 1000, ["milliradian", "milliradians"]⟩,
    ⟨"Degree", "deg", .scale (pi / 180), ["degree", "degrees"]⟩,
    ⟨"ArcMinute", "arcmin", .scale (pi / 10800), ["arcminute", "arcminutes", "′"]⟩,
    ⟨"ArcSecond", "arcsec", .scale (pi / 648000), ["arcsecond", "arcseconds", "″"]⟩,
    ⟨"Revolution", "rev", .scale (2 * pi), ["revolution", "revolutions", "turn", "turns"]⟩
  ]
  standard := 0
  systems := [0, 0, 0, 0]

def solidAngle : FamilyTable where
  dimensions := {}
  units := [
    ⟨"Steradian", "sr", .scale 1, ["steradian", "steradians", "rad2"]⟩,
    ⟨"SquareDegree", "deg²", .scale ((pi / 180) * (pi / 180)), ["square degree", "square degrees"]⟩,
    ⟨"Spat", "sp", .scale (4 * pi), ["spat", "spats"]⟩
  ]
  standard := 0
  systems := [0, 0, 0, 0]

end Metrology.FamilyTable

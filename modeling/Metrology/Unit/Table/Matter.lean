import Metrology.Unit.Table

namespace Metrology.FamilyTable

open Factor

/-- Masses. The foot and inch systems take the mass that their pound-force accelerates by one unit. -/
def mass : FamilyTable where
  dimensions := { mass := 1 }
  units := [
    ⟨"MetricTon", "t", .scale 1000, ["tonne", "tonnes", "metric ton", "metric tons"]⟩,
    ⟨"Kilogram", "kg", .scale 1, ["kilogram", "kilograms", "kilo", "kilos"]⟩,
    ⟨"Gram", "g", .per 1000, ["gram", "grams"]⟩,
    ⟨"Milligram", "mg", .per 1e6, ["milligram", "milligrams"]⟩,
    ⟨"Microgram", "μg", .per 1e9, ["microgram", "micrograms"]⟩,
    ⟨"Slug", "slug", .scale slug, ["slugs"]⟩,
    ⟨"Slinch", "slinch", .scale slinch, ["slinches", "blob", "blobs"]⟩,
    ⟨"Pound", "lbm", .scale pound, ["lb", "lbs", "pound", "pounds"]⟩,
    ⟨"Ounce", "oz", .scale (pound / 16), ["ounce", "ounces"]⟩,
    ⟨"ShortTon", "ton", .scale (2000 * pound), ["tons", "short ton", "short tons"]⟩
  ]
  standard := 1
  systems := [1, 2, 5, 6]

def substanceAmount : FamilyTable where
  dimensions := { substanceAmount := 1 }
  units := [
    ⟨"Kilomole", "kmol", .scale 1000, ["kilomole", "kilomoles"]⟩,
    ⟨"Mole", "mol", .scale 1, ["mole", "moles"]⟩,
    ⟨"Millimole", "mmol", .per 1000, ["millimole", "millimoles"]⟩,
    ⟨"Micromole", "μmol", .per 1e6, ["micromole", "micromoles"]⟩,
    ⟨"Particles", "particles", .per avogadro, ["particle", "molecules", "atoms"]⟩
  ]
  standard := 1
  systems := [1, 1, 1, 1]

def massDensity : FamilyTable where
  dimensions := { length := -3, mass := 1 }
  units := [
    ⟨"KilogramPerCubicMetre", "kg/m³", .scale 1, []⟩,
    ⟨"GramPerCubicMetre", "g/m³", .per 1000, []⟩,
    ⟨"GramPerCubicCentimetre", "g/cm³", .scale 1000, ["g/mL", "g/cc", "kg/L"]⟩,
    ⟨"GramPerCubicMillimetre", "g/mm³", .scale 1e6, []⟩,
    ⟨"SlugPerCubicFoot", "slug/ft³", .scale (slug / (foot * foot * foot)), []⟩,
    ⟨"SlinchPerCubicInch", "slinch/in³", .scale (slinch / (inch * inch * inch)), []⟩,
    ⟨"PoundPerCubicFoot", "lbm/ft³", .scale (pound / (foot * foot * foot)), ["lb/ft3"]⟩,
    ⟨"PoundPerCubicInch", "lbm/in³", .scale (pound / (inch * inch * inch)), ["lb/in3"]⟩
  ]
  standard := 0
  systems := [0, 3, 4, 5]

def massRate : FamilyTable where
  dimensions := { time := -1, mass := 1 }
  units := [
    ⟨"KilogramPerSecond", "kg/s", .scale 1, []⟩,
    ⟨"GramPerSecond", "g/s", .per 1000, []⟩,
    ⟨"KilogramPerHour", "kg/hr", .per 3600, ["kg/h"]⟩,
    ⟨"SlugPerSecond", "slug/s", .scale slug, []⟩,
    ⟨"SlinchPerSecond", "slinch/s", .scale slinch, []⟩,
    ⟨"PoundPerSecond", "lbm/s", .scale pound, ["lb/s"]⟩,
    ⟨"PoundPerMinute", "lbm/min", .scale (pound / 60), ["lb/min"]⟩,
    ⟨"PoundPerHour", "lbm/hr", .scale (pound / 3600), ["lb/hr", "lb/h"]⟩
  ]
  standard := 0
  systems := [0, 1, 3, 4]

def force : FamilyTable where
  dimensions := { time := -2, length := 1, mass := 1 }
  units := [
    ⟨"Kilonewton", "kN", .scale 1000, ["kilonewton", "kilonewtons"]⟩,
    ⟨"Newton", "N", .scale 1, ["newton", "newtons", "kg*m/s2"]⟩,
    ⟨"Millinewton", "mN", .per 1000, ["millinewton", "millinewtons"]⟩,
    ⟨"Micronewton", "μN", .per 1e6, ["micronewton", "micronewtons"]⟩,
    ⟨"Dyne", "dyn", .per 1e5, ["dyne", "dynes"]⟩,
    ⟨"Pound", "lbf", .scale poundForce, ["lb", "pound-force", "pounds-force", "pound force"]⟩,
    ⟨"Ounce", "ozf", .scale (poundForce / 16), ["ounce-force", "ounce force"]⟩,
    ⟨"Kip", "kip", .scale (1000 * poundForce), ["kips", "klbf"]⟩
  ]
  standard := 1
  systems := [1, 3, 5, 5]

def pressure : FamilyTable where
  dimensions := { time := -2, length := -1, mass := 1 }
  units := [
    ⟨"Gigapascal", "GPa", .scale 1e9, ["gigapascal", "gigapascals", "kN/mm2"]⟩,
    ⟨"Megapascal", "MPa", .scale 1e6, ["megapascal", "megapascals", "N/mm2"]⟩,
    ⟨"Kilopascal", "kPa", .scale 1000, ["kilopascal", "kilopascals"]⟩,
    ⟨"Hectopascal", "hPa", .scale 100, ["hectopascal", "hectopascals"]⟩,
    ⟨"Pascal", "Pa", .scale 1, ["pascal", "pascals", "N/m2"]⟩,
    ⟨"Bar", "bar", .scale 1e5, ["bars"]⟩,
    ⟨"Millibar", "mbar", .scale 100, ["millibar", "millibars"]⟩,
    ⟨"Atmosphere", "atm", .scale 101325, ["atmosphere", "atmospheres"]⟩,
    ⟨"PoundPerSquareFoot", "psf", .scale (poundForce / (foot * foot)), ["lbf/ft2", "lb/ft2"]⟩,
    ⟨"PoundPerSquareInch", "psi", .scale (poundForce / (inch * inch)), ["lbf/in2", "lb/in2"]⟩,
    ⟨"KipPerSquareInch", "ksi", .scale (1000 * poundForce / (inch * inch)), ["kip/in2"]⟩
  ]
  standard := 4
  systems := [4, 4, 8, 9]

def dynamicViscosity : FamilyTable where
  dimensions := { time := -1, length := -1, mass := 1 }
  units := [
    ⟨"KilopascalSecond", "kPa·s", .scale 1000, []⟩,
    ⟨"PascalSecond", "Pa·s", .scale 1, ["N·s/m2", "kg/m/s"]⟩,
    ⟨"MillipascalSecond", "mPa·s", .per 1000, []⟩,
    ⟨"Poise", "P", .per 10, ["poise"]⟩,
    ⟨"Centipoise", "cP", .per 1000, ["centipoise"]⟩,
    ⟨"PoundSecondPerSquareFoot", "lbf·s/ft²", .scale (poundForce / (foot * foot)), []⟩,
    ⟨"PoundSecondPerSquareInch", "lbf·s/in²", .scale (poundForce / (inch * inch)), ["reyn"]⟩
  ]
  standard := 1
  systems := [1, 1, 5, 6]

end Metrology.FamilyTable

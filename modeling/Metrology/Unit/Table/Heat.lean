import Metrology.Unit.Table

namespace Metrology.FamilyTable

open Factor

def energy : FamilyTable where
  dimensions := { time := -2, length := 2, mass := 1 }
  units := [
    ⟨"Gigajoule", "GJ", .scale 1e9, ["gigajoule", "gigajoules"]⟩,
    ⟨"Megajoule", "MJ", .scale 1e6, ["megajoule", "megajoules"]⟩,
    ⟨"Kilojoule", "kJ", .scale 1000, ["kilojoule", "kilojoules"]⟩,
    ⟨"Joule", "J", .scale 1, ["joule", "joules", "N·m", "W·s"]⟩,
    ⟨"Millijoule", "mJ", .per 1000, ["millijoule", "millijoules"]⟩,
    ⟨"Microjoule", "μJ", .per 1e6, ["microjoule", "microjoules"]⟩,
    ⟨"Nanojoule", "nJ", .per 1e9, ["nanojoule", "nanojoules"]⟩,
    ⟨"WattHour", "W·hr", .scale 3600, ["Wh", "W·h"]⟩,
    ⟨"KilowattHour", "kW·hr", .scale 3.6e6, ["kWh", "kW·h"]⟩,
    ⟨"Calorie", "cal", .scale calorie, ["calorie", "calories"]⟩,
    ⟨"Kilocalorie", "kcal", .scale (1000 * calorie), ["kilocalorie", "kilocalories", "Cal"]⟩,
    ⟨"ElectronVolt", "eV", .scale elementaryCharge, ["electronvolt", "electronvolts"]⟩,
    ⟨"BritishThermalUnit", "BTU", .scale britishThermalUnit, ["Btu"]⟩,
    ⟨"FootPound", "ft·lbf", .scale (foot * poundForce), ["ft·lb", "foot-pound", "foot-pounds"]⟩,
    ⟨"InchPound", "in·lbf", .scale (inch * poundForce), ["in·lb", "inch-pound", "inch-pounds"]⟩
  ]
  standard := 3
  systems := [3, 6, 13, 14]

def power : FamilyTable where
  dimensions := { time := -3, length := 2, mass := 1 }
  units := [
    ⟨"Gigawatt", "GW", .scale 1e9, ["gigawatt", "gigawatts"]⟩,
    ⟨"Megawatt", "MW", .scale 1e6, ["megawatt", "megawatts"]⟩,
    ⟨"Kilowatt", "kW", .scale 1000, ["kilowatt", "kilowatts"]⟩,
    ⟨"Watt", "W", .scale 1, ["watt", "watts", "J/s"]⟩,
    ⟨"Milliwatt", "mW", .per 1000, ["milliwatt", "milliwatts"]⟩,
    ⟨"Microwatt", "μW", .per 1e6, ["microwatt", "microwatts"]⟩,
    ⟨"Nanowatt", "nW", .per 1e9, ["nanowatt", "nanowatts"]⟩,
    ⟨"FootPoundPerSecond", "ft·lbf/s", .scale (foot * poundForce), ["ft·lb/s"]⟩,
    ⟨"InchPoundPerSecond", "in·lbf/s", .scale (inch * poundForce), ["in·lb/s"]⟩,
    ⟨"Horsepower", "hp", .scale (550 * foot * poundForce), ["horsepower"]⟩,
    ⟨"BtuPerHour", "BTU/hr", .scale (britishThermalUnit / 3600), ["Btu/hr", "BTU/h"]⟩
  ]
  standard := 3
  systems := [3, 6, 7, 8]

def specificEnergy : FamilyTable where
  dimensions := { time := -2, length := 2 }
  units := [
    ⟨"MegajoulePerKilogram", "MJ/kg", .scale 1e6, []⟩,
    ⟨"KilojoulePerKilogram", "kJ/kg", .scale 1000, []⟩,
    ⟨"JoulePerKilogram", "J/kg", .scale 1, ["m2/s2"]⟩,
    ⟨"JoulePerGram", "J/g", .scale 1000, []⟩,
    ⟨"NanojoulePerGram", "nJ/g", .per 1e6, []⟩,
    ⟨"FootPoundPerSlug", "ft·lbf/slug", .scale (foot * poundForce / slug), []⟩,
    ⟨"InchPoundPerSlinch", "in·lbf/slinch", .scale (inch * poundForce / slinch), []⟩,
    ⟨"BtuPerPound", "BTU/lbm", .scale (britishThermalUnit / pound), ["Btu/lb"]⟩
  ]
  standard := 2
  systems := [2, 4, 5, 6]

/-- Absolute temperatures. Celsius and Fahrenheit have a zero of their own. -/
def temperature : FamilyTable where
  dimensions := { temperature := 1 }
  units := [
    ⟨"Kelvin", "K", .scale 1, ["kelvin", "kelvins", "°K"]⟩,
    ⟨"Celsius", "°C", .affine [.add 273.15] [.sub 273.15],
      ["C", "celsius", "degree celsius", "degrees celsius"]⟩,
    ⟨"Rankine", "°R", .scale rankine, ["R", "rankine", "degree rankine", "degrees rankine"]⟩,
    ⟨"Fahrenheit", "°F", .affine [.add 459.67, .mul rankine] [.div rankine, .sub 459.67],
      ["F", "fahrenheit", "degree fahrenheit", "degrees fahrenheit"]⟩
  ]
  standard := 0
  systems := [0, 0, 2, 2]

/-- Differences between temperatures, for which the zero of a scale does not matter. -/
def temperatureDifference : FamilyTable where
  dimensions := { temperature := 1 }
  units := [
    ⟨"Kelvin", "K", .scale 1, ["kelvin", "kelvins", "ΔK"]⟩,
    ⟨"Celsius", "°C", .scale 1, ["C", "celsius", "Δ°C"]⟩,
    ⟨"Rankine", "°R", .scale rankine, ["R", "rankine", "Δ°R"]⟩,
    ⟨"Fahrenheit", "°F", .scale rankine, ["F", "fahrenheit", "Δ°F"]⟩
  ]
  standard := 0
  systems := [0, 0, 2, 2]

def temperatureGradient : FamilyTable where
  dimensions := { length := -1, temperature := 1 }
  units := [
    ⟨"KelvinPerMetre", "K/m", .scale 1, []⟩,
    ⟨"KelvinPerCentimetre", "K/cm", .scale 100, []⟩,
    ⟨"KelvinPerMillimetre", "K/mm", .scale 1000, []⟩,
    ⟨"CelsiusPerMetre", "°C/m", .scale 1, []⟩,
    ⟨"CelsiusPerMillimetre", "°C/mm", .scale 1000, []⟩,
    ⟨"RankinePerFoot", "°R/ft", .scale (rankine / foot), []⟩,
    ⟨"RankinePerInch", "°R/in", .scale (rankine / inch), []⟩,
    ⟨"FahrenheitPerFoot", "°F/ft", .scale (rankine / foot), []⟩,
    ⟨"FahrenheitPerInch", "°F/in", .scale (rankine / inch), []⟩
  ]
  standard := 0
  systems := [0, 2, 5, 6]

def heatCapacity : FamilyTable where
  dimensions := { time := -2, length := 2, mass := 1, temperature := -1 }
  units := [
    ⟨"KilojoulePerKelvin", "kJ/K", .scale 1000, []⟩,
    ⟨"JoulePerKelvin", "J/K", .scale 1, []⟩,
    ⟨"NanojoulePerKelvin", "nJ/K", .per 1e9, []⟩,
    ⟨"FootPoundPerRankine", "ft·lbf/°R", .scale (foot * poundForce / rankine), []⟩,
    ⟨"InchPoundPerRankine", "in·lbf/°R", .scale (inch * poundForce / rankine), []⟩,
    ⟨"BtuPerRankine", "BTU/°R", .scale (britishThermalUnit / rankine), ["Btu/degR"]⟩
  ]
  standard := 1
  systems := [1, 2, 3, 4]

def specificHeatCapacity : FamilyTable where
  dimensions := { time := -2, length := 2, temperature := -1 }
  units := [
    ⟨"JoulePerKilogramPerKelvin", "J/kg/K", .scale 1, ["J/(kg*K)"]⟩,
    ⟨"KilojoulePerKilogramPerKelvin", "kJ/kg/K", .scale 1000, ["kJ/(kg*K)"]⟩,
    ⟨"JoulePerGramPerKelvin", "J/g/K", .scale 1000, ["J/(g*K)"]⟩,
    ⟨"NanojoulePerGramPerKelvin", "nJ/g/K", .per 1e6, ["nJ/(g*K)"]⟩,
    ⟨"FootPoundPerSlugPerRankine", "ft·lbf/slug/°R", .scale (foot * poundForce / (slug * rankine)), []⟩,
    ⟨"InchPoundPerSlinchPerRankine", "in·lbf/slinch/°R", .scale (inch * poundForce / (slinch * rankine)),
      []⟩,
    ⟨"BtuPerPoundPerRankine", "BTU/lbm/°R", .scale (britishThermalUnit / (pound * rankine)),
      ["Btu/lb/degR"]⟩,
    ⟨"CaloriePerGramPerKelvin", "cal/g/K", .scale (1000 * calorie), ["cal/(g*K)"]⟩
  ]
  standard := 0
  systems := [0, 3, 4, 5]

def thermalConductivity : FamilyTable where
  dimensions := { time := -3, length := 1, mass := 1, temperature := -1 }
  units := [
    ⟨"WattPerMetrePerKelvin", "W/m/K", .scale 1, ["W/(m*K)", "W/m*K"]⟩,
    ⟨"KilowattPerMetrePerKelvin", "kW/m/K", .scale 1000, ["kW/(m*K)"]⟩,
    ⟨"NanowattPerMillimetrePerKelvin", "nW/mm/K", .per 1e6, ["nW/(mm*K)"]⟩,
    ⟨"PoundPerSecondPerRankine", "lbf/s/°R", .scale (poundForce / rankine), ["lbf/(s*degR)"]⟩,
    ⟨"BtuPerHourPerFootPerRankine", "BTU/hr/ft/°R", .scale (britishThermalUnit / (3600 * foot * rankine)),
      ["Btu/hr/ft/degR", "BTU/(hr*ft*degR)"]⟩
  ]
  standard := 0
  systems := [0, 2, 3, 3]

def energyFlux : FamilyTable where
  dimensions := { time := -3, mass := 1 }
  units := [
    ⟨"KilowattPerSquareMetre", "kW/m²", .scale 1000, []⟩,
    ⟨"WattPerSquareMetre", "W/m²", .scale 1, []⟩,
    ⟨"WattPerSquareCentimetre", "W/cm²", .scale 1e4, []⟩,
    ⟨"NanowattPerSquareMillimetre", "nW/mm²", .per 1000, []⟩,
    ⟨"FootPoundPerSecondPerSquareFoot", "ft·lbf/s/ft²", .scale (poundForce / foot), []⟩,
    ⟨"InchPoundPerSecondPerSquareInch", "in·lbf/s/in²", .scale (poundForce / inch), []⟩,
    ⟨"BtuPerHourPerSquareFoot", "BTU/hr/ft²", .scale (britishThermalUnit / (3600 * foot * foot)),
      ["Btu/hr/ft2"]⟩
  ]
  standard := 1
  systems := [1, 3, 4, 5]

end Metrology.FamilyTable

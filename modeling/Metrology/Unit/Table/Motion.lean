import Metrology.Unit.Table

namespace Metrology.FamilyTable

open Factor

def time : FamilyTable where
  dimensions := { time := 1 }
  units := [
    ⟨"Nanosecond", "ns", .per 1e9, ["nanosecond", "nanoseconds"]⟩,
    ⟨"Microsecond", "μs", .per 1e6, ["microsecond", "microseconds"]⟩,
    ⟨"Millisecond", "ms", .per 1000, ["millisecond", "milliseconds"]⟩,
    ⟨"Second", "s", .scale 1, ["sec", "second", "seconds"]⟩,
    ⟨"Minute", "min", .scale 60, ["minute", "minutes"]⟩,
    ⟨"Hour", "hr", .scale 3600, ["h", "hour", "hours"]⟩,
    ⟨"Day", "d", .scale 86400, ["day", "days"]⟩
  ]
  standard := 3
  systems := [3, 3, 3, 3]

def frequency : FamilyTable where
  dimensions := { time := -1 }
  units := [
    ⟨"Gigahertz", "GHz", .scale 1e9, ["gigahertz"]⟩,
    ⟨"Megahertz", "MHz", .scale 1e6, ["megahertz"]⟩,
    ⟨"Kilohertz", "kHz", .scale 1000, ["kilohertz"]⟩,
    ⟨"Hertz", "Hz", .scale 1, ["hertz", "1/s", "/s", "per second"]⟩,
    ⟨"Millihertz", "mHz", .per 1000, ["millihertz"]⟩,
    ⟨"PerMinute", "1/min", .per 60, ["/min", "per minute"]⟩,
    ⟨"PerHour", "1/hr", .per 3600, ["/hr", "1/h", "per hour"]⟩
  ]
  standard := 3
  systems := [3, 3, 3, 3]

def speed : FamilyTable where
  dimensions := { time := -1, length := 1 }
  units := [
    ⟨"KilometrePerSecond", "km/s", .scale 1000, []⟩,
    ⟨"MetrePerSecond", "m/s", .scale 1, ["mps"]⟩,
    ⟨"CentimetrePerSecond", "cm/s", .per 100, []⟩,
    ⟨"MillimetrePerSecond", "mm/s", .per 1000, []⟩,
    ⟨"KilometrePerHour", "km/hr", .scale (1000 / 3600), ["km/h", "kph", "kmh"]⟩,
    ⟨"MilePerHour", "mph", .scale (mile / 3600), ["mi/hr", "mi/h"]⟩,
    ⟨"Knot", "kn", .scale (nauticalMile / 3600), ["kt", "knot", "knots", "nmi/hr"]⟩,
    ⟨"FootPerSecond", "ft/s", .scale foot, ["fps"]⟩,
    ⟨"FootPerMinute", "ft/min", .scale (foot / 60), ["fpm"]⟩,
    ⟨"InchPerSecond", "in/s", .scale inch, ["ips"]⟩
  ]
  standard := 1
  systems := [1, 3, 7, 9]

def acceleration : FamilyTable where
  dimensions := { time := -2, length := 1 }
  units := [
    ⟨"MetrePerSquareSecond", "m/s²", .scale 1, ["m/s/s"]⟩,
    ⟨"CentimetrePerSquareSecond", "cm/s²", .per 100, ["cm/s/s", "Gal"]⟩,
    ⟨"MillimetrePerSquareSecond", "mm/s²", .per 1000, ["mm/s/s"]⟩,
    ⟨"FootPerSquareSecond", "ft/s²", .scale foot, ["ft/s/s"]⟩,
    ⟨"InchPerSquareSecond", "in/s²", .scale inch, ["in/s/s"]⟩,
    ⟨"StandardGravity", "g₀", .scale standardGravity, ["g0", "gn", "gee", "standard gravity"]⟩
  ]
  standard := 0
  systems := [0, 2, 3, 4]

def angularSpeed : FamilyTable where
  dimensions := { time := -1 }
  units := [
    ⟨"RadianPerSecond", "rad/s", .scale 1, []⟩,
    ⟨"RadianPerMinute", "rad/min", .per 60, []⟩,
    ⟨"RadianPerHour", "rad/hr", .per 3600, ["rad/h"]⟩,
    ⟨"DegreePerSecond", "deg/s", .scale (pi / 180), []⟩,
    ⟨"DegreePerMinute", "deg/min", .scale (pi / 10800), []⟩,
    ⟨"DegreePerHour", "deg/hr", .scale (pi / 648000), ["deg/h"]⟩,
    ⟨"RevolutionPerSecond", "rev/s", .scale (2 * pi), ["rps"]⟩,
    ⟨"RevolutionPerMinute", "rev/min", .scale (pi / 30), ["rpm"]⟩,
    ⟨"RevolutionPerHour", "rev/hr", .scale (pi / 1800), ["rev/h", "rph"]⟩
  ]
  standard := 0
  systems := [0, 0, 0, 0]

def angularAcceleration : FamilyTable where
  dimensions := { time := -2 }
  units := [
    ⟨"RadianPerSquareSecond", "rad/s²", .scale 1, ["rad/s/s"]⟩,
    ⟨"RadianPerSquareMinute", "rad/min²", .per 3600, ["rad/min/min"]⟩,
    ⟨"RadianPerSquareHour", "rad/hr²", .per 12960000, ["rad/hr/hr", "rad/h2", "rad/h/h"]⟩,
    ⟨"DegreePerSquareSecond", "deg/s²", .scale (pi / 180), ["deg/s/s"]⟩,
    ⟨"DegreePerSquareMinute", "deg/min²", .scale (pi / 648000), ["deg/min/min"]⟩,
    ⟨"DegreePerSquareHour", "deg/hr²", .scale (pi / 2332800000), ["deg/hr/hr", "deg/h2", "deg/h/h"]⟩,
    ⟨"RevolutionPerSquareSecond", "rev/s²", .scale (2 * pi), ["rev/s/s"]⟩,
    ⟨"RevolutionPerSquareMinute", "rev/min²", .scale (pi / 1800), ["rev/min/min"]⟩,
    ⟨"RevolutionPerSquareHour", "rev/hr²", .scale (pi / 6480000), ["rev/hr/hr", "rev/h2", "rev/h/h"]⟩
  ]
  standard := 0
  systems := [0, 0, 0, 0]

def volumeRate : FamilyTable where
  dimensions := { time := -1, length := 3 }
  units := [
    ⟨"CubicMetrePerSecond", "m³/s", .scale 1, []⟩,
    ⟨"LitrePerSecond", "L/s", .per 1000, []⟩,
    ⟨"LitrePerMinute", "L/min", .per 60000, ["lpm"]⟩,
    ⟨"MillilitrePerSecond", "mL/s", .per 1e6, ["cm3/s"]⟩,
    ⟨"CubicMillimetrePerSecond", "mm³/s", .per 1e9, []⟩,
    ⟨"CubicFootPerSecond", "ft³/s", .scale (foot * foot * foot), ["cfs"]⟩,
    ⟨"CubicFootPerMinute", "ft³/min", .scale (foot * foot * foot / 60), ["cfm"]⟩,
    ⟨"CubicInchPerSecond", "in³/s", .scale (inch * inch * inch), []⟩,
    ⟨"UsGallonPerMinute", "gal/min", .scale (usGallon / 60), ["gpm"]⟩
  ]
  standard := 0
  systems := [0, 4, 5, 7]

def kinematicViscosity : FamilyTable where
  dimensions := { time := -1, length := 2 }
  units := [
    ⟨"SquareMetrePerSecond", "m²/s", .scale 1, []⟩,
    ⟨"SquareCentimetrePerSecond", "cm²/s", .per 1e4, ["St", "stokes"]⟩,
    ⟨"SquareMillimetrePerSecond", "mm²/s", .per 1e6, ["cSt", "centistokes"]⟩,
    ⟨"SquareFootPerSecond", "ft²/s", .scale (foot * foot), []⟩,
    ⟨"SquareInchPerSecond", "in²/s", .scale (inch * inch), []⟩
  ]
  standard := 0
  systems := [0, 2, 3, 4]

end Metrology.FamilyTable

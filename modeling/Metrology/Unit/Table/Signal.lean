import Metrology.Unit.Table

namespace Metrology.FamilyTable

open Factor

def electricCurrent : FamilyTable where
  dimensions := { electricCurrent := 1 }
  units := [
    ⟨"Kiloampere", "kA", .scale 1000, ["kiloampere", "kiloamperes", "kiloamp"]⟩,
    ⟨"Ampere", "A", .scale 1, ["amp", "amps", "ampere", "amperes", "C/s"]⟩,
    ⟨"Milliampere", "mA", .per 1000, ["milliamp", "milliampere", "milliamperes"]⟩,
    ⟨"Microampere", "μA", .per 1e6, ["microamp", "microampere", "microamperes"]⟩,
    ⟨"Nanoampere", "nA", .per 1e9, ["nanoamp", "nanoampere", "nanoamperes"]⟩
  ]
  standard := 1
  systems := [1, 1, 1, 1]

def electricCharge : FamilyTable where
  dimensions := { time := 1, electricCurrent := 1 }
  units := [
    ⟨"Kilocoulomb", "kC", .scale 1000, ["kilocoulomb", "kilocoulombs"]⟩,
    ⟨"Coulomb", "C", .scale 1, ["coulomb", "coulombs", "A*s"]⟩,
    ⟨"Millicoulomb", "mC", .per 1000, ["millicoulomb", "millicoulombs"]⟩,
    ⟨"Microcoulomb", "μC", .per 1e6, ["microcoulomb", "microcoulombs"]⟩,
    ⟨"Nanocoulomb", "nC", .per 1e9, ["nanocoulomb", "nanocoulombs"]⟩,
    ⟨"ElementaryCharge", "e", .scale elementaryCharge, ["elementary charge", "elementary charges"]⟩,
    ⟨"AmpereHour", "A·h", .scale 3600, ["Ah", "amp-hour", "amp-hours"]⟩,
    ⟨"MilliampereHour", "mA·h", .scale 3.6, ["mAh", "milliamp-hour", "milliamp-hours"]⟩
  ]
  standard := 1
  systems := [1, 1, 1, 1]

def luminousIntensity : FamilyTable where
  dimensions := { luminousIntensity := 1 }
  units := [
    ⟨"Kilocandela", "kcd", .scale 1000, ["kilocandela", "kilocandelas"]⟩,
    ⟨"Candela", "cd", .scale 1, ["candela", "candelas"]⟩,
    ⟨"Millicandela", "mcd", .per 1000, ["millicandela", "millicandelas"]⟩
  ]
  standard := 1
  systems := [1, 1, 1, 1]

def memory : FamilyTable where
  dimensions := {}
  units := [
    ⟨"Bit", "b", .scale 1, ["bit", "bits"]⟩,
    ⟨"Byte", "B", .scale 8, ["byte", "bytes", "octet", "octets"]⟩,
    ⟨"Kilobit", "kb", .scale 1e3, ["kilobit", "kilobits"]⟩,
    ⟨"Kilobyte", "kB", .scale 8e3, ["kilobyte", "kilobytes"]⟩,
    ⟨"Kibibit", "Kib", .scale 1024, ["kibibit", "kibibits"]⟩,
    ⟨"Kibibyte", "KiB", .scale 8192, ["kibibyte", "kibibytes"]⟩,
    ⟨"Megabit", "Mb", .scale 1e6, ["megabit", "megabits"]⟩,
    ⟨"Megabyte", "MB", .scale 8e6, ["megabyte", "megabytes"]⟩,
    ⟨"Mebibit", "Mib", .scale 1048576, ["mebibit", "mebibits"]⟩,
    ⟨"Mebibyte", "MiB", .scale 8388608, ["mebibyte", "mebibytes"]⟩,
    ⟨"Gigabit", "Gb", .scale 1e9, ["gigabit", "gigabits"]⟩,
    ⟨"Gigabyte", "GB", .scale 8e9, ["gigabyte", "gigabytes"]⟩,
    ⟨"Gibibit", "Gib", .scale 1073741824, ["gibibit", "gibibits"]⟩,
    ⟨"Gibibyte", "GiB", .scale 8589934592, ["gibibyte", "gibibytes"]⟩,
    ⟨"Terabit", "Tb", .scale 1e12, ["terabit", "terabits"]⟩,
    ⟨"Terabyte", "TB", .scale 8e12, ["terabyte", "terabytes"]⟩,
    ⟨"Tebibit", "Tib", .scale 1099511627776, ["tebibit", "tebibits"]⟩,
    ⟨"Tebibyte", "TiB", .scale 8796093022208, ["tebibyte", "tebibytes"]⟩
  ]
  standard := 0
  systems := []

def memoryRate : FamilyTable where
  dimensions := { time := -1 }
  units := [
    ⟨"BitPerSecond", "b/s", .scale 1, ["bps", "bit/s"]⟩,
    ⟨"BytePerSecond", "B/s", .scale 8, ["Bps", "byte/s"]⟩,
    ⟨"KilobitPerSecond", "kb/s", .scale 1e3, ["kbps", "kbit/s"]⟩,
    ⟨"KilobytePerSecond", "kB/s", .scale 8e3, ["kBps"]⟩,
    ⟨"KibibytePerSecond", "KiB/s", .scale 8192, []⟩,
    ⟨"MegabitPerSecond", "Mb/s", .scale 1e6, ["Mbps", "Mbit/s"]⟩,
    ⟨"MegabytePerSecond", "MB/s", .scale 8e6, ["MBps"]⟩,
    ⟨"MebibytePerSecond", "MiB/s", .scale 8388608, []⟩,
    ⟨"GigabitPerSecond", "Gb/s", .scale 1e9, ["Gbps", "Gbit/s"]⟩,
    ⟨"GigabytePerSecond", "GB/s", .scale 8e9, ["GBps"]⟩,
    ⟨"GibibytePerSecond", "GiB/s", .scale 8589934592, []⟩
  ]
  standard := 0
  systems := []

end Metrology.FamilyTable

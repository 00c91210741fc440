/-!
Doubles taken apart into exact integers, and the double nearest to a fraction.

A finite double is a sign and a `Size`, which stands for `mantissa * 2 ^ exponent`. Everything about
number text is decided on sizes in `Nat` arithmetic.
-/

namespace Metrology

def roundHalfEven (num den : Nat) : Nat :=
  let quotient := num / den
  let twice := 2 * (num % den)
  if twice < den ∨ (twice = den ∧ quotient % 2 = 0) then quotient else quotient + 1

structure Fraction where
  num : Nat
  den : Nat
  deriving Repr, DecidableEq

namespace Fraction

def shift (f : Fraction) (base : Nat) (exponent : Int) : Fraction :=
  ⟨f.num * Nat.pow base exponent.toNat, f.den * Nat.pow base (-exponent).toNat⟩

def round (f : Fraction) : Nat := roundHalfEven f.num f.den

def floor (f : Fraction) : Nat := f.num / f.den

def compareHalf (f : Fraction) : Ordering := compare (2 * (f.num % f.den)) f.den

def floorLog2 (f : Fraction) : Int :=
  let guess : Int := (f.num.log2 : Int) - f.den.log2
  let scaled := f.shift 2 (-guess)
  if scaled.den ≤ scaled.num then guess else guess - 1

end Fraction

namespace Binary64

structure Size where
  mantissa : Nat
  exponent : Int
  deriving Repr, DecidableEq

def leastExponent : Int := -1074

def greatestExponent : Int := 971

/-- The leading bit of a full mantissa, `2 ^ 52`, which is not stored. In the stored form it is the unit
of the exponent field. -/
def leadingBit : Nat := 0x10000000000000

def signBit : Nat := 0x8000000000000000

def infinityBits : Nat := 2047 * leadingBit

namespace Size

def zero : Size := ⟨0, leastExponent⟩

def fraction (s : Size) : Fraction := Fraction.shift ⟨s.mantissa, 1⟩ 2 s.exponent

/-- Sizes of doubles in the form in which each is written once: the mantissa fills 53 bits unless
the exponent is the least one. -/
def Canonical (s : Size) : Prop :=
  s.mantissa < 2 * leadingBit ∧ leastExponent ≤ s.exponent ∧ s.exponent ≤ greatestExponent ∧
    (leadingBit ≤ s.mantissa ∨ s.exponent = leastExponent)

/-- The 63 bits below the sign. A step to the next double adds one, so the order of sizes is the
order of these numbers. -/
def bits (s : Size) : Nat := (s.exponent - leastExponent).toNat * leadingBit + s.mantissa

def ofBits (n : Nat) : Size :=
  if n / leadingBit = 0 then ⟨n, leastExponent⟩
  else ⟨leadingBit + n % leadingBit, (n / leadingBit : Nat) - 1 + leastExponent⟩

def gridExponent (f : Fraction) : Int := max leastExponent (f.floorLog2 - 52)

/-- The size nearest to a positive fraction, a tie going to the even mantissa; none when it lies
beyond the largest double. -/
def nearest? (f : Fraction) : Option Size :=
  let exponent := gridExponent f
  let mantissa := (f.shift 2 (-exponent)).round
  let size : Size := if mantissa = 2 * leadingBit then ⟨leadingBit, exponent + 1⟩ else ⟨mantissa, exponent⟩
  if greatestExponent < size.exponent then none else some size

end Size

end Binary64

inductive Binary64 where
  | nan
  | infinite (negative : Bool)
  | finite (negative : Bool) (size : Binary64.Size)
  deriving Repr, DecidableEq

namespace Binary64

def ofBits (bits : UInt64) : Binary64 :=
  let negative := decide (signBit ≤ bits.toNat)
  let rest := bits.toNat % signBit
  if rest < infinityBits then .finite negative (Size.ofBits rest)
  else if rest = infinityBits then .infinite negative
  else .nan

def toBits : Binary64 → UInt64
  | .nan => 0x7ff8000000000000
  | .infinite negative => .ofNat ((if negative then signBit else 0) + infinityBits)
  | .finite negative size => .ofNat ((if negative then signBit else 0) + size.bits)

def ofNearest (negative : Bool) : Option Size → Binary64
  | none => .infinite negative
  | some s => .finite negative s

def ofFloat (x : Float) : Binary64 := ofBits x.toBits

def toFloat (x : Binary64) : Float := Float.ofBits x.toBits

end Binary64

end Metrology

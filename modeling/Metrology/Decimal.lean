import Metrology.Binary64
import Metrology.Text

namespace Metrology

structure Decimal where
  digits : Nat
  exponent : Int
  deriving Repr, DecidableEq

def digitCount (n : Nat) : Nat :=
  if n < 10 then 1 else digitCount (n / 10) + 1

def Fraction.floorLog10 (f : Fraction) : Int :=
  if f.den ≤ f.num then (digitCount f.floor : Int) - 1
  else
    let count := digitCount (f.den / f.num)
    if f.num * Nat.pow 10 (count - 1) = f.den then 1 - count else -count

namespace Decimal

def fraction (d : Decimal) : Fraction := Fraction.shift ⟨d.digits, 1⟩ 10 d.exponent

def gridExponent (count : Nat) (f : Fraction) : Int := f.floorLog10 - count + 1

def round (count : Nat) (f : Fraction) : Decimal :=
  let exponent := gridExponent count f
  ⟨(f.shift 10 (-exponent)).round, exponent⟩

def trim (d : Decimal) : Decimal :=
  if d.digits = 0 then ⟨0, 0⟩
  else if d.digits % 10 = 0 then trim ⟨d.digits / 10, d.exponent + 1⟩
  else d
termination_by d.digits
decreasing_by omega

/-- The nearest size of a double, or none beyond the largest. Decimals of more than 310 places before
the point are beyond it, and those that start more than 330 places behind the point are next to zero;
both are told apart by their count of digits, so that no power of a huge exponent is formed. -/
def toSize? (d : Decimal) : Option Binary64.Size :=
  let top := (digitCount d.digits : Int) + d.exponent
  if d.digits = 0 ∨ top < -330 then some .zero
  else if 310 < top then none
  else Binary64.Size.nearest? d.fraction

def pointPlace (d : Decimal) : Int := (digitCount d.digits : Int) + d.exponent

def positional (d : Decimal) : List Char :=
  let digits := Text.natural d.digits
  if 0 ≤ d.exponent then digits ++ List.replicate d.exponent.toNat '0'
  else if 0 < d.pointPlace then
    digits.take d.pointPlace.toNat ++ '.' :: digits.drop d.pointPlace.toNat
  else '0' :: '.' :: (List.replicate (-d.pointPlace).toNat '0' ++ digits)

def scientific (d : Decimal) : List Char :=
  let mark := 'e' :: Text.integer (d.pointPlace - 1)
  match Text.natural d.digits with
  | [] => mark
  | [first] => first :: mark
  | first :: rest => first :: '.' :: (rest ++ mark)

end Decimal

namespace Binary64.Size

def reads (s : Size) (d : Decimal) : Bool := d.toSize? == some s

/-- The best decimal of `count` significant digits that reads back, if there is one. Only the two
neighbours of the size on that grid can be it. -/
def shortestOfCount? (s : Size) (count : Nat) : Option Decimal :=
  let exponent := Decimal.gridExponent count s.fraction
  let scaled := s.fraction.shift 10 (-exponent)
  let below : Decimal := ⟨scaled.floor, exponent⟩
  let above : Decimal := ⟨scaled.floor + 1, exponent⟩
  match s.reads below, s.reads above with
  | true, true => some (if scaled.compareHalf = .lt then below else above)
  | true, false => some below
  | false, true => some above
  | false, false => none

/-- The shortest decimal that reads back as a positive size: the first count of digits wins at which one does,
and of two with this count the nearer one, or the greater if both are equally near. Seventeen digits always
suffice. -/
def shortest (s : Size) : Decimal :=
  let found := (List.range 17).findSome? fun i => s.shortestOfCount? (i + 1)
  (found.getD (Decimal.round 17 s.fraction)).trim

end Binary64.Size

end Metrology

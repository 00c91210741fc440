import Metrology.Json.Reader

/-!
How many digits of a number are shown, and the text of a double.

A finite number is first rounded to the digits of the precision, then read back as a double, and that
double is written with the fewest digits that read back. Sizes from a thousandth to below a million are
written positionally, others in scientific notation.
-/

namespace Metrology

inductive Precision where
  | double
  | single
  deriving Repr, DecidableEq, Inhabited

namespace Precision

def all : List Precision := [.double, .single]

def significantDigits : Precision → Nat
  | .double => 15
  | .single => 6

def name : Precision → String
  | .double => "Double"
  | .single => "Single"

end Precision

def positionalFloor : Decimal := ⟨1, -3⟩

def positionalCeiling : Decimal := ⟨1, 6⟩

def Binary64.Size.isBetween (s : Size) (lower upper : Decimal) : Bool :=
  match lower.toSize?, upper.toSize? with
  | some l, some u => decide (l.bits ≤ s.bits ∧ s.bits < u.bits)
  | _, _ => false

def Binary64.Size.text (s : Size) : List Char :=
  if s.isBetween positionalFloor positionalCeiling then s.shortest.positional
  else s.shortest.scientific

def Binary64.Size.roundTo? (s : Size) (count : Nat) : Option Size :=
  if s.mantissa = 0 then some s else (Decimal.round count s.fraction).toSize?

def signText (negative : Bool) : List Char := if negative then ['-'] else []

/-- The text of what a double stands for. Both zeros are `0`; a size that rounds beyond the largest
double is written as an infinity. -/
def Binary64.text (p : Precision) : Binary64 → List Char
  | .nan => "NaN".toList
  | .infinite negative => signText negative ++ "inf".toList
  | .finite negative size =>
    match size.roundTo? p.significantDigits with
    | none => signText negative ++ "inf".toList
    | some rounded =>
      if rounded.mantissa = 0 then ['0'] else signText negative ++ rounded.text

def numberText (p : Precision) (x : Float) : List Char := (Binary64.ofFloat x).text p

def Binary64.isFinite : Binary64 → Bool
  | .finite _ _ => true
  | _ => false

/-- The text of a double inside JSON, which has no literal for infinities and NaN. -/
def jsonNumberText (p : Precision) (x : Float) : List Char :=
  if (Binary64.ofFloat x).isFinite then numberText p x else "null".toList

namespace Text

def significand? (text : List Char) : Option (Decimal × List Char) :=
  let whole := text.takeWhile Char.isDigit
  let (fraction, rest) := match text.dropWhile Char.isDigit with
    | '.' :: rest => (rest.takeWhile Char.isDigit, rest.dropWhile Char.isDigit)
    | rest => ([], rest)
  if whole ++ fraction = [] then none
  else some (⟨Json.Reader.digitsValue (whole ++ fraction), -fraction.length⟩, rest)

def decimal? (text : List Char) : Option Decimal := do
  let (significand, rest) ← significand? text
  let (exponent, rest) ← Json.Reader.exponent? rest
  if rest = [] then some ⟨significand.digits, exponent.getD 0 + significand.exponent⟩ else none

/-- A text without a sign: one of the words for what is no number, in letters of either case, or a decimal,
which stands for the nearest double and from a limit upwards for infinity. -/
def magnitude? (negative : Bool) (text : List Char) : Option Binary64 :=
  let word := text.map Char.toLower
  if word = "nan".toList then some .nan
  else if word = "inf".toList ∨ word = "infinity".toList then some (.infinite negative)
  else (decimal? text).map fun d => Binary64.ofNearest negative d.toSize?

def binary64? : List Char → Option Binary64
  | '-' :: text => magnitude? true text
  | '+' :: text => magnitude? false text
  | text => magnitude? false text

def double? (text : List Char) : Option Float := (binary64? text).map Binary64.toFloat

example : binary64? "-.5E1".toList = binary64? "-5".toList ∧
    binary64? "1e400".toList = binary64? "+INF".toList ∧
    binary64? "3e-324".toList = some (.finite false ⟨1, -1074⟩) ∧ binary64? "1e".toList = none := by
  decide +kernel

end Text

end Metrology

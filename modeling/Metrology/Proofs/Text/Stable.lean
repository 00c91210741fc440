import Metrology.Proofs.Binary64.Sign
import Metrology.Proofs.Json.Shown
import Metrology.Proofs.Text.Number

namespace Metrology

open Binary64 (Size)

namespace Text

section Json

open Json.Reader

variable {text rest rest' digits whole fraction : List Char}

theorem eq_of_digits? (read : digits? text = some (digits, rest)) :
    digits ≠ [] ∧ text.takeWhile Char.isDigit = digits ∧ text.dropWhile Char.isDigit = rest := by
  unfold digits? at read
  split at read
  · cases read
  · next nonempty =>
    cases read
    exact ⟨nonempty, rfl, rfl⟩

theorem digits?_of_whole? (read : whole? text = some (whole, rest)) : digits? text = some (whole, rest) := by
  unfold whole? at read
  split at read
  · cases read
  · exact read

theorem significand?_of_parts (read : whole? text = some (whole, rest))
    (read' : fraction? rest = some (fraction, rest')) :
    significand? text = some (⟨digitsValue (whole ++ fraction), -fraction.length⟩, rest') := by
  obtain ⟨nonempty, taken, dropped⟩ := eq_of_digits? (digits?_of_whole? read)
  have shown : whole ++ fraction ≠ [] := List.append_ne_nil_of_left_ne_nil nonempty _
  unfold significand?
  rw [taken, dropped]
  unfold fraction? at read'
  split at read'
  · next tail =>
    obtain ⟨-, taken', dropped'⟩ := eq_of_digits? read'
    simp only [taken', dropped', if_neg shown]
  · next other =>
    cases read'
    simp only [if_neg shown]

theorem decimal?_of_unsigned? {negative : Bool} {n : Json.Number}
    (read : unsigned? negative text = some (n, [])) : decimal? text = some n.decimal := by
  obtain ⟨⟨whole, rest⟩, whole_read, read⟩ := Option.bind_eq_some_iff.mp read
  obtain ⟨⟨fraction, rest'⟩, fraction_read, read⟩ := Option.bind_eq_some_iff.mp read
  obtain ⟨⟨exponent, rest''⟩, exponent_read, read⟩ := Option.bind_eq_some_iff.mp read
  cases read
  simp only [decimal?, significand?_of_parts whole_read fraction_read, Option.bind_eq_bind, Option.bind_some,
    exponent_read, if_true, sub_eq_add_neg]

end Json

variable {n : Json.Numeral} {text : List Char} {c : Char}

theorem toLower_of_isDigit (digit : c.isDigit = true) : c.toLower = c := by
  simp only [Char.isDigit, Bool.and_eq_true, decide_eq_true_eq, ge_iff_le, UInt32.le_iff_toNat_le] at digit
  refine dif_neg fun upper => ?_
  have letter : 65 ≤ c.val.toNat := UInt32.le_iff_toNat_le.mp upper.1
  exact absurd (letter.trans digit.2) (by decide)

theorem exists_head_text (wf : n.IsWellFormed) : ∃ c rest, n.text = c :: rest ∧ c.isDigit = true := by
  obtain ⟨c, digits, whole⟩ := List.exists_cons_of_ne_nil wf.whole_ne_nil
  refine ⟨c, digits ++ (n.fractionText ++ n.exponentText), ?_, wf.whole_digits c ?_⟩
  · rw [Json.Numeral.text, whole, List.cons_append]
  · rw [whole]
    exact List.mem_cons_self

theorem magnitude?_text (wf : n.IsWellFormed) (negative : Bool) :
    magnitude? negative n.text = some (Binary64.ofNearest negative (n.number negative).decimal.toSize?) := by
  have ends : Json.EndsValue [] := nofun
  have read := Json.Reader.unsigned?_text wf negative ends
  rw [List.append_nil] at read
  obtain ⟨c, rest, text, digit⟩ := exists_head_text wf
  have other {d : Char} {word : List Char} (letter : d.isDigit = false) :
      n.text.map Char.toLower ≠ d :: word := by
    rw [text, List.map_cons, toLower_of_isDigit digit]
    rintro ⟨⟩
    rw [digit] at letter
    cases letter
  have nan : n.text.map Char.toLower ≠ "nan".toList := other rfl
  have infinite : ¬(n.text.map Char.toLower = "inf".toList ∨ n.text.map Char.toLower = "infinity".toList) :=
    not_or_intro (other rfl) (other rfl)
  rw [magnitude?, if_neg nan, if_neg infinite, decimal?_of_unsigned? read, Option.map_some]

theorem binary64?_signed (negative : Bool) (minus : text.head? ≠ some '-') (plus : text.head? ≠ some '+') :
    binary64? (signText negative ++ text) = magnitude? negative text := by
  cases negative with
  | true => rfl
  | false =>
    rw [signText, if_neg Bool.false_ne_true, List.nil_append, binary64?]
    · rintro rest rfl
      exact minus rfl
    · rintro rest rfl
      exact plus rfl

theorem binary64?_nan : binary64? "NaN".toList = some .nan := by decide

theorem binary64?_infinite (negative : Bool) :
    binary64? (signText negative ++ "inf".toList) = some (.infinite negative) := by
  cases negative <;> decide

theorem binary64?_zero : binary64? ['0'] = some (.finite false .zero) := by decide

theorem binary64?_numeral (wf : n.IsWellFormed) (negative : Bool) :
    binary64? (signText negative ++ n.text) =
      some (Binary64.ofNearest negative (n.number negative).decimal.toSize?) := by
  obtain ⟨c, rest, text, digit⟩ := exists_head_text wf
  rw [binary64?_signed, magnitude?_text wf]
  · rw [text]
    rintro ⟨⟩
    cases digit
  · rw [text]
    rintro ⟨⟩
    cases digit

end Text

namespace Binary64

variable {p : Precision} {b : Binary64} {s r : Size} {count : Nat}

/-- Rounding to two digits or more does not lead from a double above zero to zero. -/
theorem Size.mantissa_ne_zero_of_roundTo? (canonical : s.Canonical) (nonzero : s.mantissa ≠ 0)
    (digits : 2 ≤ count) (rounded : s.roundTo? count = some r) : r.mantissa ≠ 0 := by
  intro zero
  rw [roundTo?, if_neg nonzero, Decimal.toSize?_eq_some_iff] at rounded
  have least := least_le_value canonical nonzero
  have small := le_of_mantissa_eq_zero rounded.1 rounded.2 zero
  have step := Decimal.grid_step_le (num_fraction_pos nonzero) s.den_fraction_pos count
  have error := Decimal.abs_value_round_sub_le_half s.den_fraction_pos count
  have hundred : (10 : ℚ) ^ 2 ≤ 10 ^ count := pow_le_pow_right₀ (by norm_num) digits
  have grid : (0 : ℚ) < 10 ^ Decimal.gridExponent count s.fraction := by positivity
  have coarse := mul_le_mul_of_nonneg_right hundred grid.le
  have half : (2 : ℚ) ^ (-1075 : Int) = 2 ^ (-1074 : Int) * 2⁻¹ := zpow_sub_one₀ two_ne_zero (-1074)
  have power : (0 : ℚ) < 2 ^ (-1074 : Int) := by positivity
  rw [value_fraction] at step error
  have low := (abs_le.mp error).1
  linarith

/-- What a double is rounded to when it is written: a zero has no sign, and beyond the largest double there is
an infinity. -/
def written (p : Precision) : Binary64 → Binary64
  | .nan => .nan
  | .infinite negative => .infinite negative
  | .finite negative size =>
    match size.roundTo? p.significantDigits with
    | none => .infinite negative
    | some r => shown negative r

def IsStored : Binary64 → Prop
  | .finite _ size => size.Canonical
  | _ => True

theorem isStored_ofFloat (x : Float) : (ofFloat x).IsStored := by
  cases found : ofFloat x with
  | finite negative size => exact (ofFloat_eq_finite found).1
  | _ => trivial

theorem isStored_written (stored : b.IsStored) (p : Precision) : (b.written p).IsStored := by
  cases b with
  | nan => trivial
  | infinite negative => trivial
  | finite negative size =>
    cases rounded : size.roundTo? p.significantDigits with
    | none => simp only [written, rounded, IsStored]
    | some r =>
      simp only [written, rounded]
      exact Size.canonical_of_roundTo? stored rounded

theorem ofFloat_toFloat (stored : b.IsStored) : ofFloat b.toFloat = b := by
  cases b with
  | nan => rfl
  | infinite negative => cases negative <;> decide +kernel
  | finite negative size => exact ofFloat_toFloat_finite stored negative

theorem text_written (b : Binary64) (p : Precision) : (b.written p).text p = b.text p := by
  cases b with
  | nan => rfl
  | infinite negative => rfl
  | finite negative size =>
    cases rounded : size.roundTo? p.significantDigits with
    | none => simp only [written, text, rounded]
    | some r =>
      rw [← text_shown rounded]
      simp only [written, rounded]

theorem binary64?_text (stored : b.IsStored) (p : Precision) :
    Text.binary64? (b.text p) = some (b.written p) := by
  cases b with
  | nan => exact Text.binary64?_nan
  | infinite negative => exact Text.binary64?_infinite negative
  | finite negative size =>
    cases rounded : size.roundTo? p.significantDigits with
    | none =>
      simp only [text, written, rounded]
      exact Text.binary64?_infinite negative
    | some r =>
      have canonical := Size.canonical_of_roundTo? stored rounded
      by_cases zero : r.mantissa = 0
      · have unsigned : shown negative .zero = .finite false .zero := by
          rw [shown, decide_eq_false (by decide), Bool.and_false]
        simp only [text, written, rounded, if_pos zero]
        rw [Size.eq_zero_of_mantissa canonical zero, unsigned]
        exact Text.binary64?_zero
      · have read : (r.numeral.number negative).decimal.toSize? = some r := by
          rw [Decimal.toSize?_congr (r.numeral_value negative), Size.toSize?_shortest canonical zero]
        rw [text_finite rounded zero, ← r.numeral_text, Text.binary64?_numeral r.numeral_isWellFormed, read]
        simp [written, shown, rounded, zero, ofNearest]

/-- Only zeros are written as `0`. -/
theorem text_eq_zero_iff (stored : b.IsStored) (p : Precision) :
    b.text p = ['0'] ↔ ∃ negative s, b = .finite negative s ∧ s.mantissa = 0 := by
  constructor
  · intro same
    have read := binary64?_text stored p
    rw [same, Text.binary64?_zero, Option.some.injEq] at read
    cases b with
    | nan => cases read
    | infinite negative => cases read
    | finite negative size =>
      refine ⟨negative, size, rfl, ?_⟩
      by_contra nonzero
      cases rounded : size.roundTo? p.significantDigits with
      | none => simp [written, rounded] at read
      | some r =>
        have digits : 2 ≤ p.significantDigits := le_trans (by decide) (significantDigits_bounds p).1
        have kept := Size.mantissa_ne_zero_of_roundTo? stored nonzero digits rounded
        simp only [written, rounded, shown, finite.injEq] at read
        rw [← read.2] at kept
        exact kept rfl
  · rintro ⟨negative, s, rfl, zero⟩
    simp only [text, Size.roundTo?, if_pos zero]

def isNegative : Binary64 → Bool
  | .nan => false
  | .infinite negative => negative
  | .finite negative _ => negative

/-- Texts of opposite doubles are one text behind their signs. -/
theorem exists_text_opposite (stored : b.IsStored) (number : b ≠ .nan)
    (nonzero : ∀ negative s, b = .finite negative s → s.mantissa ≠ 0) (p : Precision) :
    ∃ t, b.text p = signText b.isNegative ++ t ∧ b.opposite.text p = signText (!b.isNegative) ++ t := by
  cases b with
  | nan => exact absurd rfl number
  | infinite negative => exact ⟨_, rfl, rfl⟩
  | finite negative size =>
    have some_size := nonzero negative size rfl
    cases rounded : size.roundTo? p.significantDigits with
    | none =>
      refine ⟨"inf".toList, ?_, ?_⟩
      · simp only [text, rounded, isNegative]
      · simp only [text, opposite, rounded, isNegative]
    | some r =>
      have digits : 2 ≤ p.significantDigits := le_trans (by decide) (significantDigits_bounds p).1
      have kept := Size.mantissa_ne_zero_of_roundTo? stored some_size digits rounded
      exact ⟨r.text, text_finite rounded kept, text_finite rounded kept⟩

end Binary64

open Binary64

theorem side_of_isNegative {x : Float} (number : ofFloat x ≠ .nan)
    (nonzero : ∀ negative s, ofFloat x = .finite negative s → s.mantissa ≠ 0) :
    (ofFloat x).isNegative = false ∧ 0.0 < x ∨ (ofFloat x).isNegative = true ∧ x < 0.0 := by
  cases found : ofFloat x with
  | nan => exact absurd found number
  | infinite negative =>
    cases negative with
    | false => exact .inl ⟨rfl, zero_lt_of_infinite found⟩
    | true => exact .inr ⟨rfl, lt_zero_of_infinite found⟩
  | finite negative size =>
    cases negative with
    | false => exact .inl ⟨rfl, zero_lt_of_finite found (nonzero _ _ found)⟩
    | true => exact .inr ⟨rfl, lt_zero_of_finite found (nonzero _ _ found)⟩

theorem numberText_neg {x : Float} (nonzero : (x == 0.0) = false) (number : x.isNaN = false) (p : Precision) :
    0.0 < x ∧ numberText p (-x) = '-' :: numberText p x ∨
      x < 0.0 ∧ numberText p x = '-' :: numberText p (-x) := by
  have some_number := (isNaN_eq_false_iff x).mp number
  have some_size : ∀ negative s, ofFloat x = .finite negative s → s.mantissa ≠ 0 := by
    intro negative s found zero
    rw [(beq_zero_iff x).mpr ⟨negative, s, found, zero⟩] at nonzero
    cases nonzero
  obtain ⟨t, own, other⟩ := exists_text_opposite (isStored_ofFloat x) some_number some_size p
  simp only [numberText, ofFloat_neg]
  rw [own, other]
  rcases side_of_isNegative some_number some_size with ⟨sign, above⟩ | ⟨sign, below⟩
  · rw [sign]
    exact .inl ⟨above, rfl⟩
  · rw [sign]
    exact .inr ⟨below, rfl⟩

/-- The text of a double is read as a double that is written with the same text. It is `0` for the two zeros
alone, and for every other number the text of the opposite one differs by a sign in front. -/
theorem numberText_stable (p : Precision) (x : Float) :
    (∃ y, Text.double? (numberText p x) = some y ∧ numberText p y = numberText p x) ∧
    (numberText p x = ['0'] ↔ (x == 0.0) = true) ∧
    ((x == 0.0) = false → x.isNaN = false →
      0.0 < x ∧ numberText p (-x) = '-' :: numberText p x ∨
        x < 0.0 ∧ numberText p x = '-' :: numberText p (-x)) := by
  have stored := isStored_ofFloat x
  refine ⟨⟨((ofFloat x).written p).toFloat, ?_, ?_⟩, ?_, fun nonzero number => numberText_neg nonzero number p⟩
  · rw [Text.double?, numberText, binary64?_text stored, Option.map_some]
  · rw [numberText, ofFloat_toFloat (isStored_written stored p), text_written, numberText]
  · rw [numberText, text_eq_zero_iff stored, beq_zero_iff]

theorem numberText_stable_least :
    ((-5e-324 : Float) == 0.0) = false ∧ (-5e-324 : Float).isNaN = false ∧
    (∃ y, Text.double? (numberText .single (-5e-324)) = some y ∧ numberText .single y = "-5e-324".toList) ∧
    (-5e-324 : Float) < 0.0 ∧ numberText .single (-5e-324) = '-' :: numberText .single (-(-5e-324)) := by
  have nonzero : ((-5e-324 : Float) == 0.0) = false := by decide +kernel
  have number : (-5e-324 : Float).isNaN = false := by decide +kernel
  have text : numberText .single (-5e-324) = "-5e-324".toList := by decide +kernel
  obtain ⟨⟨y, read, same⟩, -, sides⟩ := numberText_stable .single (-5e-324)
  have above : ¬(0.0 : Float) < -5e-324 := by decide +kernel
  exact ⟨nonzero, number, ⟨y, read, same.trans text⟩,
    (sides nonzero number).resolve_left fun side => above side.1⟩

end Metrology

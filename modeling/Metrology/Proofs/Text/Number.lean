import Metrology.Proofs.Decimal.Exact
import Metrology.Proofs.Json.Document
import Metrology.Proofs.Json.Layout

namespace Metrology

namespace Decimal

variable {d : Decimal} {f : Fraction} {count : Nat} {x : ℚ}

/-- The decimal is on the grid of so many digits in the decade of a positive number, and nearest to it there;
of two nearest ones it has the even last digit. -/
structure IsRoundingOf (count : Nat) (x : ℚ) (d : Decimal) : Prop where
  low : (10 : ℚ) ^ ((count : Int) - 1 + d.exponent) ≤ x
  high : x < (10 : ℚ) ^ (count + d.exponent)
  nearest : WithinTies d.digits (d.digits - 1 / 2) (d.digits + 1 / 2) (x / (10 : ℚ) ^ d.exponent)

theorem digits_round_eq_iff (den_pos : 0 < f.den) (digits : Nat) :
    (round count f).digits = digits ↔
      WithinTies digits (digits - 1 / 2) (digits + 1 / 2) (f.value / (10 : ℚ) ^ gridExponent count f) := by
  rw [← value_scaled]
  exact Fraction.round_eq_iff (Fraction.den_shift_pos den_pos (by norm_num) _) digits

theorem isRoundingOf_iff (num_pos : 0 < f.num) (den_pos : 0 < f.den) :
    IsRoundingOf count f.value d ↔ d = round count f := by
  obtain ⟨low, high⟩ := Fraction.floorLog10_spec num_pos den_pos
  have grid : gridExponent count f = f.floorLog10 - count + 1 := rfl
  constructor
  · intro rounding
    have least := (zpow_lt_zpow_iff_right₀ (by norm_num)).mp (low.trans_lt rounding.high)
    have greatest := (zpow_lt_zpow_iff_right₀ (by norm_num)).mp (rounding.low.trans_lt high)
    have exponent : d.exponent = gridExponent count f := by omega
    have nearest := rounding.nearest
    rw [exponent, ← digits_round_eq_iff den_pos] at nearest
    calc d = ⟨d.digits, d.exponent⟩ := rfl
      _ = round count f := by rw [← nearest, exponent]; rfl
  · rintro rfl
    have exponent : (round count f).exponent = f.floorLog10 - count + 1 := rfl
    refine ⟨?_, ?_, (digits_round_eq_iff den_pos _).mp rfl⟩
    · rw [exponent]
      convert low using 2
      omega
    · rw [exponent]
      convert high using 2
      omega

end Decimal

/-- A numeral of a positive number with at most so many significant digits and no zero at the end of the
fraction. Below a thousandth and from a million upwards it has an exponent and one digit before the point. -/
structure Json.Numeral.Shows (n : Json.Numeral) (count : Nat) (x : ℚ) : Prop where
  wellFormed : n.IsWellFormed
  value : ∀ negative, (n.number negative).decimal.value = x
  significant : n.significant.length ≤ count
  trimmed : n.fraction.getLast? ≠ some '0'
  plain : n.exponent? = none ↔ (10 : ℚ) ^ (-3 : Int) ≤ x ∧ x < (10 : ℚ) ^ (6 : Int)
  scientific : n.exponent? ≠ none → n.IsScientific

theorem digitCount_le_of_ends {n count : Nat} (some_digit : 0 < count) (few : n ≤ 10 ^ count)
    (ends : n % 10 ≠ 0) : digitCount n ≤ count := by
  by_contra more
  have power := (digitCount_spec n).1 (by omega)
  have reached : 10 ^ count ≤ 10 ^ (digitCount n - 1) := Nat.pow_le_pow_right (by norm_num) (by omega)
  have full : n = 10 ^ count := le_antisymm few (reached.trans power)
  rw [full] at ends
  exact ends (Nat.mod_eq_zero_of_dvd (dvd_pow_self 10 some_digit.ne'))

namespace Binary64

namespace Size

variable {r : Size} {d : Decimal} {count : Nat}

theorem StandsFor.digitCount_le (stands : r.StandsFor count d) (some_digit : 0 < count) :
    digitCount d.trim.digits ≤ count :=
  digitCount_le_of_ends some_digit (d.digits_trim_le.trans stands.digits)
    (Decimal.trim_ends stands.digits_ne_zero)

/-- Plain notation is for decimals from a thousandth to below a million. -/
theorem StandsFor.isBetween_iff (stands : r.StandsFor count d) (few : count ≤ 15) :
    r.isBetween positionalFloor positionalCeiling = true ↔
      (10 : ℚ) ^ (-3 : Int) ≤ d.value ∧ d.value < (10 : ℚ) ^ (6 : Int) := by
  have digits : 10 ^ count ≤ 10 ^ 15 := Nat.pow_le_pow_right (by norm_num) few
  have one : 1 ≤ 10 ^ count := Nat.one_le_pow _ _ (by norm_num)
  have floor : positionalFloor.toSize? = some ⟨4611686018427388, -62⟩ := by decide +kernel
  have ceiling : positionalCeiling.toSize? = some ⟨8589934592000000, -33⟩ := by decide +kernel
  have lower := (standsFor_of_toSize? floor one (digits.trans_lt (by norm_num))).bits_le_iff stands
  have upper := (standsFor_of_toSize? ceiling one (digits.trans_lt (by norm_num))).bits_le_iff stands
  have thousandth : positionalFloor.value = (10 : ℚ) ^ (-3 : Int) := by simp [Decimal.value, positionalFloor]
  have million : positionalCeiling.value = (10 : ℚ) ^ (6 : Int) := by simp [Decimal.value, positionalCeiling]
  rw [thousandth] at lower
  rw [million] at upper
  simp only [isBetween, floor, ceiling, decide_eq_true_eq]
  rw [lower, ← not_le, upper, not_le]

theorem pointPlace_le (nonzero : d.digits ≠ 0) (below : d.value < (10 : ℚ) ^ (6 : Int)) :
    d.pointPlace ≤ 6 := by
  have low := (Decimal.value_bounds nonzero).1.trans_lt below
  have places := (zpow_lt_zpow_iff_right₀ (by norm_num)).mp low
  rw [Decimal.pointPlace]
  omega

theorem StandsFor.numeral_shows (stands : r.StandsFor count d) (some_digits : 6 ≤ count) (few : count ≤ 15)
    (shortest : r.shortest = d.trim) : r.numeral.Shows count d.value := by
  have nonzero := stands.digits_ne_zero
  have ends := Decimal.trim_ends nonzero
  have digits := stands.digitCount_le (by omega)
  have between := stands.isBetween_iff few
  have kept : d.trim.digits ≠ 0 := fun zero => ends (by rw [zero])
  have same := d.value_trim
  refine ⟨r.numeral_isWellFormed, fun negative => ?_, ?_, ?_, ?_, ?_⟩
  · rw [r.numeral_value negative, shortest, same]
  · unfold numeral
    rw [shortest]
    split
    · next plain =>
      have places := pointPlace_le kept (same ▸ (between.mp plain).2)
      have length := Decimal.positionalNumeral_significant kept
      omega
    · exact (Decimal.scientificNumeral_significant _).trans digits
  · unfold numeral
    rw [shortest]
    split
    · exact Decimal.positionalNumeral_fraction ends
    · exact Decimal.scientificNumeral_fraction ends
  · rw [← between, numeral]
    split
    · next plain => exact iff_of_true (Decimal.positionalNumeral_exponent? _) plain
    · next outside => exact iff_of_false (Option.some_ne_none _) outside
  · rw [numeral, shortest]
    split
    · exact fun shown => absurd (Decimal.positionalNumeral_exponent? _) shown
    · exact fun _ => Decimal.scientificNumeral_isScientific kept

end Size

end Binary64

def IsRounded (count : Nat) (x y : ℚ) : Prop :=
  ∃ d : Decimal, d.IsRoundingOf count |x| ∧ y = signed (decide (x < 0)) d.value

theorem existsUnique_isRounded (count : Nat) {x : ℚ} (nonzero : x ≠ 0) : ∃! y, IsRounded count x y := by
  obtain ⟨f, num_pos, den_pos, same⟩ := Fraction.exists_value_eq (abs_pos.mpr nonzero)
  have rounding : ∀ d, Decimal.IsRoundingOf count f.value d ↔ d = Decimal.round count f :=
    fun d => Decimal.isRoundingOf_iff num_pos den_pos
  rw [same] at rounding
  refine ⟨_, ⟨_, (rounding _).mpr rfl, rfl⟩, ?_⟩
  rintro y ⟨d, other, rfl⟩
  rw [(rounding d).mp other]

namespace Binary64

def value? : Binary64 → Option ℚ
  | .finite negative size => some (signed negative size.value)
  | _ => none

end Binary64

def Json.Number.value (n : Json.Number) : ℚ := signed n.negative n.decimal.value

/-- A normal double with its exact value and with its rounding to the digits of a precision, to which some
double is nearest. -/
structure IsShownAs (p : Precision) (x : Float) (value rounded : ℚ) : Prop where
  stored : (Binary64.ofFloat x).value? = some value
  normal : (2 : ℚ) ^ (-1022 : Int) ≤ |value|
  rounding : IsRounded p.significantDigits value rounded
  finite : ∃ r : Binary64.Size, r.Canonical ∧ r.IsNearest |rounded|

open Binary64 (Size)

variable {p : Precision} {x x' : Float} {v v' y y' : ℚ}

theorem significantDigits_bounds (p : Precision) : 6 ≤ p.significantDigits ∧ p.significantDigits ≤ 15 := by
  cases p <;> decide

theorem exists_finite_of_value? {b : Binary64} (stored : b.value? = some v) :
    ∃ negative s, b = .finite negative s ∧ v = signed negative s.value := by
  cases b with
  | nan => cases stored
  | infinite negative => cases stored
  | finite negative s => exact ⟨negative, s, rfl, (Option.some.inj stored).symm⟩

theorem text_finite {negative : Bool} {s r : Size} (rounded : s.roundTo? p.significantDigits = some r)
    (nonzero : r.mantissa ≠ 0) : (Binary64.finite negative s).text p = signText negative ++ r.text := by
  simp only [Binary64.text, rounded, if_neg nonzero]

theorem IsShownAs.exists_standsFor (shown : IsShownAs p x v y) :
    ∃ (r : Size) (d : Decimal), r.StandsFor p.significantDigits d ∧ r.shortest = d.trim ∧
      y = signed (decide (v < 0)) d.value ∧ numberText p x = signText (decide (v < 0)) ++ r.text := by
  obtain ⟨some_digits, few⟩ := significantDigits_bounds p
  obtain ⟨stored, normal, ⟨d, rounding, rfl⟩, r, canonical, near⟩ := shown
  obtain ⟨negative, s, found, rfl⟩ := exists_finite_of_value? stored
  have some_digit : 0 < p.significantDigits := by omega
  have nonzero : s.mantissa ≠ 0 := by
    intro zero
    have nothing : signed negative s.value = 0 := by simp [signed, Size.value, zero]
    rw [nothing, abs_zero] at normal
    exact absurd normal (not_le.mpr (by positivity))
  have positive := Size.value_pos nonzero
  rw [abs_signed _ positive.le] at normal rounding
  rw [← Size.value_fraction,
    Decimal.isRoundingOf_iff (Size.num_fraction_pos nonzero) s.den_fraction_pos] at rounding
  subst rounding
  have half := Size.half_le_value_round nonzero some_digit
  rw [abs_signed _ (by linarith)] at near
  have stands := Size.standsFor_round nonzero normal some_digit few canonical near
  have rounded : s.roundTo? p.significantDigits = some r := by
    rw [Size.roundTo?, if_neg nonzero, Decimal.toSize?_eq_some_iff]
    exact ⟨canonical, near⟩
  refine ⟨r, _, stands, stands.shortest_eq_trim_round nonzero some_digit (by omega), rfl, ?_⟩
  rw [numberText, found, decide_signed_lt _ positive, text_finite rounded (Nat.ne_zero_of_lt stands.many)]

theorem head?_text_ne_minus {n : Json.Numeral} (wf : n.IsWellFormed) : n.text.head? ≠ some '-' := by
  obtain ⟨c, digits, whole⟩ := List.exists_cons_of_ne_nil wf.whole_ne_nil
  have digit := wf.whole_digits c (by rw [whole]; exact List.mem_cons_self)
  rw [Json.Numeral.text, whole]
  rintro ⟨⟩
  cases digit

theorem head?_signed_text {n : Json.Numeral} (wf : n.IsWellFormed) (negative : Bool) :
    (signText negative ++ n.text).head? = some '-' ↔ negative = true := by
  cases negative with
  | true => exact iff_of_true rfl rfl
  | false => exact iff_of_false (head?_text_ne_minus wf) Bool.false_ne_true

/-- The text is a numeral of the rounded number behind the sign of the exact one. -/
theorem IsShownAs.exists_numeral (shown : IsShownAs p x v y) :
    ∃ n : Json.Numeral, n.Shows p.significantDigits |y| ∧
      numberText p x = signText (decide (v < 0)) ++ n.text ∧
      (n.number (decide (v < 0))).value = y := by
  obtain ⟨some_digits, few⟩ := significantDigits_bounds p
  obtain ⟨r, d, stands, shortest, rfl, text⟩ := shown.exists_standsFor
  have shows := stands.numeral_shows some_digits few shortest
  rw [abs_signed _ stands.value_pos.le]
  refine ⟨r.numeral, shows, by rw [text, r.numeral_text], ?_⟩
  rw [Json.Number.value, shows.value]
  rfl

theorem IsShownAs.parse?_text (shown : IsShownAs p x v y) :
    ∃ n, Json.parse? (numberText p x) = some (.number n) ∧ n.value = y := by
  obtain ⟨n, shows, text, value⟩ := shown.exists_numeral
  refine ⟨_, ?_, value⟩
  rw [text]
  exact Json.parse?_of_reads (Json.reads_numeral shows.wellFormed _)

theorem IsShownAs.text_eq_iff (shown : IsShownAs p x v y) (shown' : IsShownAs p x' v' y') :
    numberText p x = numberText p x' ↔ y = y' := by
  constructor
  · intro same
    obtain ⟨n, read, value⟩ := shown.parse?_text
    obtain ⟨n', read', value'⟩ := shown'.parse?_text
    rw [same, read'] at read
    cases read
    exact value.symm.trans value'
  · intro same
    obtain ⟨r, d, stands, -, value, text⟩ := shown.exists_standsFor
    obtain ⟨r', d', stands', -, value', text'⟩ := shown'.exists_standsFor
    have sign : decide (v < 0) = decide (v' < 0) := by
      rw [← decide_signed_lt (decide (v < 0)) stands.value_pos, ← value, same, value',
        decide_signed_lt _ stands'.value_pos]
    have values : d.value = d'.value := by
      rw [← abs_signed (decide (v < 0)) stands.value_pos.le, ← value, same, value',
        abs_signed _ stands'.value_pos.le]
    have near := stands.near
    rw [values] at near
    rw [text, text', sign,
      Size.eq_of_isNearest stands.canonical stands'.canonical stands'.value_pos near stands'.near]

/-- The text of a normal double shows the decimal that the double is rounded to, wherever this decimal has a
nearest double, and two of them have one text exactly if they are rounded to one decimal. -/
theorem numberText_exact (p : Precision) :
    (∀ v, v ≠ 0 → ∃! y, IsRounded p.significantDigits v y) ∧
    (∀ x v y, IsShownAs p x v y →
      (∃ n : Json.Numeral, n.Shows p.significantDigits |y| ∧
        numberText p x = signText (decide (v < 0)) ++ n.text) ∧
      (∃ n, Json.parse? (numberText p x) = some (.number n) ∧ n.value = y) ∧
      ((numberText p x).head? = some '-' ↔ v < 0)) ∧
    ∀ x v y x' v' y', IsShownAs p x v y → IsShownAs p x' v' y' →
      (numberText p x = numberText p x' ↔ y = y') := by
  refine ⟨fun v => existsUnique_isRounded _, fun x v y shown => ⟨?_, shown.parse?_text, ?_⟩,
    fun x v y x' v' y' => IsShownAs.text_eq_iff⟩
  · obtain ⟨n, shows, text, -⟩ := shown.exists_numeral
    exact ⟨n, shows, text⟩
  · obtain ⟨n, shows, text, -⟩ := shown.exists_numeral
    rw [text, head?_signed_text shows.wellFormed, decide_eq_true_eq]

theorem numberText_exact_ten :
    IsShownAs .single 9.9999997 (5629499365328134 * (2 : ℚ) ^ (-49 : Int)) 10 ∧
    IsShownAs .single 10.000001 (5629500097163073 * (2 : ℚ) ^ (-49 : Int)) 10 ∧
    (∃ n, Json.parse? (numberText .single 9.9999997) = some (.number n) ∧ n.value = 10) ∧
    numberText .single 9.9999997 = numberText .single 10.000001 := by
  have ten : ∃ r : Size, r.Canonical ∧ r.IsNearest |10| := by
    have value : (10 : ℚ) = (⟨5629499534213120, -49⟩ : Size).value := by decide +kernel
    rw [abs_of_pos (by norm_num), value]
    refine ⟨⟨5629499534213120, -49⟩, ?_, Size.isNearest_value _⟩
    simp [Size.Canonical, Binary64.leadingBit, Binary64.leastExponent, Binary64.greatestExponent]
  have below : IsShownAs .single 9.9999997 (5629499365328134 * (2 : ℚ) ^ (-49 : Int)) 10 := by
    refine ⟨by decide +kernel, by decide +kernel, ⟨⟨1000000, -5⟩, ⟨?_, ?_, ?_⟩, by decide +kernel⟩, ten⟩
    · decide +kernel
    · decide +kernel
    · exact (WithinTies.iff_of_even (by decide)).mpr (by decide +kernel)
  have above : IsShownAs .single 10.000001 (5629500097163073 * (2 : ℚ) ^ (-49 : Int)) 10 := by
    refine ⟨by decide +kernel, by decide +kernel, ⟨⟨100000, -4⟩, ⟨?_, ?_, ?_⟩, by decide +kernel⟩, ten⟩
    · decide +kernel
    · decide +kernel
    · exact (WithinTies.iff_of_even (by decide)).mpr (by decide +kernel)
  obtain ⟨-, shown, same⟩ := numberText_exact .single
  exact ⟨below, above, (shown _ _ _ below).2.1, (same _ _ _ _ _ _ below above).mpr rfl⟩

end Metrology

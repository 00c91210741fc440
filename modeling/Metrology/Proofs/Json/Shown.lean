import Metrology.Json.Form
import Metrology.Proofs.Binary64.Stored
import Metrology.Proofs.Decimal.Stable
import Metrology.Proofs.Json.Document
import Metrology.Proofs.Spelling.Rows

namespace Metrology

namespace Binary64

namespace Size

variable {s r : Size} {count : Nat}

theorem canonical_of_roundTo? (canonical : s.Canonical) (rounded : s.roundTo? count = some r) :
    r.Canonical := by
  unfold roundTo? at rounded
  split at rounded
  · cases rounded
    exact canonical
  · exact ((Decimal.toSize?_eq_some_iff _ _).mp rounded).1

end Size

def shown (negative : Bool) (r : Size) : Binary64 := .finite (negative && decide (r.mantissa ≠ 0)) r

theorem text_shown {p : Precision} {negative : Bool} {size r : Size}
    (rounded : size.roundTo? p.significantDigits = some r) :
    (shown negative r).text p = (Binary64.finite negative size).text p := by
  have digits : 0 < p.significantDigits ∧ p.significantDigits ≤ 15 := by cases p <;> decide
  have again := Size.roundTo?_roundTo? digits.1 digits.2 rounded
  rw [shown, text, text, rounded, again]
  by_cases zero : r.mantissa = 0
  · simp only [zero, if_true]
  · simp [zero]

end Binary64

namespace Json

theorem text?_points (text : List Char) : Points.text? (points text) = some (String.ofList text) := by
  have chars : (text.map Char.toNat).mapM
      (fun point : Nat => if point.isValidChar then some (Char.ofNat point) else none) = some text := by
    induction text with
    | nil => rfl
    | cons c text ih =>
        have valid : c.toNat.isValidChar := c.valid
        simp only [List.map_cons, List.mapM_cons, if_pos valid, Char.ofNat_toNat, Option.bind_eq_bind,
          Option.bind_some, ih]
        rfl
  rw [Points.text?, points, chars]
  rfl

namespace Form

theorem read?_document {f : Family} (u : f.Unit) (value : Json) :
    (reading f).read? (Measurement.document u value) =
      (double.read? value).map fun number => ⟨number, u.abbreviation⟩ := by
  have keyed : keyed? [(points "value".toList, value),
      (points "unit".toList, .string (points u.abbreviation.toList))] =
      some [("value", value), ("unit", .string (points u.abbreviation.toList))] := by
    simp only [keyed?, List.mapM_cons, List.mapM_nil, text?_points, Option.map_some, String.ofList_toList]
    rfl
  have fields : fields? ["value", "unit"] (Measurement.document u value) =
      some [value, .string (points u.abbreviation.toList)] := by
    rw [Measurement.document, fields?, keyed]
    rfl
  have unit : (Json.string (points u.abbreviation.toList)).text? = some u.abbreviation := by
    rw [Json.text?, text?_points, String.ofList_toList]
  simp only [reading, fields, Option.bind_eq_bind, Option.bind_some, unit]
  cases double.read? value <;> rfl

theorem read?_number {p : Precision} (negative : Bool) {size r : Binary64.Size} (canonical : size.Canonical)
    (rounded : size.roundTo? p.significantDigits = some r) :
    (ofDouble? p (.finite negative size)).bind double.read? = some (Binary64.shown negative r).toFloat := by
  have kept := Binary64.Size.canonical_of_roundTo? canonical rounded
  rw [ofDouble?, rounded, Option.map_some, Option.bind_some]
  split
  · next zero =>
    have unsigned : Binary64.shown negative .zero = .finite false .zero := by
      rw [Binary64.shown, decide_eq_false (by decide), Bool.and_false]
    rw [Binary64.Size.eq_zero_of_mantissa kept zero, unsigned]
    rfl
  · next nonzero =>
    have read : (r.numeral.number negative).decimal.toSize? = some r := by
      rw [Decimal.toSize?_congr (r.numeral_value negative), Binary64.Size.toSize?_shortest kept nonzero]
    change ((r.numeral.number negative).decimal.toSize?.map _) = _
    rw [read, Option.map_some, Binary64.shown]
    simp [nonzero, Numeral.number]

end Form

end Json

/-- Wherever the value in the unit is finite and its rounding is, too, the JSON text is read as a reading with
the abbreviation of the unit, which names this unit, and with the rounded value, zero without a sign; and this
value is written with the same text again. -/
theorem json_reads_back {f : Family} (q : Measurement f .scalar Float) (u : f.Unit) (p : Precision)
    {negative : Bool} {size r : Binary64.Size}
    (finite : Binary64.ofFloat (q.valueIn u).toNumber = .finite negative size)
    (rounded : size.roundTo? p.significantDigits = some r) :
    ∃ reading : Reading f Float,
      (Json.parse? (q.json u p)).bind (Json.Form.reading f).read? = some reading ∧
      reading.unit = u.abbreviation ∧
      f.named.parse? reading.unit = some u ∧
      Binary64.ofFloat reading.value = Binary64.shown negative r ∧
      reading.value = (Binary64.shown negative r).toFloat ∧
      numberText p reading.value = numberText p (q.valueIn u).toNumber := by
  have canonical := (Binary64.ofFloat_eq_finite finite).1
  have kept := Binary64.Size.canonical_of_roundTo? canonical rounded
  have stored : Binary64.ofFloat (Binary64.shown negative r).toFloat = Binary64.shown negative r :=
    Binary64.ofFloat_toFloat_finite kept _
  refine ⟨⟨(Binary64.shown negative r).toFloat, u.abbreviation⟩, ?_, rfl, Family.parse?_abbreviation u, stored,
    rfl, ?_⟩
  · have document : (q.valueIn u).document? p = Json.ofDouble? p (.finite negative size) := by
      rw [← finite]
      cases q.valueIn u
      rfl
    obtain ⟨number, written, read⟩ :=
      Option.bind_eq_some_iff.mp (Json.Form.read?_number negative canonical rounded)
    rw [Json.parse?_of_reads (q.reads_json u p), document, written, Option.map_some, Option.bind_some,
      Json.Form.read?_document, read, Option.map_some]
  · rw [numberText, numberText, stored, finite, Binary64.text_shown rounded]

theorem json_reads_back_yards :
    Binary64.ofFloat
        ((⟨.scalar (-1.23)⟩ : Measurement .length .scalar Float).valueIn ⟨⟨9, by decide⟩⟩).toNumber =
      .finite true ⟨6057991624743777, -52⟩ ∧
    Binary64.Size.roundTo? ⟨6057991624743777, -52⟩ Precision.single.significantDigits =
      some ⟨6057972002761149, -52⟩ ∧
    ∃ reading : Reading .length Float,
      (Json.parse? ((⟨.scalar (-1.23)⟩ : Measurement .length .scalar Float).json ⟨⟨9, by decide⟩⟩
        .single)).bind (Json.Form.reading .length).read? = some reading ∧
      reading.unit = "yd" ∧ numberText .single reading.value = "-1.34514".toList := by
  have finite : Binary64.ofFloat
      ((⟨.scalar (-1.23)⟩ : Measurement .length .scalar Float).valueIn ⟨⟨9, by decide⟩⟩).toNumber =
      .finite true ⟨6057991624743777, -52⟩ := by
    decide
  have rounded : Binary64.Size.roundTo? ⟨6057991624743777, -52⟩ Precision.single.significantDigits =
      some ⟨6057972002761149, -52⟩ := by
    decide +kernel
  obtain ⟨reading, read, unit, -, -, -, again⟩ := json_reads_back _ _ _ finite rounded
  refine ⟨finite, rounded, reading, read, unit, ?_⟩
  rw [again]
  decide +kernel

end Metrology

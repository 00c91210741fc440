import Metrology.Proofs.Json.Record

namespace Metrology

namespace Binary64

theorem toBits_ofFloat {x : Float} (finite : (ofFloat x).isFinite = true) : (ofFloat x).toBits = x.toBits := by
  have below := x.toBits.toNat_lt
  rw [← UInt64.toNat_inj]
  unfold ofFloat ofBits at finite ⊢
  dsimp only at finite ⊢
  split
  · rw [toBits, Size.bits_ofBits, UInt64.toNat_ofNat']
    simp only [decide_eq_true_eq]
    split <;> simp only [signBit] at * <;> omega
  · next outside =>
    rw [if_neg outside] at finite
    split at finite <;> cases finite

theorem toFloat_ofFloat {x : Float} (finite : (ofFloat x).isFinite = true) : (ofFloat x).toFloat = x := by
  rw [toFloat, toBits_ofFloat finite, Float.ofBits_toBits]

end Binary64

theorem Family.names_nodup (f : Family) : (f.units.map Unit.name).Nodup := by
  cases f <;> decide +kernel

theorem Family.Unit.name_injective (f : Family) : Function.Injective (Unit.name (f := f)) := by
  intro u v same
  exact List.inj_on_of_nodup_map f.names_nodup (mem_units u) (mem_units v) same

namespace Json.Form

variable {β : Type}

def RoundTrips (form : Form β) : Prop := ∀ x, form.read? (form.write x) = some x

/-- A value is read again from what it is written as if the doubles in it are finite, and nothing is read
otherwise. -/
def RoundTripsFinite (form : Form β) (doubles : β → List Float) : Prop :=
  ∀ x, form.read? (form.write x) =
    if (doubles x).all fun y => (Binary64.ofFloat y).isFinite then some x else none

theorem ofNames_roundTrips {values : List β} {name : β → String} (all : ∀ x, x ∈ values)
    (distinct : Function.Injective name) : (ofNames values name).RoundTrips := by
  intro x
  have text : (points (name x).toList).text? = some (name x) := by
    rw [text?_points, String.ofList_toList]
  have present : (values.find? fun value => name value == name x).isSome = true := by
    rw [List.find?_isSome]
    exact ⟨x, all x, beq_self_eq_true _⟩
  obtain ⟨first, found⟩ := Option.isSome_iff_exists.mp present
  have same : first = x := distinct (eq_of_beq (List.find?_some found :))
  change ((points (name x).toList).text?.bind fun text => values.find? fun y => name y == text) = some x
  rw [text, Option.bind_some, found, same]

theorem unit_roundTrips (f : Family) : (unit f).RoundTrips :=
  ofNames_roundTrips Family.mem_units (Family.Unit.name_injective f)

theorem system_roundTrips : system.RoundTrips :=
  ofNames_roundTrips (by intro s; cases s <;> decide)
    (by intro s t; cases s <;> cases t <;> simp [UnitSystem.name])

theorem precision_roundTrips : precision.RoundTrips :=
  ofNames_roundTrips (by intro p; cases p <;> decide)
    (by intro p q; cases p <;> cases q <;> simp [Precision.name])

theorem exponent_roundTrips : exponent.RoundTrips := by
  intro n
  have low := n.le_toInt
  have high := n.toInt_lt
  have signed : (if n.toInt < 0 then -(n.toInt.natAbs : Int) else n.toInt.natAbs) = n.toInt := by
    split <;> omega
  have read : integer? ⟨n.toInt < 0, true, ⟨n.toInt.natAbs, 0⟩⟩ = some n.toInt := by
    rw [integer?, if_pos]
    · simpa using signed
    · simp
      omega
  change (integer? _).bind _ = _
  rw [read, Option.bind_some, if_pos ⟨by omega, by omega⟩, Int8.ofInt_toInt]

theorem write_finite {x : Float} {negative : Bool} {size : Binary64.Size}
    (found : Binary64.ofFloat x = .finite negative size) : double.write x = ofSize negative size := by
  simp only [double, found]

theorem write_not_finite {x : Float} (other : (Binary64.ofFloat x).isFinite = false) :
    double.write x = .null := by
  cases found : Binary64.ofFloat x with
  | nan => simp only [double, found]
  | infinite negative => simp only [double, found]
  | finite negative size =>
      rw [found] at other
      cases other

theorem write_eq_null_iff (x : Float) :
    double.write x = .null ↔ (Binary64.ofFloat x).isFinite = false := by
  refine ⟨fun null => ?_, write_not_finite⟩
  cases found : Binary64.ofFloat x with
  | nan => rfl
  | infinite negative => rfl
  | finite negative size =>
      rw [write_finite found] at null
      cases null

theorem double?_ofSize {negative : Bool} {size : Binary64.Size} (canonical : size.Canonical) :
    double.read? (ofSize negative size) = some (Binary64.finite negative size).toFloat := by
  have read : (if size.mantissa = 0 then ⟨0, 0⟩ else size.shortest : Decimal).toSize? = some size := by
    split
    · next zero =>
      rw [Binary64.Size.eq_zero_of_mantissa canonical zero]
      rfl
    · next nonzero => exact Binary64.Size.toSize?_shortest canonical nonzero
  change (Decimal.toSize? _).map _ = _
  rw [read]
  rfl

theorem double_roundTrips : double.RoundTripsFinite fun x => [x] := by
  intro x
  rw [List.all_cons, List.all_nil, Bool.and_true]
  split
  · next finite =>
    have same := Binary64.toFloat_ofFloat finite
    cases found : Binary64.ofFloat x with
    | finite negative size =>
        rw [found] at same
        rw [write_finite found, double?_ofSize (Binary64.ofFloat_eq_finite found).1, same]
    | nan =>
        rw [found] at finite
        cases finite
    | infinite negative =>
        rw [found] at finite
        cases finite
  · next other =>
    rw [write_not_finite (Bool.eq_false_iff.mpr other)]
    rfl

theorem ofList?_toList {α : Type} {s : Shape} (c : Container α s) : Container.ofList? s c.toList = some c := by
  cases c <;> rfl

theorem components_roundTrips (s : Shape) : (components s).RoundTripsFinite Container.toList := by
  intro c
  change ((c.toList.map double.write).mapM double.read?).bind (Container.ofList? s) = _
  split
  · next finite =>
    have restored : ∀ x ∈ c.toList, double.read? (double.write x) = some x := by
      intro x member
      have here := List.all_eq_true.mp finite x member
      rw [double_roundTrips x, List.all_cons, here]
      rfl
    rw [mapM_map restored, Option.bind_some, ofList?_toList]
  · next other =>
    obtain ⟨x, member, infinite⟩ : ∃ x ∈ c.toList, (Binary64.ofFloat x).isFinite = false := by
      simpa using other
    have null : Json.null ∈ c.toList.map double.write :=
      List.mem_map.mpr ⟨x, member, write_not_finite infinite⟩
    rw [mapM_eq_none null rfl]
    rfl

def dimensionSetKeys : List String := BaseDimension.all.map BaseDimension.key

theorem dimensionSetKeys_nodup : dimensionSetKeys.Nodup := by decide

theorem write_dimensionSet (d : DimensionSet) :
    dimensionSet.write d = record (dimensionSetKeys.zip (d.exponents.map exponent.write)) := rfl

def dimensionSetOf? (values : List Json) : Option DimensionSet :=
  (values.mapM exponent.read?).bind DimensionSet.ofList?

theorem read?_dimensionSet (json : Json) :
    dimensionSet.read? json = (fields? dimensionSetKeys json).bind dimensionSetOf? := rfl

theorem dimensionSet_isRecord : dimensionSet.IsRecord dimensionSetKeys :=
  isRecord_of_fields dimensionSetKeys_nodup
    (fun d => ⟨d.exponents.map exponent.write, rfl, write_dimensionSet d⟩) dimensionSetOf? read?_dimensionSet

theorem dimensionSet_roundTrips : dimensionSet.RoundTrips := by
  intro d
  have exponents : dimensionSetOf? (d.exponents.map exponent.write) = some d := by
    rw [dimensionSetOf?, mapM_map fun n _ => exponent_roundTrips n]
    rfl
  rw [write_dimensionSet, read?_dimensionSet, fields?_record dimensionSetKeys_nodup rfl, Option.bind_some,
    exponents]

def readingKeys : List String := ["value", "unit"]

theorem readingKeys_nodup : readingKeys.Nodup := by decide

variable {f : Family}

theorem write_reading (r : Reading f Float) :
    (reading f).write r = record (readingKeys.zip [double.write r.value, .ofString r.unit]) := rfl

def readingOf? (f : Family) : List Json → Option (Reading f Float)
  | [value, unit] => do return ⟨← double.read? value, ← unit.text?⟩
  | _ => none

theorem read?_reading (json : Json) :
    (reading f).read? json = (fields? readingKeys json).bind (readingOf? f) := rfl

theorem reading_isRecord (f : Family) : (reading f).IsRecord readingKeys :=
  isRecord_of_fields readingKeys_nodup (fun r => ⟨_, rfl, write_reading r⟩) (readingOf? f) read?_reading

theorem reading_roundTrips (f : Family) : (reading f).RoundTripsFinite fun r => [r.value] := by
  intro r
  have unit : (Json.ofString r.unit).text? = some r.unit :=
    (text?_points r.unit.toList).trans (congrArg some String.ofList_toList)
  have value := double_roundTrips r.value
  rw [write_reading, read?_reading, fields?_record readingKeys_nodup rfl, Option.bind_some, readingOf?, unit,
    value]
  split <;> rfl

def WrittenAs (x : Float) (json : Json) : Prop :=
  json = .null ↔ (Binary64.ofFloat x).isFinite = false

/-- Units, systems, precisions, exponents and dimensions are read again from what they are written as.
Containers and readings are if all their doubles are finite; otherwise these doubles are written as null and
nothing is read. Dimensions and readings are records. -/
theorem written_values_restored :
    (∀ f, (unit f).RoundTrips) ∧ system.RoundTrips ∧ precision.RoundTrips ∧ exponent.RoundTrips ∧
    dimensionSet.RoundTrips ∧ dimensionSet.IsRecord (BaseDimension.all.map BaseDimension.key) ∧
    (∀ s, (components s).RoundTripsFinite Container.toList ∧
      ∀ c, ∃ items, (components s).write c = .array items ∧ List.Forall₂ WrittenAs c.toList items) ∧
    ∀ f, (reading f).RoundTripsFinite (fun r => [r.value]) ∧ (reading f).IsRecord ["value", "unit"] ∧
      ∀ r, ∃ value, (reading f).write r = record [("value", value), ("unit", .ofString r.unit)] ∧
        WrittenAs r.value value := by
  refine ⟨unit_roundTrips, system_roundTrips, precision_roundTrips, exponent_roundTrips,
    dimensionSet_roundTrips, dimensionSet_isRecord, fun s => ⟨components_roundTrips s, fun c => ?_⟩,
    fun f => ⟨reading_roundTrips f, reading_isRecord f, fun r => ?_⟩⟩
  · refine ⟨c.toList.map double.write, rfl, ?_⟩
    rw [List.forall₂_map_right_iff, List.forall₂_same]
    exact fun x _ => write_eq_null_iff x
  · exact ⟨double.write r.value, rfl, write_eq_null_iff r.value⟩

theorem written_values_restored_negative_zero :
    (reading .length).read? (.object [(points "unit".toList, .ofString "m"), (points "note".toList, .null),
      (points "value".toList, double.write (-0.0))]) = some ⟨-0.0, "m"⟩ := by
  obtain ⟨-, -, -, -, -, -, -, readings⟩ := written_values_restored
  obtain ⟨restored, record, -⟩ := readings .length
  have unknown : ∀ member ∈ [(points "note".toList, Json.null)], IsUnknown ["value", "unit"] member := by
    rw [List.forall_mem_singleton]
    exact ⟨"note", text?_points _, by decide⟩
  have order : [(points "unit".toList, Json.ofString "m"), (points "note".toList, .null),
      (points "value".toList, double.write (-0.0))].Perm
      ([(points "value".toList, double.write (-0.0)), (points "unit".toList, .ofString "m")] ++
        [(points "note".toList, .null)]) :=
    (List.perm_append_comm : ([_, _] ++ [_]).Perm ([_] ++ [_, _]))
  have finite : (Binary64.ofFloat (-0.0)).isFinite = true := by decide
  have read := restored ⟨-0.0, "m"⟩
  rw [List.all_cons, finite] at read
  rw [record.regardless _ _ _ unknown order]
  exact read

end Json.Form

end Metrology

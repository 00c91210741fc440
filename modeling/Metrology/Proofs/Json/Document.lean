import Metrology.Dimensionless
import Metrology.Measurement.Basic
import Metrology.Proofs.Binary64.Stored
import Metrology.Proofs.Decimal.Overflow
import Metrology.Proofs.Json.Reading

namespace Metrology

namespace Binary64

theorem infinityBits_le_of_not_finite {x : Float} (other : (ofFloat x).isFinite = false) :
    infinityBits ≤ x.toBits.toNat % signBit := by
  unfold ofFloat ofBits at other
  dsimp only at other
  split at other
  · exact absurd other (by simp [isFinite])
  · next outside => exact Nat.le_of_not_lt outside

namespace Size

def numeral (s : Size) : Json.Numeral :=
  if s.isBetween positionalFloor positionalCeiling then s.shortest.positionalNumeral
  else s.shortest.scientificNumeral

theorem numeral_text (s : Size) : s.numeral.text = s.text := by
  unfold numeral text
  split
  · exact s.shortest.positionalNumeral_text
  · exact s.shortest.scientificNumeral_text

theorem numeral_isWellFormed (s : Size) : s.numeral.IsWellFormed := by
  unfold numeral
  split
  · exact Decimal.positionalNumeral_isWellFormed (Decimal.trim_isNormal _)
  · exact s.shortest.scientificNumeral_isWellFormed

theorem numeral_value (s : Size) (negative : Bool) :
    (s.numeral.number negative).decimal.value = s.shortest.value := by
  unfold numeral
  split
  · exact s.shortest.positionalNumeral_value negative
  · rw [s.shortest.scientificNumeral_decimal]

end Size

end Binary64

/-- One of the four greatest finite doubles, of either sign. -/
def IsOutermost (x : Float) : Prop :=
  Binary64.infinityBits - 4 ≤ x.toBits.toNat % Binary64.signBit ∧
    x.toBits.toNat % Binary64.signBit < Binary64.infinityBits

instance (x : Float) : Decidable (IsOutermost x) := inferInstanceAs (Decidable (_ ∧ _))

namespace Json

def ofDouble? (p : Precision) : Binary64 → Option Json
  | .nan => some .null
  | .infinite _ => some .null
  | .finite negative size => (size.roundTo? p.significantDigits).map fun rounded =>
      if rounded.mantissa = 0 then .number (Numeral.zero.number false)
      else .number (rounded.numeral.number negative)

theorem reads_jsonNumberText (p : Precision) (x : Float) :
    Reads (jsonNumberText p x) (ofDouble? p (.ofFloat x)) := by
  unfold jsonNumberText numberText
  cases Binary64.ofFloat x with
  | nan => exact reads_null
  | infinite negative => exact reads_null
  | finite negative size =>
      simp only [Binary64.isFinite, if_true, Binary64.text, ofDouble?]
      cases size.roundTo? p.significantDigits with
      | none => exact reads_inf negative
      | some rounded =>
          simp only [Option.map_some]
          split
          · exact reads_numeral Numeral.zero_isWellFormed false
          · rw [← rounded.numeral_text]
            exact reads_numeral rounded.numeral_isWellFormed negative

theorem ofDouble?_eq_none_iff (p : Precision) (x : Float) :
    ofDouble? p (.ofFloat x) = none ↔ p = .double ∧ IsOutermost x := by
  cases found : Binary64.ofFloat x with
  | finite negative size =>
      obtain ⟨canonical, bits, inside⟩ := Binary64.ofFloat_eq_finite found
      rw [ofDouble?, Option.map_eq_none_iff, Binary64.Size.roundTo?_eq_none_iff canonical, bits, IsOutermost]
      simp only [inside, and_true]
  | nan =>
      have outside := Binary64.infinityBits_le_of_not_finite (x := x) (by rw [found]; rfl)
      exact iff_of_false (Option.some_ne_none _) (fun both => absurd both.2.2 (Nat.not_lt.mpr outside))
  | infinite negative =>
      have outside := Binary64.infinityBits_le_of_not_finite (x := x) (by rw [found]; rfl)
      exact iff_of_false (Option.some_ne_none _) (fun both => absurd both.2.2 (Nat.not_lt.mpr outside))

/-- A component as it has to appear: `null` where it is not finite, a number otherwise. -/
def ShowsNumber (x : Float) (json : Json) : Prop :=
  if (Binary64.ofFloat x).isFinite then ∃ n, json = .number n else json = .null

theorem showsNumber_of_ofDouble? {p : Precision} {x : Float} {json : Json}
    (read : ofDouble? p (.ofFloat x) = some json) : ShowsNumber x json := by
  unfold ShowsNumber
  cases found : Binary64.ofFloat x with
  | nan =>
      rw [found] at read
      exact (Option.some.inj read).symm
  | infinite negative =>
      rw [found] at read
      exact (Option.some.inj read).symm
  | finite negative size =>
      rw [found] at read
      obtain ⟨rounded, -, rfl⟩ := Option.map_eq_some_iff.mp read
      rw [Binary64.isFinite, if_pos rfl]
      split
      · exact ⟨_, rfl⟩
      · exact ⟨_, rfl⟩

end Json

open Json

namespace Json

def component (p : Precision) (entry : String × Float) : Field :=
  ⟨entry.1.toList, jsonNumberText p entry.2, ofDouble? p (.ofFloat entry.2)⟩

variable {p : Precision} {entries : List (String × Float)}

theorem mapM_components_eq_none_iff :
    (entries.map (component p)).mapM Field.member? = none ↔
      ∃ x ∈ entries.map Prod.snd, ofDouble? p (.ofFloat x) = none := by
  induction entries with
  | nil => exact iff_of_false (Option.some_ne_none _) (by simp)
  | cons entry entries ih =>
      rw [List.map_cons, List.map_cons, List.mapM_cons, List.exists_mem_cons_iff]
      cases here : ofDouble? p (.ofFloat entry.2) with
      | none =>
          have stops : (component p entry).member? = none := by
            rw [Field.member?, component, here]
            rfl
          rw [stops]
          exact iff_of_true rfl (Or.inl rfl)
      | some json =>
          have reads : (component p entry).member? = some (points entry.1.toList, json) := by
            rw [Field.member?, component, here]
            rfl
          rw [reads]
          cases later : (entries.map (component p)).mapM Field.member? with
          | none => exact iff_of_true rfl (Or.inr (ih.mp later))
          | some members =>
              have none_left := mt ih.mpr (by rw [later]; exact Option.some_ne_none _)
              exact iff_of_false (Option.some_ne_none _) (by simpa using none_left)

theorem shown_of_mapM_components {members : List (Points × Json)}
    (found : (entries.map (component p)).mapM Field.member? = some members) :
    members.map Prod.fst = (entries.map Prod.fst).map (fun label => points label.toList) ∧
      List.Forall₂ ShowsNumber (entries.map Prod.snd) (members.map Prod.snd) := by
  induction entries generalizing members with
  | nil =>
      cases found
      exact ⟨rfl, List.Forall₂.nil⟩
  | cons entry entries ih =>
      rw [List.map_cons, List.mapM_cons] at found
      obtain ⟨member, here, found⟩ := Option.bind_eq_some_iff.mp found
      obtain ⟨later, there, found⟩ := Option.bind_eq_some_iff.mp found
      obtain ⟨json, read, rfl⟩ := Option.map_eq_some_iff.mp here
      cases found
      obtain ⟨labels, shown⟩ := ih there
      exact ⟨congrArg (points entry.1.toList :: ·) labels,
        List.Forall₂.cons (showsNumber_of_ofDouble? read) shown⟩

end Json

theorem Shape.labels_plain (s : Shape) : ∀ label ∈ s.labels, label.toList.all isPlainChar = true := by
  cases s <;> decide +kernel

namespace Container

variable {s : Shape}

def fields (p : Precision) (c : Container Float s) : List Field :=
  (s.labels.zip c.toList).map (component p)

theorem fields_isRead (p : Precision) (c : Container Float s) : ∀ f ∈ c.fields p, f.IsRead := by
  intro f member
  obtain ⟨⟨label, x⟩, inside, rfl⟩ := List.mem_map.mp member
  exact ⟨s.labels_plain label (List.of_mem_zip inside).1, reads_jsonNumberText p x⟩

theorem fields_written (p : Precision) (c : Container Float s) :
    (c.fields p).map Field.written =
      c.members fun label x => Text.labelled (Text.quoted label) (jsonNumberText p x) := by
  rw [fields, List.map_map, members]
  exact List.map_zip_eq_zipWith

def document? (p : Precision) (c : Container Float s) : Option Json :=
  match c with
  | scalar a => ofDouble? p (.ofFloat a)
  | c => ((c.fields p).mapM Field.member?).map Json.object

theorem reads_json (p : Precision) (c : Container Float s) : Reads (c.json p) (c.document? p) := by
  have object := fun nonempty => reads_braced nonempty (c.fields_isRead p)
  rw [fields_written] at object
  cases c with
  | scalar a => exact reads_jsonNumberText p a
  | vector v => exact object nofun
  | dyad d => exact object nofun
  | symmetricDyad d => exact object nofun

def IsShowable (p : Precision) (c : Container Float s) : Prop :=
  p = .double → ∀ x ∈ c.toList, ¬IsOutermost x

theorem isShowable_iff (p : Precision) (c : Container Float s) :
    c.IsShowable p ↔ ¬∃ x ∈ c.toList, ofDouble? p (.ofFloat x) = none := by
  simp only [ofDouble?_eq_none_iff, IsShowable, not_exists, not_and]
  exact ⟨fun all x member double => all double x member, fun all double x member => all x member double⟩

/-- The components in a document, under their labels unless there is only one. -/
def ShownBy (c : Container Float s) (doc : Json) : Prop :=
  match c, doc with
  | scalar a, doc => ShowsNumber a doc
  | c, .object members =>
    members.map Prod.fst = s.labels.map (fun label => points label.toList) ∧
      List.Forall₂ ShowsNumber c.toList (members.map Prod.snd)
  | _, _ => False

theorem fields_spec (p : Precision) (c : Container Float s) (labelled : s.labels.length = c.toList.length) :
    ((c.fields p).mapM Field.member? = none ↔ ¬c.IsShowable p) ∧
      ∀ members, (c.fields p).mapM Field.member? = some members →
        members.map Prod.fst = s.labels.map (fun label => points label.toList) ∧
          List.Forall₂ ShowsNumber c.toList (members.map Prod.snd) := by
  have labels : (s.labels.zip c.toList).map Prod.fst = s.labels := List.map_fst_zip labelled.le
  have components : (s.labels.zip c.toList).map Prod.snd = c.toList := List.map_snd_zip labelled.ge
  constructor
  · rw [isShowable_iff, not_not, fields, mapM_components_eq_none_iff, components]
  · intro members found
    have shown := shown_of_mapM_components found
    rwa [labels, components] at shown

theorem document?_eq_none_iff (p : Precision) (c : Container Float s) :
    c.document? p = none ↔ ¬c.IsShowable p := by
  cases c with
  | scalar a => simp [document?, isShowable_iff, toList]
  | vector v => exact Option.map_eq_none_iff.trans (fields_spec p (vector v) rfl).1
  | dyad d => exact Option.map_eq_none_iff.trans (fields_spec p (dyad d) rfl).1
  | symmetricDyad d => exact Option.map_eq_none_iff.trans (fields_spec p (symmetricDyad d) rfl).1

theorem shownBy_of_document? {p : Precision} {c : Container Float s} {doc : Json}
    (read : c.document? p = some doc) : c.ShownBy doc := by
  cases c with
  | scalar a => exact showsNumber_of_ofDouble? read
  | vector v =>
      obtain ⟨members, found, rfl⟩ := Option.map_eq_some_iff.mp read
      exact (fields_spec p (vector v) rfl).2 members found
  | dyad d =>
      obtain ⟨members, found, rfl⟩ := Option.map_eq_some_iff.mp read
      exact (fields_spec p (dyad d) rfl).2 members found
  | symmetricDyad d =>
      obtain ⟨members, found, rfl⟩ := Option.map_eq_some_iff.mp read
      exact (fields_spec p (symmetricDyad d) rfl).2 members found

end Container

theorem FamilyTable.abbreviations_plain (f : Family) :
    f.table.units.all (fun row => row.abbreviation.toList.all isPlainChar) = true := by
  cases f <;> decide +kernel

namespace Measurement

variable {f : Family} {s : Shape}

theorem abbreviation_plain (u : f.Unit) : u.abbreviation.toList.all isPlainChar = true :=
  List.all_eq_true.mp (FamilyTable.abbreviations_plain f) u.row (List.getElem_mem _)

def document (u : f.Unit) (value : Json) : Json :=
  .object [(points "value".toList, value), (points "unit".toList, .string (points u.abbreviation.toList))]

theorem reads_json (q : Measurement f s Float) (u : f.Unit) (p : Precision) :
    Reads (q.json u p) (((q.valueIn u).document? p).map (document u)) := by
  have labels : "value".toList.all isPlainChar = true ∧ "unit".toList.all isPlainChar = true := by
    decide +kernel
  have value : Field.IsRead ⟨"value".toList, (q.valueIn u).json p, (q.valueIn u).document? p⟩ :=
    ⟨labels.1, (q.valueIn u).reads_json p⟩
  have unit : Field.IsRead ⟨"unit".toList, Text.quoted u.abbreviation.toList,
      some (.string (points u.abbreviation.toList))⟩ :=
    ⟨labels.2, reads_quoted (abbreviation_plain u)⟩
  have object := reads_braced (List.cons_ne_nil _ _)
    (List.forall_mem_cons.mpr ⟨value, List.forall_mem_singleton.mpr unit⟩)
  simp only [List.mapM_cons, List.mapM_nil, Field.member?] at object
  cases read : (q.valueIn u).document? p with
  | none =>
      rw [read] at object
      exact object
  | some json =>
      rw [read] at object
      exact object

end Measurement

theorem Container.parse?_json {s : Shape} (p : Precision) (c : Container Float s) :
    (c.IsShowable p ∧ ∃ doc, Json.parse? (c.json p) = some doc ∧ c.ShownBy doc) ∨
      (¬c.IsShowable p ∧ Json.parse? (c.json p) = none) := by
  rw [Json.parse?_of_reads (c.reads_json p)]
  cases read : c.document? p with
  | none => exact Or.inr ⟨(c.document?_eq_none_iff p).mp read, rfl⟩
  | some doc =>
      have showable : c.IsShowable p := by
        by_contra hidden
        rw [(c.document?_eq_none_iff p).mpr hidden] at read
        cases read
      exact Or.inl ⟨showable, doc, rfl, Container.shownBy_of_document? read⟩

/-- JSON texts of containers, of measurements in a unit and of dimensionless values are JSON, with `null`
for the components that are not finite and numbers for the others, exactly when no component is one of the
four greatest doubles in double precision. -/
theorem json_valid_iff {f : Family} {s : Shape} (p : Precision) (c : Container Float s)
    (q : Measurement f s Float) (u : f.Unit) (d : Dimensionless s Float) :
    ((c.IsShowable p ∧ ∃ doc, Json.parse? (c.json p) = some doc ∧ c.ShownBy doc) ∨
      (¬c.IsShowable p ∧ Json.parse? (c.json p) = none)) ∧
    (((q.valueIn u).IsShowable p ∧ ∃ value,
        Json.parse? (q.json u p) = some (Measurement.document u value) ∧ (q.valueIn u).ShownBy value) ∨
      (¬(q.valueIn u).IsShowable p ∧ Json.parse? (q.json u p) = none)) ∧
    ((d.value.IsShowable p ∧ ∃ doc,
        Json.parse? (d.formats (some p)).json.toList = some doc ∧ d.value.ShownBy doc) ∨
      (¬d.value.IsShowable p ∧ Json.parse? (d.formats (some p)).json.toList = none)) := by
  refine ⟨c.parse?_json p, ?_, ?_⟩
  · have value := (q.valueIn u).parse?_json p
    rw [Json.parse?_of_reads ((q.valueIn u).reads_json p)] at value
    rw [Json.parse?_of_reads (q.reads_json u p)]
    rcases value with ⟨showable, doc, read, shown⟩ | ⟨hidden, read⟩
    · exact Or.inl ⟨showable, doc, by rw [read]; rfl, shown⟩
    · exact Or.inr ⟨hidden, by rw [read]; rfl⟩
  · have text : (d.formats (some p)).json.toList = d.value.json p := String.toList_ofList
    rw [text]
    exact d.value.parse?_json p

/-- The greatest double is finite and has no JSON text. -/
theorem greatest_double_json :
    (Binary64.ofFloat (Float.ofBits 0x7fefffffffffffff)).isFinite = true ∧
      Container.json .double (.scalar (Float.ofBits 0x7fefffffffffffff)) = "inf".toList ∧
      Json.parse? (Container.json .double (.scalar (Float.ofBits 0x7fefffffffffffff))) = none := by
  decide +kernel

end Metrology

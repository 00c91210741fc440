import Mathlib.Data.List.Forall2
import Metrology.Proofs.Spelling.Rows
import Metrology.Proofs.Text.Form

namespace Metrology

/-- How labelled components are marked up, and the value and the abbreviation around them. -/
structure Markup where
  start : List Char
  opening : List Char
  before : List Char → List Char
  after : List Char → List Char
  between : List Char
  ending : List Char
  middle : List Char
  closing : List Char

namespace Markup

def json : Markup where
  start := "\x7b\"value\":".toList
  opening := ['\x7b']
  before label := Text.labelled (Text.quoted label) []
  after _ := []
  between := [',']
  ending := ['\x7d']
  middle := ",\"unit\":\"".toList
  closing := "\"\x7d".toList

def xml : Markup where
  start := "<value>".toList
  opening := []
  before label := '<' :: (label ++ ['>'])
  after label := '<' :: '/' :: (label ++ ['>'])
  between := []
  ending := []
  middle := "</value><unit>".toList
  closing := "</unit>".toList

def yaml : Markup where
  start := "\x7bvalue:".toList
  opening := ['\x7b']
  before label := Text.labelled label []
  after _ := []
  between := [',']
  ending := ['\x7d']
  middle := ",unit:\"".toList
  closing := "\"\x7d".toList

def member (m : Markup) (label number : List Char) : List Char := m.before label ++ (number ++ m.after label)

def separators (m : Markup) : List (List Char) → List (List Char)
  | [] => []
  | [label] => [m.after label ++ (m.ending ++ m.middle)]
  | label :: next :: labels =>
    (m.after label ++ (m.between ++ m.before next)) :: m.separators (next :: labels)

def form (m : Markup) : List (List Char) → Text.Form
  | [] => ⟨m.start, [m.middle], m.closing⟩
  | label :: labels => ⟨m.start ++ (m.opening ++ m.before label), m.separators (label :: labels), m.closing⟩

theorem joined_members (m : Markup) (label : List Char) (labels : List (List Char))
    {numbers : List (List Char)} (length : numbers.length = labels.length + 1) :
    Text.joined m.between ((label :: labels).zipWith m.member numbers) ++ (m.ending ++ m.middle) =
      m.before label ++ Text.Form.filled numbers (m.separators (label :: labels)) := by
  induction labels generalizing label numbers with
  | nil =>
      obtain ⟨number, rfl⟩ := List.length_eq_one_iff.mp length
      simp [Text.joined, member, separators, Text.Form.filled]
  | cons next labels ih =>
      cases numbers with
      | nil => cases length
      | cons number numbers =>
          have rest := ih next (Nat.succ.inj length)
          cases numbers with
          | nil => cases length
          | cons second numbers =>
              simp only [List.zipWith_cons_cons, Text.joined, List.intercalate_cons_cons, List.append_assoc]
                at rest ⊢
              rw [rest]
              simp [member, separators, Text.Form.filled]

theorem fill_form (m : Markup) {labels numbers : List (List Char)} (labelled : labels ≠ [])
    (length : numbers.length = labels.length) (name : List Char) :
    (m.form labels).fill numbers name =
      m.start ++ (m.opening ++ (Text.joined m.between (labels.zipWith m.member numbers) ++
        (m.ending ++ (m.middle ++ (name ++ m.closing))))) := by
  obtain ⟨label, labels, rfl⟩ := List.exists_cons_of_ne_nil labelled
  have components := m.joined_members label labels length
  simp only [form, Text.Form.fill, List.append_assoc]
  rw [← List.append_assoc (m.before label), ← components]
  simp only [List.append_assoc]

end Markup

def Shape.labelTexts (s : Shape) : List (List Char) := s.labels.map String.toList

theorem Shape.labelTexts_ne_nil {s : Shape} (several : s ≠ .scalar) : s.labelTexts ≠ [] := by
  cases s with
  | scalar => exact absurd rfl several
  | _ => simp [labelTexts, labels]

namespace Container

variable {s : Shape}

theorem length_toList_eq_labels (several : s ≠ .scalar) (c : Container Float s) :
    c.toList.length = s.labelTexts.length := by
  cases c with
  | scalar a => exact absurd rfl several
  | _ => rfl

def markedUp (m : Markup) (number : Float → List Char) (c : Container Float s) : List Char :=
  match c with
  | scalar a => number a
  | c => m.opening ++ (Text.joined m.between (c.members fun label x => m.member label (number x)) ++ m.ending)

theorem markedUp_eq (several : s ≠ .scalar) (m : Markup) (number : Float → List Char)
    (c : Container Float s) :
    c.markedUp m number =
      m.opening ++
        (Text.joined m.between (s.labelTexts.zipWith m.member (c.toList.map number)) ++ m.ending) := by
  have members : c.members (fun label x => m.member label (number x)) =
      s.labelTexts.zipWith m.member (c.toList.map number) := by
    rw [Container.members, Shape.labelTexts, List.zipWith_map]
  rw [← members]
  cases c with
  | scalar a => exact absurd rfl several
  | _ => rfl

theorem fill_markedUp (m : Markup) (number : Float → List Char) (c : Container Float s) (name : List Char) :
    (m.form s.labelTexts).fill (c.toList.map number) name =
      m.start ++ (c.markedUp m number ++ (m.middle ++ (name ++ m.closing))) := by
  by_cases several : s = .scalar
  · subst several
    cases c with | scalar a =>
      simp [markedUp, toList, Shape.labelTexts, Shape.labels, Markup.form, Text.Form.fill, Text.Form.filled]
  · have length : (c.toList.map number).length = s.labelTexts.length := by
      rw [List.length_map, c.length_toList_eq_labels several]
    rw [m.fill_form (Shape.labelTexts_ne_nil several) length, markedUp_eq several]
    simp only [List.append_assoc]

theorem json_eq_markedUp (p : Precision) (c : Container Float s) :
    c.json p = c.markedUp .json (jsonNumberText p) := by
  have member : ∀ label number : List Char,
      Markup.json.member label number = Text.labelled (Text.quoted label) number := by
    intro label number
    change Text.labelled (Text.quoted label) [] ++ (number ++ []) = _
    simp [Text.labelled]
  cases c with
  | scalar a => rfl
  | _ =>
      simp only [json, markedUp, member]
      rfl

theorem xml_eq_markedUp (p : Precision) (c : Container Float s) :
    c.xml p = c.markedUp .xml (numberText p) := by
  have member : ∀ label number : List Char, Markup.xml.member label number = Text.element label number := by
    intro label number
    change '<' :: (label ++ ['>']) ++ (number ++ '<' :: '/' :: (label ++ ['>'])) = _
    simp [Text.element]
  have joined : ∀ texts : List (List Char), Text.joined [] texts = texts.flatten := by
    intro texts
    induction texts with
    | nil => rfl
    | cons text texts ih =>
        cases texts with
        | nil => simp [Text.joined]
        | cons next texts =>
            rw [Text.joined, List.intercalate_cons_cons, List.append_nil, List.flatten_cons, ← ih]
            rfl
  cases c with
  | scalar a => rfl
  | _ =>
      simp only [xml, markedUp, member, ← joined]
      exact (List.append_nil _).symm

theorem yaml_eq_markedUp (p : Precision) (c : Container Float s) :
    c.yaml p = c.markedUp .yaml (numberText p) := by
  have member : ∀ label number : List Char, Markup.yaml.member label number = Text.labelled label number := by
    intro label number
    change Text.labelled label [] ++ (number ++ []) = _
    simp [Text.labelled]
  cases c with
  | scalar a => rfl
  | _ =>
      simp only [yaml, markedUp, member]
      rfl

end Container

def Shape.printForm : Shape → Text.Form
  | .scalar => ⟨[], [[' ']], []⟩
  | .vector => ⟨['('], [", ".toList, ", ".toList, ") ".toList], []⟩
  | .dyad =>
    ⟨['('], [", ".toList, ", ".toList, "; ".toList, ", ".toList, ", ".toList, "; ".toList, ", ".toList,
      ", ".toList, ") ".toList], []⟩
  | .symmetricDyad =>
    ⟨['('], [", ".toList, ", ".toList, "; ".toList, ", ".toList, "; ".toList, ") ".toList], []⟩

theorem Container.fill_print {s : Shape} (p : Precision) (c : Container Float s) (name : List Char) :
    s.printForm.fill (c.toList.map (numberText p)) name = c.print p ++ ' ' :: name := by
  cases c with
  | scalar a => simp [print, toList, Shape.printForm, Text.Form.fill, Text.Form.filled]
  | vector v =>
      simp [print, toList, Shape.printForm, Text.Form.fill, Text.Form.filled, bracketed, rows, Vector3.toList,
        Text.joined]
  | dyad d =>
      simp [print, toList, Shape.printForm, Text.Form.fill, Text.Form.filled, bracketed, rows, Vector3.toList,
        Dyad.rows, Dyad.toList, Text.joined]
  | symmetricDyad t =>
      simp [print, toList, Shape.printForm, Text.Form.fill, Text.Form.filled, bracketed, rows,
        SymmetricDyad.toList, Text.joined]

namespace Measurement

variable {f : Family} {s : Shape}

theorem print_eq_fill (q : Measurement f s Float) (u : f.Unit) (p : Precision) :
    q.print u p = s.printForm.fill ((q.valueIn u).toList.map (numberText p)) u.abbreviation.toList := by
  rw [Container.fill_print, print]

theorem json_eq_fill (q : Measurement f s Float) (u : f.Unit) (p : Precision) :
    q.json u p =
      (Markup.json.form s.labelTexts).fill ((q.valueIn u).toList.map (jsonNumberText p))
        u.abbreviation.toList := by
  rw [Container.fill_markedUp, ← Container.json_eq_markedUp]
  simp only [json, Text.braced, Text.labelled, Text.quoted, Text.joined, List.intercalate_cons_cons,
    List.intercalate_singleton, List.append_assoc, List.cons_append]
  rfl

theorem xml_eq_fill (q : Measurement f s Float) (u : f.Unit) (p : Precision) :
    q.xml u p =
      (Markup.xml.form s.labelTexts).fill ((q.valueIn u).toList.map (numberText p))
        u.abbreviation.toList := by
  rw [Container.fill_markedUp, ← Container.xml_eq_markedUp]
  simp only [xml, Text.element, List.append_assoc, List.cons_append]
  rfl

theorem yaml_eq_fill (q : Measurement f s Float) (u : f.Unit) (p : Precision) :
    q.yaml u p =
      (Markup.yaml.form s.labelTexts).fill ((q.valueIn u).toList.map (numberText p))
        u.abbreviation.toList := by
  rw [Container.fill_markedUp, ← Container.yaml_eq_markedUp]
  simp only [yaml, Text.braced, Text.labelled, Text.quoted, Text.joined, List.intercalate_cons_cons,
    List.intercalate_singleton, List.append_assoc, List.cons_append]
  rfl

end Measurement

/-- Whether a form has a gap for every component of a shape and tells where each number ends. -/
structure Text.Form.Suits (form : Text.Form) (s : Shape) : Prop where
  gaps : ∀ c : Container Float s, c.toList.length = form.separators.length
  ends : form.separators.all endsNumber = true

theorem Text.Form.Suits.split_fill {form : Text.Form} {s : Shape} (suits : form.Suits s)
    {number : Float → List Char} (letters : ∀ x, ∀ c ∈ number x, isNumberChar c = true)
    (c : Container Float s) (name : List Char) :
    form.split (form.fill (c.toList.map number) name) = (c.toList.map number, name) := by
  have length : (c.toList.map number).length = form.separators.length := by
    rw [List.length_map, suits.gaps c]
  apply Form.split_fill length _ suits.ends
  intro text member
  obtain ⟨x, -, rfl⟩ := List.mem_map.mp member
  exact letters x

theorem Shape.printForm_suits (s : Shape) : s.printForm.Suits s where
  gaps c := by cases c <;> rfl
  ends := by cases s <;> decide

theorem Markup.form_suits {m : Markup} {s : Shape}
    (ends : (m.form s.labelTexts).separators.all Text.Form.endsNumber = true) :
    (m.form s.labelTexts).Suits s where
  gaps c := by cases c <;> rfl
  ends := ends

theorem Family.Unit.abbreviation_injective {f : Family} {u w : f.Unit}
    (same : u.abbreviation = w.abbreviation) : u = w := by
  have found := parse?_abbreviation u
  rw [same, parse?_abbreviation w] at found
  exact (Option.some.inj found).symm

namespace Measurement

variable {f : Family} {s : Shape}

theorem split_print (q : Measurement f s Float) (u : f.Unit) (p : Precision) :
    s.printForm.split (q.print u p) =
      ((q.valueIn u).toList.map (numberText p), u.abbreviation.toList) := by
  rw [print_eq_fill]
  exact s.printForm_suits.split_fill (isNumberChar_numberText p) _ _

theorem split_json (q : Measurement f s Float) (u : f.Unit) (p : Precision) :
    (Markup.json.form s.labelTexts).split (q.json u p) =
      ((q.valueIn u).toList.map (jsonNumberText p), u.abbreviation.toList) := by
  have ends : (Markup.json.form s.labelTexts).separators.all Text.Form.endsNumber = true := by
    cases s <;> decide
  rw [json_eq_fill]
  exact (Markup.form_suits ends).split_fill (isNumberChar_jsonNumberText p) _ _

theorem split_xml (q : Measurement f s Float) (u : f.Unit) (p : Precision) :
    (Markup.xml.form s.labelTexts).split (q.xml u p) =
      ((q.valueIn u).toList.map (numberText p), u.abbreviation.toList) := by
  have ends : (Markup.xml.form s.labelTexts).separators.all Text.Form.endsNumber = true := by
    cases s <;> decide
  rw [xml_eq_fill]
  exact (Markup.form_suits ends).split_fill (isNumberChar_numberText p) _ _

theorem split_yaml (q : Measurement f s Float) (u : f.Unit) (p : Precision) :
    (Markup.yaml.form s.labelTexts).split (q.yaml u p) =
      ((q.valueIn u).toList.map (numberText p), u.abbreviation.toList) := by
  have ends : (Markup.yaml.form s.labelTexts).separators.all Text.Form.endsNumber = true := by
    cases s <;> decide
  rw [yaml_eq_fill]
  exact (Markup.form_suits ends).split_fill (isNumberChar_numberText p) _ _

/-- Texts that are the same and split alike come from one unit, and from numbers that have the same texts one
by one. -/
theorem eq_of_split {form : Text.Form} {text other : List Char} {c d : Container Float s} {u w : f.Unit}
    {g h : Float → List Char} (left : form.split text = (c.toList.map g, u.abbreviation.toList))
    (right : form.split other = (d.toList.map h, w.abbreviation.toList)) (same : text = other) :
    u = w ∧ List.Forall₂ (fun x y => g x = h y) c.toList d.toList := by
  rw [same, right] at left
  obtain ⟨numbers, names⟩ := Prod.mk.inj left
  have unit : u = w := Family.Unit.abbreviation_injective (String.toList_inj.mp names.symm)
  have components : List.Forall₂ (· = ·) (c.toList.map g) (d.toList.map h) := by
    rw [numbers, List.forall₂_eq_eq_eq]
  rw [List.forall₂_map_left_iff, List.forall₂_map_right_iff] at components
  exact ⟨unit, components⟩

end Measurement

/-- Measurements that look alike show the same numbers in the same unit: each of the four texts splits into the texts
of the components, in their stored order, and the abbreviation of the unit. In JSON, what is not finite looks alike. -/
theorem texts_unambiguous {f : Family} {s : Shape} (a b : Measurement f s Float) (u w : f.Unit)
    (p q : Precision) :
    (a.print u p = b.print w q → u = w ∧
      List.Forall₂ (fun x y => numberText p x = numberText q y) (a.valueIn u).toList (b.valueIn w).toList) ∧
    (a.xml u p = b.xml w q → u = w ∧
      List.Forall₂ (fun x y => numberText p x = numberText q y) (a.valueIn u).toList (b.valueIn w).toList) ∧
    (a.yaml u p = b.yaml w q → u = w ∧
      List.Forall₂ (fun x y => numberText p x = numberText q y) (a.valueIn u).toList (b.valueIn w).toList) ∧
    (a.json u p = b.json w q → u = w ∧
      List.Forall₂ (fun x y => numberText p x = numberText q y ∨
          (Binary64.ofFloat x).isFinite = false ∧ (Binary64.ofFloat y).isFinite = false)
        (a.valueIn u).toList (b.valueIn w).toList) ∧
    s.printForm.split (a.print u p) = ((a.valueIn u).toList.map (numberText p), u.abbreviation.toList) ∧
    (Markup.xml.form s.labelTexts).split (a.xml u p) =
      ((a.valueIn u).toList.map (numberText p), u.abbreviation.toList) ∧
    (Markup.yaml.form s.labelTexts).split (a.yaml u p) =
      ((a.valueIn u).toList.map (numberText p), u.abbreviation.toList) ∧
    (Markup.json.form s.labelTexts).split (a.json u p) =
      ((a.valueIn u).toList.map (jsonNumberText p), u.abbreviation.toList) := by
  refine ⟨?_, ?_, ?_, ?_, a.split_print u p, a.split_xml u p, a.split_yaml u p, a.split_json u p⟩
  · intro same
    exact Measurement.eq_of_split (a.split_print u p) (b.split_print w q) same
  · intro same
    exact Measurement.eq_of_split (a.split_xml u p) (b.split_xml w q) same
  · intro same
    exact Measurement.eq_of_split (a.split_yaml u p) (b.split_yaml w q) same
  · intro same
    have split := Measurement.eq_of_split (a.split_json u p) (b.split_json w q) same
    exact ⟨split.1, split.2.imp fun _ _ => numberText_of_jsonNumberText⟩

theorem texts_unambiguous_tenths :
    let a : Measurement .length .vector Float := ⟨.vector ⟨0.30000000000000004, 1e30, 1.0 / 0.0⟩⟩
    let b : Measurement .length .vector Float := ⟨.vector ⟨0.3, 1e30, 0.0 / 0.0⟩⟩
    let metre : Family.length.Unit := ⟨⟨1, by decide⟩⟩
    a.json metre .double = b.json metre .double ∧
    List.Forall₂ (fun x y => numberText .double x = numberText .double y ∨
        (Binary64.ofFloat x).isFinite = false ∧ (Binary64.ofFloat y).isFinite = false)
      (a.valueIn metre).toList (b.valueIn metre).toList := by
  intro a b metre
  have same : a.json metre .double = b.json metre .double := by decide +kernel
  exact ⟨same, ((texts_unambiguous a b metre metre .double .double).2.2.2.1 same).2⟩

end Metrology

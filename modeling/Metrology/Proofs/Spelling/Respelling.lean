import Mathlib.Logic.Relation
import Metrology.Unit.Spelling

namespace Metrology.Spelling

/-- A symbol and the plain form that may stand for it. -/
inductive PlainForm : List Char → List Char → Prop where
  | blank {c : Char} (blank : Text.isBlank c = true) : PlainForm [c] []
  | caret : PlainForm ['^'] []
  | middleDot : PlainForm ['·'] ['*']
  | dotOperator : PlainForm ['⋅'] ['*']
  | multiplication : PlainForm ['×'] ['*']
  | squared : PlainForm ['²'] ['2']
  | cubed : PlainForm ['³'] ['3']
  | micro : PlainForm ['\u00b5'] ['u']
  | mu : PlainForm ['\u03bc'] ['u']
  | degree : PlainForm ['°'] ['d', 'e', 'g']
  | ordinal : PlainForm ['º'] ['d', 'e', 'g']

inductive Edit : List Char → List Char → Prop where
  | replace (before after : List Char) {symbol plain : List Char} (form : PlainForm symbol plain) :
      Edit (before ++ symbol ++ after) (before ++ plain ++ after)

/-- Texts that are joined by replacing symbols by plain forms and plain forms by symbols, any number of times
and at any places. -/
def Respelled : List Char → List Char → Prop := Relation.EqvGen Edit

theorem normalize_plainForm {symbol plain : List Char} (form : PlainForm symbol plain) :
    normalize symbol = normalize plain := by
  cases form with
  | blank blank => simp [normalize, keyOf, blank]
  | _ => decide

theorem Edit.normalize_eq {a b : List Char} (edit : Edit a b) : normalize a = normalize b := by
  cases edit with
  | replace before after form => simp only [normalize_append, normalize_plainForm form]

theorem Respelled.normalize_eq {a b : List Char} (joined : Respelled a b) : normalize a = normalize b := by
  induction joined with
  | rel a b edit => exact edit.normalize_eq
  | refl a => rfl
  | symm a b _ ih => exact ih.symm
  | trans a b c _ _ first second => exact first.trans second

/-- A character either stands for itself or has a plain form, which is its key. -/
theorem keyOf_cases (c : Char) : keyOf c = [c] ∨ PlainForm [c] (keyOf c) := by
  unfold keyOf
  split
  · next blank => exact .inr (.blank blank)
  · split
    · exact .inr .middleDot
    · exact .inr .dotOperator
    · exact .inr .multiplication
    · exact .inr .squared
    · exact .inr .cubed
    · exact .inr .caret
    · exact .inr .micro
    · exact .inr .mu
    · exact .inr .degree
    · exact .inr .ordinal
    · exact .inl rfl

theorem respelled_normalize (text : List Char) : Respelled text (normalize text) := by
  -- The symbols are replaced from the left, `done` being the plain forms of those before `text`.
  suffices run : ∀ done, Respelled (done ++ text) (done ++ normalize text) by simpa using run []
  induction text with
  | nil => exact fun done => .refl _
  | cons c rest ih =>
      intro done
      have tail := ih (done ++ keyOf c)
      rw [List.append_assoc, List.append_assoc] at tail
      change Respelled (done ++ c :: rest) (done ++ (keyOf c ++ normalize rest))
      rcases keyOf_cases c with same | form
      · rw [same] at tail ⊢
        exact tail
      · have edit : Edit (done ++ [c] ++ rest) (done ++ keyOf c ++ rest) := .replace done rest form
        rw [List.append_assoc, List.append_assoc] at edit
        exact .trans _ _ _ (.rel _ _ edit) tail

theorem respelled_iff {a b : List Char} : Respelled a b ↔ normalize a = normalize b := by
  refine ⟨Respelled.normalize_eq, fun same => ?_⟩
  have there := respelled_normalize a
  rw [same] at there
  exact .trans _ _ _ there (.symm _ _ (respelled_normalize b))

theorem normalize_normalize (text : List Char) : normalize (normalize text) = normalize text :=
  (respelled_normalize text).normalize_eq.symm

theorem Table.search_of_respelled {β : Type} {table : Table β} {a b : List Char} (joined : Respelled a b) :
    table.search a = table.search b := by
  simp only [search, joined.normalize_eq]

end Metrology.Spelling

namespace Metrology

open Spelling

def Named.IsTolerant {β : Type} [BEq β] (named : Named β) : Prop :=
  (∀ input other : String, Respelled input.toList other.toList → named.parse? input = named.parse? other) ∧
  ∀ input : String, named.parse? (.ofList (normalize input.toList)) = named.parse? input

theorem Named.isTolerant {β : Type} [BEq β] (named : Named β) : named.IsTolerant := by
  have tolerant (input other : String) (joined : Respelled input.toList other.toList) :
      named.parse? input = named.parse? other :=
    congrArg Outcome.toOption (Table.search_of_respelled joined)
  refine ⟨tolerant, fun input => ?_⟩
  apply tolerant
  rw [String.toList_ofList]
  exact .symm _ _ (respelled_normalize input.toList)

/-- Keys are taken piece by piece and once and for all; two texts have one key exactly if one is a way of
writing the other; and the parsers of units, unit systems and precisions see no difference between those. -/
theorem symbols_and_blanks_tolerated :
    (normalize [] = [] ∧ ∀ a b, normalize (a ++ b) = normalize a ++ normalize b) ∧
    (∀ text, normalize (normalize text) = normalize text) ∧
    (∀ a b, Respelled a b ↔ normalize a = normalize b) ∧
    (∀ f : Family, f.named.IsTolerant) ∧ UnitSystem.named.IsTolerant ∧ Precision.named.IsTolerant := by
  refine ⟨⟨rfl, normalize_append⟩, normalize_normalize, fun _ _ => respelled_iff, ?_, ?_, ?_⟩
  · exact fun f => f.named.isTolerant
  · exact UnitSystem.named.isTolerant
  · exact Precision.named.isTolerant

theorem symbols_and_blanks_tolerated_degrees :
    Respelled "° /s^2".toList "deg/s²".toList ∧
    Family.angularAcceleration.named.parse? "° /s^2" = Family.angularAcceleration.named.parse? "deg/s²" ∧
    Family.angularAcceleration.named.parse? "deg/s2" = Family.angularAcceleration.named.parse? "deg/s²" ∧
    (Family.angularAcceleration.named.parse? "deg/s²").isSome = true := by
  obtain ⟨-, -, joined, families, -⟩ := symbols_and_blanks_tolerated
  obtain ⟨tolerant, keys⟩ := families .angularAcceleration
  have same : Respelled "° /s^2".toList "deg/s²".toList := (joined _ _).mpr (by decide)
  have plain : String.ofList (normalize "deg/s²".toList) = "deg/s2" := by decide
  exact ⟨same, tolerant _ _ same, plain ▸ keys "deg/s²", by decide⟩

end Metrology

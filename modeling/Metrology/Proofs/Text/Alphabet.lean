import Metrology.Proofs.Json.Document

namespace Metrology

namespace Text

/-- The characters of number texts: digits, signs, points, exponent marks, and the letters of `inf`, `NaN`
and `null`. -/
def isNumberChar (c : Char) : Bool := c.isDigit || "-.einfNaul".toList.contains c

theorem isNumberChar_of_isDigit {c : Char} (digit : c.isDigit = true) : isNumberChar c = true := by
  rw [isNumberChar, digit, Bool.true_or]

theorem isNumberChar_integer (n : Int) : ∀ c ∈ integer n, isNumberChar c = true := by
  intro c member
  unfold integer at member
  split at member
  · rcases List.mem_cons.mp member with rfl | digit
    · decide
    · exact isNumberChar_of_isDigit (isDigit_of_mem_natural digit)
  · exact isNumberChar_of_isDigit (isDigit_of_mem_natural member)

end Text

namespace Json.Numeral

open Text

theorem isNumberChar_text {n : Numeral} (wellFormed : n.IsWellFormed) :
    ∀ c ∈ n.text, isNumberChar c = true := by
  have fraction : ∀ c ∈ n.fractionText, isNumberChar c = true := by
    intro c member
    unfold fractionText at member
    split at member
    · cases member
    · rcases List.mem_cons.mp member with rfl | digit
      · decide
      · exact isNumberChar_of_isDigit (wellFormed.fraction_digits c digit)
  have exponent : ∀ c ∈ n.exponentText, isNumberChar c = true := by
    intro c member
    unfold exponentText at member
    split at member
    · cases member
    · rcases List.mem_cons.mp member with rfl | mark
      · decide
      · exact isNumberChar_integer _ c mark
  intro c member
  simp only [text, List.mem_append] at member
  rcases member with digit | member | member
  · exact isNumberChar_of_isDigit (wellFormed.whole_digits c digit)
  · exact fraction c member
  · exact exponent c member

end Json.Numeral

namespace Binary64

open Text

theorem Size.isNumberChar_text (s : Size) : ∀ c ∈ s.text, isNumberChar c = true := by
  rw [← s.numeral_text]
  exact Json.Numeral.isNumberChar_text s.numeral_isWellFormed

theorem isNumberChar_signed {negative : Bool} {text : List Char}
    (letters : ∀ c ∈ text, isNumberChar c = true) :
    ∀ c ∈ signText negative ++ text, isNumberChar c = true := by
  cases negative with
  | false => exact letters
  | true => exact List.forall_mem_cons.mpr ⟨by decide, letters⟩

theorem isNumberChar_text (p : Precision) (x : Binary64) : ∀ c ∈ x.text p, isNumberChar c = true := by
  cases x with
  | nan => exact List.all_eq_true.mp (by decide : "NaN".toList.all isNumberChar = true)
  | infinite negative => exact isNumberChar_signed (List.all_eq_true.mp (by decide))
  | finite negative size =>
      simp only [text]
      split
      · exact isNumberChar_signed (List.all_eq_true.mp (by decide))
      · split
        · exact List.forall_mem_singleton.mpr (by decide)
        · exact isNumberChar_signed (Size.isNumberChar_text _)

theorem Size.text_ne_null (s : Size) : s.text ≠ "null".toList := by
  have wellFormed := s.numeral_isWellFormed
  obtain ⟨first, whole, digits⟩ := List.exists_cons_of_ne_nil wellFormed.whole_ne_nil
  have digit : first.isDigit = true :=
    wellFormed.whole_digits first (by rw [digits]; exact List.mem_cons_self)
  rw [← s.numeral_text, Json.Numeral.text, digits]
  intro same
  have letter : first = 'n' := (List.cons.inj same).1
  rw [letter] at digit
  exact absurd digit (by decide)

theorem signed_ne_null {negative : Bool} {text : List Char} (other : text ≠ "null".toList) :
    signText negative ++ text ≠ "null".toList := by
  cases negative with
  | false => exact other
  | true => exact fun same => absurd (List.cons.inj same).1 (by decide)

theorem text_ne_null (p : Precision) (x : Binary64) : x.text p ≠ "null".toList := by
  cases x with
  | nan =>
      change "NaN".toList ≠ "null".toList
      decide
  | infinite negative => exact signed_ne_null (by decide)
  | finite negative size =>
      simp only [text]
      split
      · exact signed_ne_null (by decide)
      · split
        · decide
        · exact signed_ne_null (Size.text_ne_null _)

end Binary64

theorem isNumberChar_numberText (p : Precision) (x : Float) :
    ∀ c ∈ numberText p x, Text.isNumberChar c = true :=
  Binary64.isNumberChar_text p (Binary64.ofFloat x)

theorem isNumberChar_jsonNumberText (p : Precision) (x : Float) :
    ∀ c ∈ jsonNumberText p x, Text.isNumberChar c = true := by
  unfold jsonNumberText
  split
  · exact isNumberChar_numberText p x
  · exact List.all_eq_true.mp (by decide)

theorem numberText_of_jsonNumberText {p q : Precision} {x y : Float}
    (same : jsonNumberText p x = jsonNumberText q y) :
    numberText p x = numberText q y ∨
      (Binary64.ofFloat x).isFinite = false ∧ (Binary64.ofFloat y).isFinite = false := by
  unfold jsonNumberText at same
  split at same
  · split at same
    · exact .inl same
    · exact absurd same (Binary64.text_ne_null p _)
  · next left =>
    split at same
    · exact absurd same.symm (Binary64.text_ne_null q _)
    · next right => exact .inr ⟨eq_false_of_ne_true left, eq_false_of_ne_true right⟩

end Metrology

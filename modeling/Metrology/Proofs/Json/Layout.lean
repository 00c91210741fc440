import Mathlib.Data.List.TakeWhile
import Metrology.Proofs.Json.Numeral

namespace Metrology

namespace Text

theorem getLast?_natural (n : Nat) : (natural n).getLast? = some (Nat.digitChar (n % 10)) := by
  rcases Nat.lt_or_ge n 10 with small | large
  · rw [natural, Nat.toDigits_of_lt_base small, Nat.mod_eq_of_lt small]
    rfl
  · rw [natural, Nat.toDigits_of_base_le (by decide) large, List.getLast?_append]
    rfl

theorem getLast?_natural_ne_zero {n : Nat} (ends : n % 10 ≠ 0) : (natural n).getLast? ≠ some '0' := by
  rw [getLast?_natural]
  intro zero
  exact ends (Nat.digitChar_eq_zero.mp (Option.some.inj zero))

theorem dropWhile_zeros_natural {n : Nat} (nonzero : n ≠ 0) (count : Nat) :
    (List.replicate count '0' ++ natural n).dropWhile (· == '0') = natural n := by
  obtain ⟨first, digits, text⟩ := List.exists_cons_of_ne_nil (natural_ne_nil n)
  have visible : ¬(first == '0') = true := by
    intro zero
    exact head?_natural_ne_zero nonzero (by rw [text, List.head?_cons, eq_of_beq zero])
  have zeros : ∀ c ∈ List.replicate count '0', (c == '0') = true := by
    intro c member
    rw [List.eq_of_mem_replicate member]
    rfl
  rw [List.dropWhile_append_of_pos zeros, text]
  exact List.dropWhile_cons_of_neg visible

end Text

namespace Json.Numeral

def significant (n : Numeral) : List Char := (n.whole ++ n.fraction).dropWhile (· == '0')

def IsScientific (n : Numeral) : Prop := ∃ c, c ≠ '0' ∧ n.whole = [c]

theorem length_significant_le (n : Numeral) : n.significant.length ≤ n.whole.length + n.fraction.length := by
  rw [significant, ← List.length_append]
  exact List.length_dropWhile_le _ _

end Json.Numeral

namespace Decimal

open Json (Numeral)

variable {d : Decimal}

theorem positionalNumeral_exponent? (d : Decimal) : d.positionalNumeral.exponent? = none := by
  unfold positionalNumeral
  dsimp only
  split
  · rfl
  · split <;> rfl

theorem positionalNumeral_fraction (ends : d.digits % 10 ≠ 0) :
    d.positionalNumeral.fraction.getLast? ≠ some '0' := by
  have last := Text.getLast?_natural_ne_zero ends
  unfold positionalNumeral
  dsimp only
  split
  · exact Option.some_ne_none _ ∘ Eq.symm
  · split
    · rw [List.getLast?_drop]
      split
      · exact Option.some_ne_none _ ∘ Eq.symm
      · exact last
    · rw [List.getLast?_append, Text.getLast?_natural] at *
      exact last

theorem positionalNumeral_significant (nonzero : d.digits ≠ 0) :
    d.positionalNumeral.significant.length ≤ max (digitCount d.digits) d.pointPlace.toNat := by
  have count := Text.length_natural d.digits
  have whole := d.positionalNumeral.length_significant_le
  unfold positionalNumeral at whole ⊢
  dsimp only at whole ⊢
  split at whole
  · next integer =>
    rw [if_pos integer]
    simp only [List.length_append, List.length_replicate, List.length_nil, count] at whole
    have place : d.pointPlace.toNat = digitCount d.digits + d.exponent.toNat := by
      rw [pointPlace]
      omega
    omega
  · next fractional =>
    rw [if_neg fractional]
    split at whole
    · next inside =>
      rw [if_pos inside]
      simp only [List.length_take, List.length_drop, count] at whole
      omega
    · next small =>
      -- The zeros in front of the digits do not count.
      rw [if_neg small]
      have digits := Text.dropWhile_zeros_natural nonzero ((-d.pointPlace).toNat + 1)
      rw [Numeral.significant]
      change ((List.replicate ((-d.pointPlace).toNat + 1) '0' ++ Text.natural d.digits).dropWhile _).length ≤ _
      rw [digits, count]
      exact le_max_left _ _

theorem scientificNumeral_isScientific (nonzero : d.digits ≠ 0) : d.scientificNumeral.IsScientific := by
  obtain ⟨first, digits, text⟩ := List.exists_cons_of_ne_nil (Text.natural_ne_nil d.digits)
  refine ⟨first, ?_, ?_⟩
  · rintro rfl
    exact Text.head?_natural_ne_zero nonzero (by rw [text, List.head?_cons])
  · rw [scientificNumeral, text]
    rfl

theorem scientificNumeral_fraction (ends : d.digits % 10 ≠ 0) :
    d.scientificNumeral.fraction.getLast? ≠ some '0' := by
  rw [scientificNumeral, List.getLast?_drop]
  split
  · exact Option.some_ne_none _ ∘ Eq.symm
  · exact Text.getLast?_natural_ne_zero ends

theorem scientificNumeral_significant (d : Decimal) :
    d.scientificNumeral.significant.length ≤ digitCount d.digits := by
  have some_digits := digitCount_pos d.digits
  have parts : d.scientificNumeral.whole.length + d.scientificNumeral.fraction.length =
      digitCount d.digits := by
    simp only [scientificNumeral, List.length_take, List.length_drop, Text.length_natural]
    omega
  exact parts ▸ d.scientificNumeral.length_significant_le

end Decimal

end Metrology

import Mathlib.Algebra.Ring.Nat
import Mathlib.Data.List.Basic
import Metrology.Decimal
import Metrology.Json.Reader
import Metrology.Text

namespace Metrology.Text

theorem isDigit_of_mem_natural {n : Nat} {c : Char} (member : c ∈ natural n) : c.isDigit = true :=
  Nat.isDigit_of_mem_toDigits (by decide) (by decide) member

theorem natural_ne_nil (n : Nat) : natural n ≠ [] := Nat.toDigits_ne_nil

theorem length_natural (n : Nat) : (natural n).length = digitCount n := by
  fun_induction digitCount n with
  | case1 n small => rw [natural, Nat.toDigits_of_lt_base small, List.length_singleton]
  | case2 n large ih =>
      rw [natural, Nat.toDigits_of_base_le (by decide) (Nat.le_of_not_lt large), List.length_append,
        List.length_singleton]
      exact congrArg (· + 1) ih

theorem head?_natural_ne_zero {n : Nat} (nonzero : n ≠ 0) : (natural n).head? ≠ some '0' := by
  fun_induction digitCount n with
  | case1 n small =>
      rw [natural, Nat.toDigits_of_lt_base small, List.head?_cons]
      intro zero
      exact nonzero (Nat.digitChar_eq_zero.mp (Option.some.inj zero))
  | case2 n large ih =>
      have shorter := ih (by omega)
      rw [natural, Nat.toDigits_of_base_le (by decide) (Nat.le_of_not_lt large),
        List.head?_append_of_ne_nil _ Nat.toDigits_ne_nil]
      exact shorter

variable {inside : Char → Bool} {word rest : List Char}

theorem takeWhile_append_closed (all : ∀ c ∈ word, inside c = true)
    (closed : ∀ c ∈ rest.head?, inside c = false) : (word ++ rest).takeWhile inside = word := by
  rw [List.takeWhile_append_of_pos all]
  cases rest with
  | nil => rw [List.takeWhile_nil, List.append_nil]
  | cons c rest =>
      have other : inside c = false := closed c rfl
      rw [List.takeWhile_cons_of_neg (by simp [other]), List.append_nil]

theorem dropWhile_append_closed (all : ∀ c ∈ word, inside c = true)
    (closed : ∀ c ∈ rest.head?, inside c = false) : (word ++ rest).dropWhile inside = rest := by
  rw [List.dropWhile_append_of_pos all]
  cases rest with
  | nil => rfl
  | cons c rest =>
      have other : inside c = false := closed c rfl
      rw [List.dropWhile_cons_of_neg (by simp [other])]

end Metrology.Text

namespace Metrology.Json.Reader

theorem digitsValue_eq (digits : List Char) : digitsValue digits = Nat.ofDigitChars 10 digits 0 := by
  have step : (fun (value : Nat) (c : Char) => value * 10 + (c.toNat - '0'.toNat)) =
      fun value c => 10 * value + (c.toNat - '0'.toNat) := by
    funext value c
    rw [Nat.mul_comm]
  rw [digitsValue, step, Nat.ofDigitChars_eq_foldl]

theorem digitsValue_natural (n : Nat) : digitsValue (Text.natural n) = n := by
  rw [digitsValue_eq]
  exact Nat.ofDigitChars_ten_toDigits

theorem digitsValue_append_zeros (digits : List Char) (count : Nat) :
    digitsValue (digits ++ List.replicate count '0') = digitsValue digits * 10 ^ count := by
  rw [digitsValue_eq, digitsValue_eq, Nat.ofDigitChars_append, Nat.ofDigitChars_replicate_zero, Nat.mul_comm]

theorem digitsValue_zeros_append (digits : List Char) (count : Nat) :
    digitsValue (List.replicate count '0' ++ digits) = digitsValue digits := by
  rw [digitsValue_eq, digitsValue_eq, Nat.ofDigitChars_append, Nat.ofDigitChars_replicate_zero, Nat.mul_zero]

def NoDigit (rest : List Char) : Prop := ∀ c ∈ rest.head?, c.isDigit = false

theorem digits?_append {digits rest : List Char} (all : ∀ c ∈ digits, c.isDigit = true)
    (nonempty : digits ≠ []) (closed : NoDigit rest) : digits? (digits ++ rest) = some (digits, rest) := by
  rw [digits?, Text.takeWhile_append_closed all closed, Text.dropWhile_append_closed all closed]
  cases digits with
  | nil => exact absurd rfl nonempty
  | cons c digits => rfl

end Metrology.Json.Reader

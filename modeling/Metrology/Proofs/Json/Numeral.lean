import Metrology.Decimal
import Metrology.Proofs.Decimal.Value
import Metrology.Proofs.Text.Digits

namespace Metrology.Json

open Reader

/-- A number literal without its sign: the digits before and after the point, and the exponent. -/
structure Numeral where
  whole : List Char
  fraction : List Char := []
  exponent? : Option Int := none

namespace Numeral

structure IsWellFormed (n : Numeral) : Prop where
  whole_digits : ∀ c ∈ n.whole, c.isDigit = true
  fraction_digits : ∀ c ∈ n.fraction, c.isDigit = true
  whole_ne_nil : n.whole ≠ []
  no_leading_zero : n.whole.head? = some '0' → n.whole = ['0']

def fractionText (n : Numeral) : List Char :=
  match n.fraction with
  | [] => []
  | digits => '.' :: digits

def exponentText (n : Numeral) : List Char :=
  match n.exponent? with
  | none => []
  | some exponent => 'e' :: Text.integer exponent

def text (n : Numeral) : List Char := n.whole ++ (n.fractionText ++ n.exponentText)

def number (negative : Bool) (n : Numeral) : Number :=
  ⟨negative, n.fraction.isEmpty && n.exponent?.isNone,
    ⟨digitsValue (n.whole ++ n.fraction), n.exponent?.getD 0 - n.fraction.length⟩⟩

def zero : Numeral := { whole := ['0'] }

theorem zero_isWellFormed : zero.IsWellFormed where
  whole_digits := by
    intro c member
    rw [List.mem_singleton.mp member]
    rfl
  fraction_digits := nofun
  whole_ne_nil := nofun
  no_leading_zero := fun _ => rfl

end Numeral

/-- What may follow a value inside an object. -/
def EndsValue (rest : List Char) : Prop := ∀ c ∈ rest.head?, c = ',' ∨ c = '\x7d'

namespace Reader

variable {n : Numeral} {rest : List Char}

theorem noDigit_of_endsValue (ends : EndsValue rest) : NoDigit rest := by
  intro c member
  rcases ends c member with rfl | rfl <;> decide

theorem exponent?_end (ends : EndsValue rest) : exponent? rest = some (none, rest) := by
  cases rest with
  | nil => rfl
  | cons c rest => rcases ends c rfl with rfl | rfl <;> rfl

theorem exponent?_integer (exponent : Int) (ends : EndsValue rest) :
    exponent? ('e' :: (Text.integer exponent ++ rest)) = some (some exponent, rest) := by
  have read : digits? (Text.natural exponent.natAbs ++ rest) =
      some (Text.natural exponent.natAbs, rest) :=
    digits?_append (fun _ => Text.isDigit_of_mem_natural) (Text.natural_ne_nil _) (noDigit_of_endsValue ends)
  unfold Text.integer
  split
  · next negative =>
    have value : -(exponent.natAbs : Int) = exponent := by omega
    simp only [exponent?, List.cons_append, true_or, if_true, read, Option.map_some,
      digitsValue_natural, value]
  · next nonnegative =>
    have value : (exponent.natAbs : Int) = exponent := by omega
    obtain ⟨c, digits, text⟩ := List.exists_cons_of_ne_nil (Text.natural_ne_nil exponent.natAbs)
    have digit : c.isDigit = true :=
      Text.isDigit_of_mem_natural (n := exponent.natAbs) (by rw [text]; exact List.mem_cons_self)
    have unsigned : exponent? ('e' :: (Text.natural exponent.natAbs ++ rest)) =
        (digits? (Text.natural exponent.natAbs ++ rest)).map
          fun read => (some (digitsValue read.1 : Int), read.2) := by
      rw [text, List.cons_append, exponent?]
      · exact if_pos (Or.inl rfl)
      · intro tail same
        cases same
        exact absurd digit (by decide)
      · intro tail same
        cases same
        exact absurd digit (by decide)
    rw [unsigned, read, Option.map_some, digitsValue_natural, value]

theorem exponent?_text (n : Numeral) (ends : EndsValue rest) :
    exponent? (n.exponentText ++ rest) = some (n.exponent?, rest) := by
  unfold Numeral.exponentText
  split
  · next none => rw [none, List.nil_append, exponent?_end ends]
  · next exponent found => rw [found, List.cons_append, exponent?_integer exponent ends]

theorem noDigit_exponentText (n : Numeral) (ends : EndsValue rest) : NoDigit (n.exponentText ++ rest) := by
  unfold Numeral.exponentText
  split
  · exact noDigit_of_endsValue ends
  · intro c member
    cases member
    rfl

theorem fraction?_text (wf : n.IsWellFormed) (ends : EndsValue rest) :
    fraction? (n.fractionText ++ (n.exponentText ++ rest)) = some (n.fraction, n.exponentText ++ rest) := by
  unfold Numeral.fractionText
  split
  · next none =>
    rw [none, List.nil_append]
    have point : ∀ tail, n.exponentText ++ rest ≠ '.' :: tail := by
      intro tail same
      have head : (n.exponentText ++ rest).head? = some '.' := by rw [same, List.head?_cons]
      unfold Numeral.exponentText at head
      split at head
      · rcases ends '.' head with h | h <;> exact absurd h (by decide)
      · exact absurd head (by simp)
    rw [fraction?]
    exact point
  · next digits some =>
    rw [List.cons_append, fraction?]
    exact digits?_append wf.fraction_digits some (noDigit_exponentText n ends)

theorem whole?_append (wf : n.IsWellFormed) (closed : NoDigit rest) :
    whole? (n.whole ++ rest) = some (n.whole, rest) := by
  rw [whole?, digits?_append wf.whole_digits wf.whole_ne_nil closed]
  split
  · next c digits tail same =>
    have head : n.whole.head? = some '0' := by
      rw [(Prod.mk.inj (Option.some.inj same)).1, List.head?_cons]
    have single := wf.no_leading_zero head
    rw [single] at same
    exact absurd same (by simp)
  · rfl

theorem noDigit_tail (n : Numeral) (ends : EndsValue rest) :
    NoDigit (n.fractionText ++ (n.exponentText ++ rest)) := by
  unfold Numeral.fractionText
  split
  · exact noDigit_exponentText n ends
  · intro c member
    cases member
    rfl

theorem unsigned?_text (wf : n.IsWellFormed) (negative : Bool) (ends : EndsValue rest) :
    unsigned? negative (n.text ++ rest) = some (n.number negative, rest) := by
  have whole := whole?_append wf (noDigit_tail n ends)
  have fraction := fraction?_text wf ends
  have exponent := exponent?_text n ends
  rw [Numeral.text, List.append_assoc, List.append_assoc, unsigned?, whole]
  simp only [Option.bind_eq_bind, Option.bind_some, fraction, exponent]
  rfl

end Reader

end Metrology.Json

namespace Metrology.Decimal

open Json Json.Reader

def IsNormal (d : Decimal) : Prop := d.digits = 0 → d.exponent = 0

theorem trim_isNormal (d : Decimal) : d.trim.IsNormal := by
  fun_induction trim d with
  | case1 d zero => exact fun _ => rfl
  | case2 d nonzero zeros ih => exact ih
  | case3 d nonzero other => exact fun zero => absurd zero nonzero

def positionalNumeral (d : Decimal) : Numeral :=
  let digits := Text.natural d.digits
  if 0 ≤ d.exponent then { whole := digits ++ List.replicate d.exponent.toNat '0' }
  else if 0 < d.pointPlace then
    { whole := digits.take d.pointPlace.toNat, fraction := digits.drop d.pointPlace.toNat }
  else { whole := ['0'], fraction := List.replicate (-d.pointPlace).toNat '0' ++ digits }

def scientificNumeral (d : Decimal) : Numeral where
  whole := (Text.natural d.digits).take 1
  fraction := (Text.natural d.digits).drop 1
  exponent? := some (d.pointPlace - 1)

theorem isDigit_of_mem_zeros {count : Nat} {c : Char} (member : c ∈ List.replicate count '0') :
    c.isDigit = true := by
  rw [List.eq_of_mem_replicate member]
  rfl

theorem positionalNumeral_text (d : Decimal) : d.positionalNumeral.text = d.positional := by
  have count := Text.length_natural d.digits
  unfold positionalNumeral positional
  dsimp only
  split
  · simp [Numeral.text, Numeral.fractionText, Numeral.exponentText]
  · split
    · next fractional inside =>
      have shown : (Text.natural d.digits).drop d.pointPlace.toNat ≠ [] := by
        rw [ne_eq, List.drop_eq_nil_iff, count]
        simp only [pointPlace] at inside ⊢
        omega
      obtain ⟨c, digits, text⟩ := List.exists_cons_of_ne_nil shown
      simp [Numeral.text, Numeral.fractionText, Numeral.exponentText, text]
    · next fractional small =>
      have shown : List.replicate (-d.pointPlace).toNat '0' ++ Text.natural d.digits ≠ [] := by
        simp [Text.natural_ne_nil]
      obtain ⟨c, digits, text⟩ := List.exists_cons_of_ne_nil shown
      simp [Numeral.text, Numeral.fractionText, Numeral.exponentText, text]

theorem scientificNumeral_text (d : Decimal) : d.scientificNumeral.text = d.scientific := by
  obtain ⟨first, digits, text⟩ := List.exists_cons_of_ne_nil (Text.natural_ne_nil d.digits)
  unfold scientific
  cases digits with
  | nil => simp [scientificNumeral, Numeral.text, Numeral.fractionText, Numeral.exponentText, text]
  | cons second digits =>
      simp [scientificNumeral, Numeral.text, Numeral.fractionText, Numeral.exponentText, text]

theorem positionalNumeral_isWellFormed {d : Decimal} (normal : d.IsNormal) :
    d.positionalNumeral.IsWellFormed := by
  unfold positionalNumeral
  dsimp only
  split
  · next whole =>
    refine ⟨?_, ?_, ?_, ?_⟩
    · intro c member
      rcases List.mem_append.mp member with digit | zero
      · exact Text.isDigit_of_mem_natural digit
      · exact isDigit_of_mem_zeros zero
    · exact nofun
    · simp [Text.natural_ne_nil]
    · intro zero
      rw [List.head?_append_of_ne_nil _ (Text.natural_ne_nil _)] at zero
      have digits : d.digits = 0 := by
        by_contra nonzero
        exact Text.head?_natural_ne_zero nonzero zero
      rw [digits, normal digits]
      rfl
  · next fractional =>
    have nonzero : d.digits ≠ 0 := fun zero => fractional (Int.le_of_eq (normal zero).symm)
    split
    · next inside =>
      have shown : d.pointPlace.toNat ≠ 0 := by omega
      refine ⟨?_, ?_, ?_, ?_⟩
      · exact fun c member => Text.isDigit_of_mem_natural (List.mem_of_mem_take member)
      · exact fun c member => Text.isDigit_of_mem_natural (List.mem_of_mem_drop member)
      · simp [Text.natural_ne_nil, inside]
      · intro zero
        rw [List.head?_take, if_neg shown] at zero
        exact absurd zero (Text.head?_natural_ne_zero nonzero)
    · refine ⟨?_, ?_, ?_, ?_⟩
      · exact Numeral.zero_isWellFormed.whole_digits
      · intro c member
        rcases List.mem_append.mp member with zero | digit
        · exact isDigit_of_mem_zeros zero
        · exact Text.isDigit_of_mem_natural digit
      · exact nofun
      · exact fun _ => rfl

theorem scientificNumeral_isWellFormed (d : Decimal) : d.scientificNumeral.IsWellFormed where
  whole_digits := fun _ member => Text.isDigit_of_mem_natural (List.mem_of_mem_take member)
  fraction_digits := fun _ member => Text.isDigit_of_mem_natural (List.mem_of_mem_drop member)
  whole_ne_nil := by simp [scientificNumeral, Text.natural_ne_nil]
  no_leading_zero := by
    intro zero
    obtain ⟨first, digits, text⟩ := List.exists_cons_of_ne_nil (Text.natural_ne_nil d.digits)
    simp only [scientificNumeral, text, List.take_succ_cons, List.take_zero, List.head?_cons] at zero ⊢
    rw [Option.some.inj zero]

theorem scientificNumeral_decimal (d : Decimal) (negative : Bool) :
    (d.scientificNumeral.number negative).decimal = d := by
  have count := Text.length_natural d.digits
  have exponent : d.pointPlace - 1 - ((Text.natural d.digits).drop 1).length = d.exponent := by
    have some_digits := digitCount_pos d.digits
    rw [List.length_drop, count, pointPlace]
    omega
  simp only [Numeral.number, scientificNumeral, List.take_append_drop, digitsValue_natural,
    Option.getD_some, exponent]

theorem positionalNumeral_decimal (d : Decimal) (negative : Bool) :
    (d.positionalNumeral.number negative).decimal =
      if 0 ≤ d.exponent then ⟨d.digits * 10 ^ d.exponent.toNat, 0⟩ else d := by
  have count := Text.length_natural d.digits
  unfold positionalNumeral
  dsimp only
  split
  · simp [Numeral.number, digitsValue_append_zeros, digitsValue_natural]
  · split
    · next fractional inside =>
      have exponent : (0 : Int) - ((Text.natural d.digits).drop d.pointPlace.toNat).length = d.exponent := by
        rw [List.length_drop, count]
        simp only [pointPlace] at inside ⊢
        omega
      simp only [Numeral.number, List.take_append_drop, digitsValue_natural, Option.getD_none, exponent]
    · next fractional small =>
      have exponent : (0 : Int) -
          (List.replicate (-d.pointPlace).toNat '0' ++ Text.natural d.digits).length = d.exponent := by
        rw [List.length_append, List.length_replicate, count]
        simp only [pointPlace] at small ⊢
        omega
      have digits : digitsValue (['0'] ++ (List.replicate (-d.pointPlace).toNat '0' ++ Text.natural d.digits)) =
          d.digits := by
        rw [← List.append_assoc, ← List.replicate_one, List.replicate_append_replicate,
          digitsValue_zeros_append, digitsValue_natural]
      simp only [Numeral.number, digits, Option.getD_none, exponent]

theorem positionalNumeral_value (d : Decimal) (negative : Bool) :
    (d.positionalNumeral.number negative).decimal.value = d.value := by
  rw [positionalNumeral_decimal]
  split
  · next whole =>
    have exponent : d.exponent = (d.exponent.toNat : Int) := by omega
    rw [value, value, exponent, zpow_natCast, Int.toNat_natCast]
    push_cast
    ring
  · rfl

end Metrology.Decimal

import Metrology.Precision
import Metrology.Proofs.Json.Numeral
import Metrology.Text

namespace Metrology.Json

open Reader

/-- The text is read as one value, or as none, wherever a value may stand. -/
def Reads (text : List Char) (outcome : Option Json) : Prop :=
  ∀ (fuel : Nat) (rest : List Char), text.length < fuel → EndsValue rest →
    value? fuel (text ++ rest) = outcome.map fun json => (json, rest)

theorem parse?_of_reads {text : List Char} {outcome : Option Json} (reads : Reads text outcome) :
    parse? text = outcome := by
  have whole := reads (2 * text.length + 2) [] (by omega) nofun
  rw [List.append_nil] at whole
  rw [parse?, whole]
  cases outcome <;> rfl

theorem skipBlanks_cons {c : Char} (text : List Char) (visible : isBlank c = false) :
    skipBlanks (c :: text) = c :: text := by
  rw [skipBlanks, List.dropWhile_cons_of_neg (by simp [visible])]

theorem isBlank_of_isDigit {c : Char} (digit : c.isDigit = true) : isBlank c = false := by
  simp only [isBlank, Bool.or_eq_false_iff, decide_eq_false_iff_not]
  refine ⟨⟨⟨?_, ?_⟩, ?_⟩, ?_⟩ <;> rintro rfl <;> exact absurd digit (by decide)

theorem value?_number {c : Char} (starts : c.isDigit = true ∨ c = '-') (fuel : Nat) (text : List Char) :
    value? (fuel + 1) (c :: text) = (number? (c :: text)).map fun read => (.number read.1, read.2) := by
  have visible : isBlank c = false := by
    rcases starts with digit | rfl
    · exact isBlank_of_isDigit digit
    · rfl
  have other : ∀ d : Char, d.isDigit = false → d ≠ '-' → c ≠ d := by
    rintro d no_digit no_sign rfl
    rcases starts with digit | sign
    · rw [no_digit] at digit
      exact Bool.false_ne_true digit
    · exact no_sign sign
  rw [value?, skipBlanks_cons text visible]
  split
  · next same => exact absurd (List.cons.inj same).1 (other _ rfl (by decide))
  · next same => exact absurd (List.cons.inj same).1 (other _ rfl (by decide))
  · next same => exact absurd (List.cons.inj same).1 (other _ rfl (by decide))
  · next same => exact absurd (List.cons.inj same).1 (other _ rfl (by decide))
  · next same => exact absurd (List.cons.inj same).1 (other _ rfl (by decide))
  · next same => exact absurd (List.cons.inj same).1 (other _ rfl (by decide))
  · rfl

theorem number?_digit {c : Char} (digit : c.isDigit = true) (text : List Char) :
    number? (c :: text) = unsigned? false (c :: text) := by
  rw [number?]
  intro rest same
  rw [(List.cons.inj same).1] at digit
  exact absurd digit (by decide)

theorem reads_numeral {n : Numeral} (wf : n.IsWellFormed) (negative : Bool) :
    Reads (signText negative ++ n.text) (some (.number (n.number negative))) := by
  intro fuel rest enough ends
  obtain ⟨steps, rfl⟩ : ∃ steps, fuel = steps + 1 := ⟨fuel - 1, by omega⟩
  have read := unsigned?_text wf negative ends
  cases negative with
  | true =>
      change value? (steps + 1) ('-' :: (n.text ++ rest)) = _
      rw [value?_number (Or.inr rfl), number?, read]
      rfl
  | false =>
      obtain ⟨c, digits, whole⟩ := List.exists_cons_of_ne_nil wf.whole_ne_nil
      have digit : c.isDigit = true := wf.whole_digits c (by rw [whole]; exact List.mem_cons_self)
      obtain ⟨tail, text⟩ : ∃ tail, n.text ++ rest = c :: tail := by
        rw [Numeral.text, whole]
        exact ⟨_, rfl⟩
      change value? (steps + 1) (n.text ++ rest) = _
      rw [text, value?_number (Or.inl digit), number?_digit digit, ← text, read]
      rfl

theorem reads_null : Reads "null".toList (some .null) := by
  intro fuel rest enough ends
  obtain ⟨steps, rfl⟩ : ∃ steps, fuel = steps + 1 := ⟨fuel - 1, by omega⟩
  change value? (steps + 1) ('n' :: 'u' :: 'l' :: 'l' :: rest) = _
  rw [value?, skipBlanks_cons _ rfl]
  rfl

theorem reads_inf (negative : Bool) : Reads (signText negative ++ "inf".toList) none := by
  intro fuel rest enough ends
  obtain ⟨steps, rfl⟩ : ∃ steps, fuel = steps + 1 := ⟨fuel - 1, by omega⟩
  cases negative with
  | true =>
      change value? (steps + 1) ('-' :: 'i' :: 'n' :: 'f' :: rest) = _
      rw [value?_number (Or.inr rfl)]
      rfl
  | false =>
      change value? (steps + 1) ('i' :: 'n' :: 'f' :: rest) = _
      rw [value?, skipBlanks_cons _ rfl]
      rfl

def isPlainChar (c : Char) : Bool := c != '"' && c != '\\' && decide (0x20 ≤ c.toNat)

def points (text : List Char) : Points := text.map Char.toNat

theorem codeUnits?_plain {text : List Char} (plain : text.all isPlainChar = true) (rest : List Char) :
    codeUnits? (text ++ '"' :: rest) = some (points text, rest) := by
  induction text with
  | nil => rfl
  | cons c text ih =>
      simp only [List.all_cons, Bool.and_eq_true, isPlainChar, bne_iff_ne, decide_eq_true_eq] at plain
      obtain ⟨⟨⟨no_quote, no_escape⟩, visible⟩, later⟩ := plain
      have keeps : ¬(c.toNat < 0x20 ∨ c = '\\') := by
        rintro (control | escape)
        · omega
        · exact no_escape escape
      rw [List.cons_append, codeUnits?, if_neg keeps, ih later]
      · rfl
      · exact no_quote
      · exact fun _ _ _ _ _ same => absurd same no_escape
      · exact fun _ _ same => absurd same no_escape

theorem joinPairs_points (text : List Char) : joinPairs (points text) = points text := by
  induction text with
  | nil => rfl
  | cons c text ih =>
      cases text with
      | nil => rfl
      | cons d text =>
          -- No character is half of a surrogate pair.
          have whole : ¬(0xd800 ≤ c.toNat ∧ c.toNat < 0xdc00 ∧ 0xdc00 ≤ d.toNat ∧ d.toNat < 0xe000) := by
            have valid : c.toNat < 0xd800 ∨ 0xdfff < c.toNat ∧ c.toNat < 0x110000 := c.valid
            omega
          change joinPairs (c.toNat :: d.toNat :: points text) = _
          rw [joinPairs, if_neg whole]
          exact congrArg (c.toNat :: ·) ih

theorem string?_plain {text : List Char} (plain : text.all isPlainChar = true) (rest : List Char) :
    string? (text ++ '"' :: rest) = some (points text, rest) := by
  rw [string?, codeUnits?_plain plain, Option.map_some, joinPairs_points]

theorem reads_quoted {text : List Char} (plain : text.all isPlainChar = true) :
    Reads (Text.quoted text) (some (.string (points text))) := by
  intro fuel rest enough ends
  obtain ⟨steps, rfl⟩ : ∃ steps, fuel = steps + 1 := ⟨fuel - 1, by omega⟩
  have read := string?_plain plain rest
  have shape : Text.quoted text ++ rest = '"' :: (text ++ '"' :: rest) := by simp [Text.quoted]
  rw [shape, value?, skipBlanks_cons _ rfl]
  simp only [read, Option.map_some]

/-- A member that is written: its label, the text of its value, and what that is read as. -/
structure Field where
  label : List Char
  text : List Char
  outcome : Option Json

namespace Field

def written (f : Field) : List Char := Text.labelled (Text.quoted f.label) f.text

def member? (f : Field) : Option (Points × Json) := f.outcome.map fun json => (points f.label, json)

structure IsRead (f : Field) : Prop where
  plain : f.label.all isPlainChar = true
  reads : Reads f.text f.outcome

theorem length_written (f : Field) : f.written.length = f.label.length + f.text.length + 3 := by
  simp [written, Text.labelled, Text.quoted]
  omega

theorem written_append (f : Field) (tail : List Char) :
    f.written ++ tail = '"' :: (f.label ++ '"' :: ':' :: (f.text ++ tail)) := by
  simp [written, Text.labelled, Text.quoted]

end Field

theorem members?_last {f : Field} (read : f.IsRead) {fuel : Nat} (enough : f.text.length < fuel)
    (rest : List Char) :
    members? (fuel + 1) (f.written ++ '\x7d' :: rest) = f.member?.map fun member => ([member], rest) := by
  have ends : EndsValue ('\x7d' :: rest) := by
    rintro c ⟨⟩
    exact Or.inr rfl
  have label := string?_plain read.plain (':' :: (f.text ++ '\x7d' :: rest))
  have colon : skipBlanks (':' :: (f.text ++ '\x7d' :: rest)) = _ := skipBlanks_cons _ rfl
  have brace : skipBlanks ('\x7d' :: rest) = _ := skipBlanks_cons _ rfl
  have value := read.reads fuel ('\x7d' :: rest) enough ends
  rw [f.written_append, members?, skipBlanks_cons _ rfl]
  simp only [label, Option.bind_eq_bind, Option.bind_some, colon, value, Field.member?]
  cases f.outcome with
  | none => rfl
  | some json =>
      simp only [Option.map_some, Option.bind_some, brace]
      rfl

theorem members?_cons {f : Field} (read : f.IsRead) {fuel : Nat} (enough : f.text.length < fuel)
    (rest : List Char) :
    members? (fuel + 1) (f.written ++ ',' :: rest) =
      f.member?.bind fun member => (members? fuel rest).map fun read => (member :: read.1, read.2) := by
  have ends : EndsValue (',' :: rest) := by
    rintro c ⟨⟩
    exact Or.inl rfl
  have label := string?_plain read.plain (':' :: (f.text ++ ',' :: rest))
  have colon : skipBlanks (':' :: (f.text ++ ',' :: rest)) = _ := skipBlanks_cons _ rfl
  have comma : skipBlanks (',' :: rest) = _ := skipBlanks_cons _ rfl
  have value := read.reads fuel (',' :: rest) enough ends
  rw [f.written_append, members?, skipBlanks_cons _ rfl]
  simp only [label, Option.bind_eq_bind, Option.bind_some, colon, value, Field.member?]
  cases f.outcome with
  | none => rfl
  | some json =>
      simp only [Option.map_some, Option.bind_some, comma]
      exact Option.map_eq_bind.symm

theorem members?_joined {fields : List Field} (nonempty : fields ≠ []) (read : ∀ f ∈ fields, f.IsRead)
    (fuel : Nat) (enough : (Text.joined [','] (fields.map Field.written)).length < fuel)
    (rest : List Char) :
    members? fuel (Text.joined [','] (fields.map Field.written) ++ '\x7d' :: rest) =
      (fields.mapM Field.member?).map fun members => (members, rest) := by
  -- Over the members; the first one that is not read stops the reader.
  induction fields generalizing fuel with
  | nil => exact absurd rfl nonempty
  | cons f fields ih =>
      obtain ⟨steps, rfl⟩ : ∃ steps, fuel = steps + 1 := ⟨fuel - 1, by omega⟩
      have here := read f List.mem_cons_self
      have size := f.length_written
      cases fields with
      | nil =>
          simp only [List.map_cons, List.map_nil, Text.joined, List.intercalate_singleton] at enough ⊢
          rw [members?_last here (by omega), List.mapM_cons, List.mapM_nil]
          cases f.member? with
          | none => rfl
          | some member => rfl
      | cons g fields =>
          have later_read : ∀ h ∈ g :: fields, h.IsRead := fun h member => read h (List.mem_cons_of_mem f member)
          have later := ih (List.cons_ne_nil g fields) later_read steps
          simp only [List.map_cons, Text.joined, List.intercalate_cons_cons, List.length_append,
            List.length_cons, List.append_assoc, List.cons_append, List.nil_append] at enough later ⊢
          rw [members?_cons here (by omega), List.mapM_cons, later (by omega)]
          cases f.member? with
          | none => rfl
          | some member =>
              cases (g :: fields).mapM Field.member? with
              | none => rfl
              | some members => rfl

theorem reads_braced {fields : List Field} (nonempty : fields ≠ []) (read : ∀ f ∈ fields, f.IsRead) :
    Reads (Text.braced (fields.map Field.written)) ((fields.mapM Field.member?).map Json.object) := by
  intro fuel rest enough ends
  obtain ⟨steps, rfl⟩ : ∃ steps, fuel = steps + 1 := ⟨fuel - 1, by omega⟩
  have inside : (Text.joined [','] (fields.map Field.written)).length < steps := by
    simp only [Text.braced, List.length_cons, List.length_append] at enough
    omega
  have members := members?_joined nonempty read steps inside rest
  have shape : Text.braced (fields.map Field.written) ++ rest =
      '\x7b' :: (Text.joined [','] (fields.map Field.written) ++ '\x7d' :: rest) := by
    simp [Text.braced]
  obtain ⟨f, later, rfl⟩ := List.exists_cons_of_ne_nil nonempty
  obtain ⟨tail, quote⟩ : ∃ tail, Text.joined [','] ((f :: later).map Field.written) ++ '\x7d' :: rest =
      '"' :: tail := by
    cases later with
    | nil =>
        rw [List.map_cons, List.map_nil, Text.joined, List.intercalate_singleton]
        exact ⟨_, f.written_append _⟩
    | cons g later =>
        rw [List.map_cons, List.map_cons, Text.joined, List.intercalate_cons_cons, List.append_assoc,
          List.append_assoc]
        exact ⟨_, f.written_append _⟩
  rw [shape, value?, skipBlanks_cons _ rfl]
  rw [quote] at members ⊢
  have opening : skipBlanks ('"' :: tail) = '"' :: tail := skipBlanks_cons _ rfl
  simp only [opening]
  change (members? steps ('"' :: tail)).map _ = _
  rw [members, Option.map_map, Option.map_map]
  rfl

end Metrology.Json

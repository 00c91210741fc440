import Mathlib.Data.List.Basic
import Metrology.Proofs.Dimension.Algebra
import Metrology.Proofs.Text.Alphabet

/-!
The four texts of a dimension, read back. A text is cut into pieces, and a piece names a base dimension up to a
mark and writes its exponent behind it. The pieces that name none are punctuation, and the base dimensions that
no piece names have the exponent zero.
-/

namespace Metrology

namespace Text

def integerValue : List Char → Int
  | '-' :: digits => -(Json.Reader.digitsValue digits : Int)
  | digits => Json.Reader.digitsValue digits

theorem integerValue_integer (n : Int) : integerValue (integer n) = n := by
  unfold integer
  split
  · next negative =>
    rw [integerValue, Json.Reader.digitsValue_natural]
    omega
  · next nonnegative =>
    have digits : integerValue (natural n.natAbs) = Json.Reader.digitsValue (natural n.natAbs) := by
      rw [integerValue.eq_2]
      intro rest signed
      have digit : '-'.isDigit = true :=
        isDigit_of_mem_natural (n := n.natAbs) (by rw [signed]; exact List.mem_cons_self)
      exact absurd digit (by decide)
    rw [digits, Json.Reader.digitsValue_natural]
    omega

theorem filter_integer (n : Int) : (integer n).filter isNumberChar = integer n :=
  List.filter_eq_self.mpr (isNumberChar_integer n)

theorem notMem_integer {c : Char} (other : isNumberChar c = false) (n : Int) : c ∉ integer n := by
  intro member
  rw [isNumberChar_integer n c member] at other
  cases other

theorem joined_nil_cons (separator : Char) (texts : List (List Char)) :
    joined [separator] ([] :: texts) = texts.flatMap (separator :: ·) := by
  have first (text : List Char) :
      joined [separator] (text :: texts) = text ++ texts.flatMap (separator :: ·) := by
    induction texts generalizing text with
    | nil => simp [joined]
    | cons next texts ih =>
        change [separator].intercalate (text :: next :: texts) = _
        rw [List.intercalate_cons_cons]
        change text ++ [separator] ++ joined [separator] (next :: texts) = _
        simp [ih next]
  exact first []

end Text

namespace DimensionSet

def ofEntries (entries : List (BaseDimension × Int8)) : DimensionSet :=
  ofExponents fun base => (entries.lookup base).getD 0

theorem lookup_nonzero (f : BaseDimension → Int8) (base : BaseDimension) (bases : List BaseDimension) :
    (((bases.map fun b => (b, f b)).filter fun entry => entry.2 != 0).lookup base).getD 0 =
      if base ∈ bases then f base else 0 := by
  induction bases with
  | nil => rfl
  | cons first bases ih =>
      rw [List.map_cons, List.filter_cons]
      by_cases here : base = first
      · subst here
        by_cases zero : f base = 0
        · simp [zero, ih]
        · simp [zero]
      · have other : (base == first) = false := beq_eq_false_iff_ne.mpr here
        split
        · simp [here, other, ih, List.lookup_cons]
        · simp [here, ih]

theorem ofEntries_entries (d : DimensionSet) : ofEntries d.entries = d := by
  apply ext_exponent
  intro base
  rw [ofEntries, exponent_ofExponents, entries, lookup_nonzero, if_pos base.mem_all]

theorem exponent_ne_zero_of_mem_entries {d : DimensionSet} {entry : BaseDimension × Int8}
    (member : entry ∈ d.entries) : entry.2 ≠ 0 := by
  have nonzero := (List.mem_filter.mp member).2
  simpa using nonzero

/-- How pieces name base dimensions: by a label that ends where a mark stands. -/
structure Labelling where
  label : BaseDimension → List Char
  mark : Char
  distinct : ∀ base, BaseDimension.all.find? (fun other => label other == label base) = some base := by
    intro base
    cases base <;> decide
  named : BaseDimension.all.find? (fun base => label base == []) = none := by decide
  closed : ∀ base, (label base).all (· != mark) = true := by
    intro base
    cases base <;> decide
  not_isNumberChar : Text.isNumberChar mark = false := by decide

namespace Labelling

def symbols : Labelling where
  label base := base.symbol.toList
  mark := '^'

def keys : Labelling where
  label base := base.key.toList
  mark := ':'

def quotedKeys : Labelling where
  label base := Text.quoted base.key.toList
  mark := ':'

def tags : Labelling where
  label base := base.key.toList
  mark := '>'

def exponentOf : List Char → Int8
  | [] => 1
  | text => Int8.ofInt (Text.integerValue (text.filter Text.isNumberChar))

def entryOf? (l : Labelling) (piece : List Char) : Option (BaseDimension × Int8) :=
  (BaseDimension.all.find? fun base => l.label base == piece.takeWhile (· != l.mark)).map fun base =>
    (base, exponentOf (piece.dropWhile (· != l.mark)))

def read (l : Labelling) (pieces : List (List Char)) : DimensionSet := ofEntries (pieces.filterMap l.entryOf?)

def piece (l : Labelling) (entry : BaseDimension × Int8) : List Char :=
  l.label entry.1 ++ l.mark :: Text.integer entry.2.toInt

theorem entryOf?_nil (l : Labelling) : l.entryOf? [] = none := by
  rw [entryOf?, List.takeWhile_nil, l.named, Option.map_none]

theorem entryOf?_label (l : Labelling) (base : BaseDimension) {rest : List Char}
    (marked : ∀ c ∈ rest.head?, (c != l.mark) = false) :
    l.entryOf? (l.label base ++ rest) = some (base, exponentOf rest) := by
  have letters := List.all_eq_true.mp (l.closed base)
  rw [entryOf?, Text.takeWhile_append_closed letters marked, Text.dropWhile_append_closed letters marked,
    l.distinct base, Option.map_some]

theorem exponentOf_cons {first : Char} {rest : List Char} {n : Int8}
    (written : (first :: rest).filter Text.isNumberChar = Text.integer n.toInt) :
    exponentOf (first :: rest) = n := by
  rw [exponentOf, written, Text.integerValue_integer, Int8.ofInt_toInt]
  exact List.cons_ne_nil first rest

theorem entryOf?_piece (l : Labelling) (entry : BaseDimension × Int8) : l.entryOf? (l.piece entry) = some entry := by
  have marked : ∀ c ∈ (l.mark :: Text.integer entry.2.toInt).head?, (c != l.mark) = false := by simp
  rw [piece, entryOf?_label l entry.1 marked, exponentOf_cons]
  rw [List.filter_cons, l.not_isNumberChar, Text.filter_integer]
  rfl

theorem notMem_piece {l : Labelling} {c : Char} (other : Text.isNumberChar c = false) (apart : c ≠ l.mark)
    (outside : ∀ base, c ∉ l.label base) (entry : BaseDimension × Int8) : c ∉ l.piece entry := by
  simp [piece, apart, outside entry.1, Text.notMem_integer other entry.2.toInt]

theorem entryOf?_power {n : Int8} (nonzero : n ≠ 0) (base : BaseDimension) :
    symbols.entryOf? (base.power n) = some (base, n) := by
  unfold BaseDimension.power
  rw [if_neg nonzero]
  split
  · next one =>
    rw [one, ← List.append_nil base.symbol.toList]
    exact symbols.entryOf?_label base nofun
  · split
    · exact symbols.entryOf?_piece (base, n)
    · have marked : ∀ c ∈ ('^' :: '(' :: (Text.integer n.toInt ++ [')'])).head?, (c != '^') = false := by simp
      have opening : ['^', '('].filter Text.isNumberChar = [] := by decide
      have closing : [')'].filter Text.isNumberChar = [] := by decide
      have number : ('^' :: '(' :: (Text.integer n.toInt ++ [')'])).filter Text.isNumberChar =
          Text.integer n.toInt := by
        change (['^', '('] ++ (Text.integer n.toInt ++ [')'])).filter Text.isNumberChar = _
        rw [List.filter_append, List.filter_append, opening, closing, Text.filter_integer, List.nil_append,
          List.append_nil]
      refine (symbols.entryOf?_label base marked).trans ?_
      rw [exponentOf_cons number]

/-- Pieces that are joined by a separator are read as the set that they list. Without any, the text is a single
piece that names nothing. -/
theorem read_joined {l : Labelling} {written : BaseDimension × Int8 → List Char} {separator : Char}
    {d : DimensionSet} (apart : ∀ entry ∈ d.entries, separator ∉ written entry)
    (reads : ∀ entry ∈ d.entries, l.entryOf? (written entry) = some entry) :
    l.read ((Text.joined [separator] (d.entries.map written)).splitOn separator) = d := by
  cases listed : d.entries with
  | nil =>
      rw [← ofEntries_entries d, listed]
      change l.read (([] : List Char).splitOn separator) = _
      rw [List.splitOn_nil, read, List.filterMap_cons_none l.entryOf?_nil, List.filterMap_nil]
  | cons entry rest =>
      have found : (d.entries.map written).filterMap l.entryOf? = d.entries := by
        rw [List.filterMap_map]
        exact (List.filterMap_congr reads).trans List.filterMap_some
      rw [← listed, Text.joined, List.splitOn_intercalate separator, read, found, ofEntries_entries]
      · exact List.forall_mem_map.mpr apart
      · rw [listed]
        exact List.cons_ne_nil _ _

end Labelling

def ofPrinted (text : List Char) : DimensionSet := Labelling.symbols.read (text.splitOn '·')

def Labelling.readBraced (l : Labelling) (text : List Char) : DimensionSet :=
  l.read ((text.drop 1).dropLast.splitOn ',')

def ofJson (text : List Char) : DimensionSet := Labelling.quotedKeys.readBraced text

def ofYaml (text : List Char) : DimensionSet := Labelling.keys.readBraced text

def ofXml (text : List Char) : DimensionSet := Labelling.tags.read (text.splitOn '<')

theorem separator_notMem_power (base : BaseDimension) (n : Int8) : '·' ∉ base.power n := by
  have symbol : '·' ∉ base.symbol.toList := by cases base <;> decide
  have number := Text.notMem_integer (c := '·') (by decide) n.toInt
  unfold BaseDimension.power
  split_ifs <;> simp [symbol, number]

theorem ofPrinted_print (d : DimensionSet) : ofPrinted d.print = d := by
  cases listed : d.entries with
  | nil =>
      rw [ofPrinted, print, listed, ← ofEntries_entries d, listed]
      decide
  | cons entry rest =>
      have text : d.print = Text.joined ['·'] (d.entries.map fun entry => entry.1.power entry.2) := by
        rw [print, listed]
      rw [ofPrinted, text]
      apply Labelling.read_joined
      · exact fun entry _ => separator_notMem_power entry.1 entry.2
      · exact fun entry member => Labelling.entryOf?_power (exponent_ne_zero_of_mem_entries member) entry.1

theorem Labelling.readBraced_braced {l : Labelling} (mark : ',' ≠ l.mark) (label : ∀ base, ',' ∉ l.label base)
    (d : DimensionSet) : l.readBraced (Text.braced (d.entries.map l.piece)) = d := by
  rw [readBraced, Text.braced, List.drop_succ_cons, List.drop_zero, List.dropLast_concat]
  exact read_joined (fun entry _ => notMem_piece (by decide) mark label entry) fun entry _ => l.entryOf?_piece entry

theorem ofJson_json (d : DimensionSet) : ofJson d.json = d := by
  apply Labelling.readBraced_braced
  · decide
  · intro base
    cases base <;> decide

theorem ofYaml_yaml (d : DimensionSet) : ofYaml d.yaml = d := by
  apply Labelling.readBraced_braced
  · decide
  · intro base
    cases base <;> decide

def closingTag (base : BaseDimension) : List Char := '/' :: (base.key.toList ++ ['>'])

theorem xml_eq_joined (d : DimensionSet) :
    d.xml = Text.joined ['<']
      ([] :: d.entries.flatMap fun entry => [Labelling.tags.piece entry, closingTag entry.1]) := by
  rw [Text.joined_nil_cons, List.flatMap_assoc, xml]
  congr 1
  funext entry
  simp [Text.element, Labelling.piece, Labelling.tags, closingTag]

theorem entryOf?_closingTag (base : BaseDimension) : Labelling.tags.entryOf? (closingTag base) = none := by
  cases base <;> decide

theorem ofXml_xml (d : DimensionSet) : ofXml d.xml = d := by
  have apart (entry : BaseDimension × Int8) : '<' ∉ Labelling.tags.piece entry := by
    apply Labelling.notMem_piece
    · decide
    · decide
    · intro base
      cases base <;> decide
  have apart_closing (base : BaseDimension) : '<' ∉ closingTag base := by
    cases base <;> decide
  rw [ofXml, xml_eq_joined, Text.joined, List.splitOn_intercalate '<', Labelling.read,
    List.filterMap_cons_none (Labelling.entryOf?_nil _), List.filterMap_flatMap]
  · simp only [List.filterMap_cons, Labelling.entryOf?_piece, entryOf?_closingTag, List.filterMap_nil,
      List.flatMap_singleton', ofEntries_entries]
  · intro text member
    rcases List.mem_cons.mp member with rfl | member
    · exact List.not_mem_nil
    · obtain ⟨entry, -, member⟩ := List.mem_flatMap.mp member
      rcases List.mem_cons.mp member with rfl | member
      · exact apart entry
      · rw [List.mem_singleton.mp member]
        exact apart_closing entry.1
  · exact List.cons_ne_nil _ _

/-- Each of the four texts of a dimension can be read back to all seven exponents, so dimensions with a text in common
are equal. A single one, empty braces and no text at all stand for the dimension without any exponents. -/
theorem texts_identify_dimension (a b : DimensionSet) :
    ((a.print = b.print ↔ a = b) ∧ (a.json = b.json ↔ a = b) ∧ (a.xml = b.xml ↔ a = b) ∧
      (a.yaml = b.yaml ↔ a = b)) ∧
    (ofPrinted a.print = a ∧ ofJson a.json = a ∧ ofXml a.xml = a ∧ ofYaml a.yaml = a) ∧
    (a.print = "1".toList ↔ a = dimensionless) ∧ (a.json = "\x7b\x7d".toList ↔ a = dimensionless) ∧
    (a.xml = [] ↔ a = dimensionless) ∧ (a.yaml = "\x7b\x7d".toList ↔ a = dimensionless) := by
  have print : Function.Injective DimensionSet.print := Function.LeftInverse.injective ofPrinted_print
  have json : Function.Injective DimensionSet.json := Function.LeftInverse.injective ofJson_json
  have xml : Function.Injective DimensionSet.xml := Function.LeftInverse.injective ofXml_xml
  have yaml : Function.Injective DimensionSet.yaml := Function.LeftInverse.injective ofYaml_yaml
  refine ⟨⟨print.eq_iff, json.eq_iff, xml.eq_iff, yaml.eq_iff⟩,
    ⟨ofPrinted_print a, ofJson_json a, ofXml_xml a, ofYaml_yaml a⟩, ?_, ?_, ?_, ?_⟩
  · exact print.eq_iff (b := dimensionless)
  · exact json.eq_iff (b := dimensionless)
  · exact xml.eq_iff (b := dimensionless)
  · exact yaml.eq_iff (b := dimensionless)

example : ofPrinted "T^(-2)·L^(-1)·M".toList = { time := -2, length := -1, mass := 1 } := by decide

end DimensionSet

end Metrology

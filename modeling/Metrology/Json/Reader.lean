import Metrology.Decimal

/-!
JSON values as they are written, and the reading of JSON text. Numbers keep their decimal, objects keep
repeated keys, and strings keep escapes that name half of a surrogate pair, which is no character. Each
reader of a value decides what it accepts.

Every function of the reader takes the characters that are left and returns what it read with the
characters after it.
-/

namespace Metrology

namespace Json

/-- A number as written. `isInteger` says that it has neither a fraction nor an exponent. -/
structure Number where
  negative : Bool
  isInteger : Bool
  decimal : Decimal
  deriving Repr, DecidableEq

abbrev Points := List Nat

end Json

inductive Json where
  | null
  | bool (b : Bool)
  | number (n : Json.Number)
  | string (points : Json.Points)
  | array (items : List Json)
  | object (members : List (Json.Points × Json))

namespace Json

def ofString (text : String) : Json := .string (text.toList.map Char.toNat)

def Points.text? (points : Points) : Option String :=
  (points.mapM fun (point : Nat) => if point.isValidChar then some (Char.ofNat point) else none).map String.ofList

def text? : Json → Option String
  | string points => points.text?
  | _ => none

end Json

end Metrology

namespace Metrology.Json.Reader

/-- The blanks of JSON, fewer than those of Unicode. -/
def isBlank (c : Char) : Bool := c = ' ' || c = '\t' || c = '\n' || c = '\r'

def skipBlanks (text : List Char) : List Char := text.dropWhile isBlank

def digitsValue (digits : List Char) : Nat :=
  digits.foldl (fun value c => value * 10 + (c.toNat - '0'.toNat)) 0

def digits? (text : List Char) : Option (List Char × List Char) :=
  match text.takeWhile Char.isDigit with
  | [] => none
  | digits => some (digits, text.dropWhile Char.isDigit)

def whole? (text : List Char) : Option (List Char × List Char) :=
  match digits? text with
  | some ('0' :: _ :: _, _) => none
  | read => read

def fraction? : List Char → Option (List Char × List Char)
  | '.' :: rest => digits? rest
  | text => some ([], text)

def exponent? : List Char → Option (Option Int × List Char)
  | c :: rest =>
    if c = 'e' ∨ c = 'E' then
      match rest with
      | '+' :: rest => (digits? rest).map fun read => (some (digitsValue read.1 : Int), read.2)
      | '-' :: rest => (digits? rest).map fun read => (some (-(digitsValue read.1 : Int)), read.2)
      | rest => (digits? rest).map fun read => (some (digitsValue read.1 : Int), read.2)
    else some (none, c :: rest)
  | [] => some (none, [])

def unsigned? (negative : Bool) (text : List Char) : Option (Number × List Char) := do
  let (whole, text) ← whole? text
  let (fraction, text) ← fraction? text
  let (exponent, text) ← exponent? text
  let decimal : Decimal := ⟨digitsValue (whole ++ fraction), exponent.getD 0 - fraction.length⟩
  return (⟨negative, fraction.isEmpty && exponent.isNone, decimal⟩, text)

def number? : List Char → Option (Number × List Char)
  | '-' :: rest => unsigned? true rest
  | text => unsigned? false text

def hexDigit? (c : Char) : Option Nat :=
  if '0' ≤ c ∧ c ≤ '9' then some (c.toNat - '0'.toNat)
  else if 'a' ≤ c ∧ c ≤ 'f' then some (c.toNat - 'a'.toNat + 10)
  else if 'A' ≤ c ∧ c ≤ 'F' then some (c.toNat - 'A'.toNat + 10)
  else none

def codeUnit? (a b c d : Char) : Option Nat := do
  return ((← hexDigit? a) * 16 + (← hexDigit? b)) * 256 + (← hexDigit? c) * 16 + (← hexDigit? d)

def escape? : Char → Option Nat
  | '"' => some 0x22
  | '\\' => some 0x5c
  | '/' => some 0x2f
  | 'b' => some 0x08
  | 'f' => some 0x0c
  | 'n' => some 0x0a
  | 'r' => some 0x0d
  | 't' => some 0x09
  | _ => none

def codeUnits? : List Char → Option (List Nat × List Char)
  | [] => none
  | '"' :: rest => some ([], rest)
  | '\\' :: 'u' :: a :: b :: c :: d :: rest => do
    let unit ← codeUnit? a b c d
    let (units, text) ← codeUnits? rest
    return (unit :: units, text)
  | '\\' :: c :: rest => do
    let point ← escape? c
    let (units, text) ← codeUnits? rest
    return (point :: units, text)
  | c :: rest =>
    if c.toNat < 0x20 ∨ c = '\\' then none
    else do
      let (units, text) ← codeUnits? rest
      return (c.toNat :: units, text)

/-- Joins the two halves of each surrogate pair to one code point. -/
def joinPairs : List Nat → Points
  | high :: low :: rest =>
    if 0xd800 ≤ high ∧ high < 0xdc00 ∧ 0xdc00 ≤ low ∧ low < 0xe000 then
      (0x10000 + (high - 0xd800) * 0x400 + (low - 0xdc00)) :: joinPairs rest
    else high :: joinPairs (low :: rest)
  | units => units

def string? (text : List Char) : Option (Points × List Char) :=
  (codeUnits? text).map fun read => (joinPairs read.1, read.2)

def afterWord? : List Char → List Char → Option (List Char)
  | [], text => some text
  | c :: word, d :: text => if c = d then afterWord? word text else none
  | _, _ => none

mutual

def value? : Nat → List Char → Option (Json × List Char)
  | 0, _ => none
  | fuel + 1, text =>
    match skipBlanks text with
    | '"' :: rest => (string? rest).map fun read => (.string read.1, read.2)
    | '[' :: rest =>
      match skipBlanks rest with
      | ']' :: rest => some (.array [], rest)
      | rest => (items? fuel rest).map fun read => (.array read.1, read.2)
    | '\x7b' :: rest =>
      match skipBlanks rest with
      | '\x7d' :: rest => some (.object [], rest)
      | rest => (members? fuel rest).map fun read => (.object read.1, read.2)
    | 'n' :: rest => (afterWord? "ull".toList rest).map fun rest => (.null, rest)
    | 't' :: rest => (afterWord? "rue".toList rest).map fun rest => (.bool true, rest)
    | 'f' :: rest => (afterWord? "alse".toList rest).map fun rest => (.bool false, rest)
    | text => (number? text).map fun read => (.number read.1, read.2)

def items? : Nat → List Char → Option (List Json × List Char)
  | 0, _ => none
  | fuel + 1, text => do
    let (item, text) ← value? fuel text
    match skipBlanks text with
    | ',' :: text => do
      let (items, text) ← items? fuel text
      return (item :: items, text)
    | ']' :: text => return ([item], text)
    | _ => none

def members? : Nat → List Char → Option (List (Points × Json) × List Char)
  | 0, _ => none
  | fuel + 1, text =>
    match skipBlanks text with
    | '"' :: text => do
      let (key, text) ← string? text
      match skipBlanks text with
      | ':' :: text => do
        let (value, text) ← value? fuel text
        match skipBlanks text with
        | ',' :: text => do
          let (members, text) ← members? fuel text
          return ((key, value) :: members, text)
        | '\x7d' :: text => return ([(key, value)], text)
        | _ => none
      | _ => none
    | _ => none

end

end Metrology.Json.Reader

namespace Metrology.Json

/-- The value that a whole text stands for; blanks around it are allowed, anything else is not. Every
second step of the reader takes a character, which bounds the number of steps. -/
def parse? (text : List Char) : Option Json :=
  match Reader.value? (2 * text.length + 2) text with
  | some (json, rest) => if (Reader.skipBlanks rest).isEmpty then some json else none
  | none => none

end Metrology.Json

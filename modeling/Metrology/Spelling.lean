import Metrology.Text

/-!
Tables of spellings, each naming one value of a closed set, and the look-up of a text in them.

A table has two indexes. `exact` maps each key to the value that was entered first under it; `folded`
maps each key without regard to case to the distinct values entered under it. A text is looked up in
`exact` first and then in `folded`, where it must name a single value.

In a key blanks and carets are left out, product signs become `*`, superscripts become digits, and the
micro and degree signs are spelled out, so that `deg / s^2` and `°/s²` share one key.
-/

namespace Metrology.Spelling

def keyOf (c : Char) : List Char :=
  if Text.isBlank c then []
  else
    match c with
    | '·' | '⋅' | '×' => ['*']
    | '²' => ['2']
    | '³' => ['3']
    | '^' => []
    | '\u00b5' | '\u03bc' => ['u']
    | '°' | 'º' => ['d', 'e', 'g']
    | c => [c]

def normalize (text : List Char) : List Char := text.flatMap keyOf

def fold (key : List Char) : List Char := Text.lowerAll key

theorem normalize_append (a b : List Char) : normalize (a ++ b) = normalize a ++ normalize b := by
  simp [normalize]

structure Table (β : Type) where
  exact : List (List Char × β)
  folded : List (List Char × List β)

inductive Outcome (β : Type) where
  | found (value : β)
  | ambiguous (candidates : Nat)
  | unrecognised
  deriving Repr, DecidableEq

namespace Outcome

variable {β : Type}

def toOption : Outcome β → Option β
  | found value => some value
  | _ => none

end Outcome

namespace Table

variable {β : Type}

def empty : Table β := ⟨[], []⟩

def find? {γ : Type} (index : List (List Char × γ)) (key : List Char) : Option γ := index.lookup key

def enterFirst (index : List (List Char × β)) (key : List Char) (value : β) : List (List Char × β) :=
  if (find? index key).isSome then index else index ++ [(key, value)]

def enterDistinct [BEq β] (index : List (List Char × List β)) (key : List Char) (value : β) :
    List (List Char × List β) :=
  match index with
  | [] => [(key, [value])]
  | (k, values) :: rest =>
    if key == k then (k, if values.contains value then values else values ++ [value]) :: rest
    else (k, values) :: enterDistinct rest key value

def enter [BEq β] (table : Table β) (entry : List Char × β) : Table β :=
  let key := normalize entry.1
  ⟨enterFirst table.exact key entry.2, enterDistinct table.folded (fold key) entry.2⟩

def ofEntries [BEq β] (entries : List (List Char × β)) : Table β := entries.foldl enter empty

def search (table : Table β) (text : List Char) : Outcome β :=
  let key := normalize text
  match find? table.exact key with
  | some value => .found value
  | none =>
    match find? table.folded (fold key) with
    | some [value] => .found value
    | some candidates => .ambiguous candidates.length
    | none => .unrecognised

def lookup (table : Table β) (text : List Char) : Option β := (table.search text).toOption

end Table

end Metrology.Spelling

import Metrology.Container.Basic
import Metrology.Precision
import Metrology.Text

namespace Metrology

structure Formats where
  print : String
  json : String
  xml : String
  yaml : String
  display : String

def Shape.labels : Shape → List String
  | .scalar => []
  | .vector => ["x", "y", "z"]
  | .dyad => ["xx", "xy", "xz", "yx", "yy", "yz", "zx", "zy", "zz"]
  | .symmetricDyad => ["xx", "xy", "xz", "yy", "yz", "zz"]

namespace Container

variable {s : Shape}

def rows : Container Float s → List (List Float)
  | scalar a => [[a]]
  | vector v => [v.toList]
  | dyad d => d.rows.toList.map Vector3.toList
  | symmetricDyad t => [[t.xx, t.xy, t.xz], [t.yy, t.yz], [t.zz]]

/-- Rows of texts between brackets, `(a, b; c, d)`. -/
def bracketed (rows : List (List (List Char))) : List Char :=
  '(' :: (Text.joined [';', ' '] (rows.map (Text.joined [',', ' '])) ++ [')'])

def members (member : List Char → Float → List Char) (c : Container Float s) : List (List Char) :=
  s.labels.zipWith (fun label x => member label.toList x) c.toList

def print (p : Precision) (c : Container Float s) : List Char :=
  match c with
  | scalar a => numberText p a
  | c => bracketed (c.rows.map fun row => row.map (numberText p))

def json (p : Precision) (c : Container Float s) : List Char :=
  match c with
  | scalar a => jsonNumberText p a
  | c => Text.braced (c.members fun label x => Text.labelled (Text.quoted label) (jsonNumberText p x))

def xml (p : Precision) (c : Container Float s) : List Char :=
  match c with
  | scalar a => numberText p a
  | c => (c.members fun label x => Text.element label (numberText p x)).flatten

def yaml (p : Precision) (c : Container Float s) : List Char :=
  match c with
  | scalar a => numberText p a
  | c => Text.braced (c.members fun label x => Text.labelled label (numberText p x))

/-- The texts in a precision; `display` is always in double precision. -/
def formats (p : Precision) (c : Container Float s) : Formats where
  print := .ofList (c.print p)
  json := .ofList (c.json p)
  xml := .ofList (c.xml p)
  yaml := .ofList (c.yaml p)
  display := .ofList (c.print .double)

end Container

end Metrology

import Metrology.Precision
import Metrology.Spelling
import Metrology.Unit.Family

namespace Metrology

inductive UnitError where
  | unknownUnit (family : Family) (spelling : String)
  | unknownSystem (spelling : String)
  | unknownPrecision (spelling : String)
  | noConsistentUnit (family : Family) (system : UnitSystem)
  deriving Repr, DecidableEq

def UnitError.message : UnitError → String
  | unknownUnit family spelling => "Unknown " ++ family.name ++ " unit: " ++ spelling
  | unknownSystem spelling => "Unknown unit system: " ++ spelling
  | unknownPrecision spelling => "Unknown precision: " ++ spelling
  | noConsistentUnit family system =>
    "No " ++ family.name ++ " unit is consistent with the " ++ system.abbreviation ++ " unit system"

def Family.consistent (f : Family) (system : UnitSystem) : Except UnitError f.Unit :=
  match f.consistent? system with
  | some u => .ok u
  | none => .error (.noConsistentUnit f system)

inductive Event (α : Type) where
  | ambiguous (table input : String) (candidates : Nat)
  | unrecognised (table input : String)
  | unresolvable (value : α) (unit : String) (error : UnitError)

def Event.message {α : Type} : Event α → String
  | ambiguous .. => "ambiguous spelling"
  | unrecognised .. => "unrecognised spelling"
  | unresolvable .. => "unresolvable quantity"

def Spelling.Outcome.events {α β : Type} (table input : String) : Outcome β → List (Event α)
  | found _ => []
  | ambiguous candidates => [.ambiguous table input candidates]
  | unrecognised => [.unrecognised table input]

/-- Values of a closed set that are named by spellings: the name of their table, its rows in order, and
the error for a text that names none. -/
structure Named (β : Type) where
  table : String
  rows : List (String × β)
  unknown : String → UnitError

namespace Named

variable {β : Type} [BEq β]

def entries (named : Named β) : List (List Char × β) := named.rows.map fun row => (row.1.toList, row.2)

def spellings (named : Named β) : Spelling.Table β := .ofEntries named.entries

def search (named : Named β) (input : String) : Spelling.Outcome β :=
  named.spellings.search input.toList

def parse? (named : Named β) (input : String) : Option β := (named.search input).toOption

def read (named : Named β) (input : String) : Except UnitError β :=
  match named.parse? input with
  | some value => .ok value
  | none => .error (named.unknown input)

def events {α : Type} (named : Named β) (input : String) : List (Event α) :=
  (named.search input).events named.table input

end Named

def Family.named (f : Family) : Named f.Unit where
  table := f.name
  rows := f.units.flatMap fun u => (u.abbreviation :: u.row.spellings).map fun text => (text, u)
  unknown := .unknownUnit f

def UnitSystem.named : Named UnitSystem where
  table := "UnitSystem"
  rows := UnitSystem.all.map (fun system => (system.abbreviation, system)) ++ [
    ("SI", .metreKilogramSecondKelvin),
    ("MKS", .metreKilogramSecondKelvin),
    ("MKSK", .metreKilogramSecondKelvin),
    ("m*kg*s*K", .metreKilogramSecondKelvin),
    ("MetreKilogramSecondKelvin", .metreKilogramSecondKelvin),
    ("MillimetreGramSecondKelvin", .millimetreGramSecondKelvin),
    ("mm*g*s*K", .millimetreGramSecondKelvin),
    ("FootPoundSecondRankine", .footPoundSecondRankine),
    ("ft*lbf*s*degR", .footPoundSecondRankine),
    ("ft*lb*s*degR", .footPoundSecondRankine),
    ("InchPoundSecondRankine", .inchPoundSecondRankine),
    ("in*lbf*s*degR", .inchPoundSecondRankine),
    ("in*lb*s*degR", .inchPoundSecondRankine)
  ]
  unknown := .unknownSystem

def Precision.named : Named Precision where
  table := "Precision"
  rows := [
    ("Double", .double),
    ("Double Precision", .double),
    ("f64", .double),
    ("Single", .single),
    ("Single Precision", .single),
    ("Float", .single),
    ("f32", .single)
  ]
  unknown := .unknownPrecision

end Metrology

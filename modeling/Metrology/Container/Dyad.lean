import Metrology.Container.SymmetricDyad

namespace Metrology

structure Dyad (α : Type) where
  xx : α
  xy : α
  xz : α
  yx : α
  yy : α
  yz : α
  zx : α
  zy : α
  zz : α
  deriving Repr, DecidableEq

namespace Dyad

variable {α β γ : Type}

def map (f : α → β) (d : Dyad α) : Dyad β :=
  ⟨f d.xx, f d.xy, f d.xz, f d.yx, f d.yy, f d.yz, f d.zx, f d.zy, f d.zz⟩

def zipWith (f : α → β → γ) (d : Dyad α) (e : Dyad β) : Dyad γ :=
  ⟨f d.xx e.xx, f d.xy e.xy, f d.xz e.xz, f d.yx e.yx, f d.yy e.yy, f d.yz e.yz, f d.zx e.zx,
    f d.zy e.zy, f d.zz e.zz⟩

def toList (d : Dyad α) : List α := [d.xx, d.xy, d.xz, d.yx, d.yy, d.yz, d.zx, d.zy, d.zz]

def ofList? : List α → Option (Dyad α)
  | [xx, xy, xz, yx, yy, yz, zx, zy, zz] => some ⟨xx, xy, xz, yx, yy, yz, zx, zy, zz⟩
  | _ => none

def replicate (a : α) : Dyad α := ⟨a, a, a, a, a, a, a, a, a⟩

def ofRows (x y z : Vector3 α) : Dyad α := ⟨x.x, x.y, x.z, y.x, y.y, y.z, z.x, z.y, z.z⟩

def rows (d : Dyad α) : Vector3 (Vector3 α) :=
  ⟨⟨d.xx, d.xy, d.xz⟩, ⟨d.yx, d.yy, d.yz⟩, ⟨d.zx, d.zy, d.zz⟩⟩

def columns (d : Dyad α) : Vector3 (Vector3 α) :=
  ⟨⟨d.xx, d.yx, d.zx⟩, ⟨d.xy, d.yy, d.zy⟩, ⟨d.xz, d.yz, d.zz⟩⟩

def entry (d : Dyad α) (row column : Axis) : α := (d.rows.along row).along column

def row? (d : Dyad α) (index : Nat) : Option (Vector3 α) := d.rows.get? index

def column? (d : Dyad α) (index : Nat) : Option (Vector3 α) := d.columns.get? index

/-- The product of two words, unless it takes more than one word. -/
def wordProduct? (a b : USize) : Option Nat :=
  if a.toNat * b.toNat < USize.size then some (a.toNat * b.toNat) else none

def rowStart? (index : USize) : Option Nat := (wordProduct? index 3).filter (· < 9)

def stored? (d : Dyad α) (start distance : Nat) : Option (Vector3 α) := do
  return ⟨← d.toList[start]?, ← d.toList[start + distance]?, ← d.toList[start + 2 * distance]?⟩

def storedRow? (d : Dyad α) (index : USize) : Option (Vector3 α) :=
  (rowStart? index).bind fun start => d.stored? start 1

def storedColumn? (d : Dyad α) (index : USize) : Option (Vector3 α) :=
  if index.toNat < 3 then d.stored? index.toNat 3 else none

def transpose (d : Dyad α) : Dyad α := ⟨d.xx, d.yx, d.zx, d.xy, d.yy, d.zy, d.xz, d.yz, d.zz⟩

def ofSymmetric (s : SymmetricDyad α) : Dyad α :=
  ⟨s.xx, s.xy, s.xz, s.yx, s.yy, s.yz, s.zx, s.zy, s.zz⟩

def isSymmetric [BEq α] (d : Dyad α) : Bool := d.xy == d.yx && d.xz == d.zx && d.yz == d.zy

variable [Add α] [Sub α] [Mul α] [Div α] [Neg α] [OfScientific α]

def zero : Dyad α := replicate 0.0

def identity : Dyad α := ⟨1.0, 0.0, 0.0, 0.0, 1.0, 0.0, 0.0, 0.0, 1.0⟩

instance : Add (Dyad α) := ⟨zipWith (· + ·)⟩

instance : Sub (Dyad α) := ⟨zipWith (· - ·)⟩

instance : Neg (Dyad α) := ⟨map (- ·)⟩

def scale (d : Dyad α) (factor : α) : Dyad α := d.map (· * factor)

def shrink (d : Dyad α) (divisor : α) : Dyad α := d.map (· / divisor)

def apply (d : Dyad α) (v : Vector3 α) : Vector3 α := d.rows.map fun row => row.dot v

def compose (d e : Dyad α) : Dyad α :=
  let row := fun r : Vector3 α => e.columns.map fun column => r.dot column
  ofRows (row d.rows.x) (row d.rows.y) (row d.rows.z)

def trace (d : Dyad α) : α := d.xx + d.yy + d.zz

def minors (d : Dyad α) : Vector3 α :=
  ⟨d.yy * d.zz - d.zy * d.yz, d.yx * d.zz - d.zx * d.yz, d.yx * d.zy - d.zx * d.yy⟩

def determinant (d : Dyad α) : α :=
  d.xx * d.minors.x - d.xy * d.minors.y + d.xz * d.minors.z

/-- The cofactors, transposed. -/
def adjugate (d : Dyad α) : Dyad α where
  xx := d.minors.x
  xy := d.xz * d.zy - d.zz * d.xy
  xz := d.xy * d.yz - d.yy * d.xz
  yx := -d.minors.y
  yy := d.xx * d.zz - d.zx * d.xz
  yz := d.xz * d.yx - d.yz * d.xx
  zx := d.minors.z
  zy := d.xy * d.zx - d.zy * d.xx
  zz := d.xx * d.yy - d.yx * d.xy

def inverse? [BEq α] (d : Dyad α) : Option (Dyad α) :=
  if d.determinant == 0.0 then none else some (d.adjugate.shrink d.determinant)

def symmetricPart (d : Dyad α) : SymmetricDyad α :=
  ⟨d.xx, 0.5 * (d.xy + d.yx), 0.5 * (d.xz + d.zx), d.yy, 0.5 * (d.yz + d.zy), d.zz⟩

def skewPart (d : Dyad α) : Dyad α := (d - d.transpose).scale 0.5

end Dyad

def SymmetricDyad.entry {α : Type} (s : SymmetricDyad α) (row column : Axis) : α :=
  (Dyad.ofSymmetric s).entry row column

def Vector3.dyadic {α : Type} [Mul α] (a b : Vector3 α) : Dyad α :=
  .ofRows (b.map (a.x * ·)) (b.map (a.y * ·)) (b.map (a.z * ·))

def SymmetricDyad.compose {α : Type} [Add α] [Mul α] (s t : SymmetricDyad α) : Dyad α :=
  (Dyad.ofSymmetric s).compose (.ofSymmetric t)

end Metrology

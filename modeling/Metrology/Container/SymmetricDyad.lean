import Metrology.Container.Vector

namespace Metrology

structure SymmetricDyad (α : Type) where
  xx : α
  xy : α
  xz : α
  yy : α
  yz : α
  zz : α
  deriving Repr, DecidableEq

namespace SymmetricDyad

variable {α β γ : Type}

def yx (s : SymmetricDyad α) : α := s.xy

def zx (s : SymmetricDyad α) : α := s.xz

def zy (s : SymmetricDyad α) : α := s.yz

def map (f : α → β) (s : SymmetricDyad α) : SymmetricDyad β :=
  ⟨f s.xx, f s.xy, f s.xz, f s.yy, f s.yz, f s.zz⟩

def zipWith (f : α → β → γ) (s : SymmetricDyad α) (t : SymmetricDyad β) : SymmetricDyad γ :=
  ⟨f s.xx t.xx, f s.xy t.xy, f s.xz t.xz, f s.yy t.yy, f s.yz t.yz, f s.zz t.zz⟩

def toList (s : SymmetricDyad α) : List α := [s.xx, s.xy, s.xz, s.yy, s.yz, s.zz]

def ofList? : List α → Option (SymmetricDyad α)
  | [xx, xy, xz, yy, yz, zz] => some ⟨xx, xy, xz, yy, yz, zz⟩
  | _ => none

def replicate (a : α) : SymmetricDyad α := ⟨a, a, a, a, a, a⟩

def transpose (s : SymmetricDyad α) : SymmetricDyad α := s

variable [Add α] [Sub α] [Mul α] [Div α] [Neg α] [OfScientific α]

def zero : SymmetricDyad α := replicate 0.0

def identity : SymmetricDyad α := ⟨1.0, 0.0, 0.0, 1.0, 0.0, 1.0⟩

instance : Add (SymmetricDyad α) := ⟨zipWith (· + ·)⟩

instance : Sub (SymmetricDyad α) := ⟨zipWith (· - ·)⟩

instance : Neg (SymmetricDyad α) := ⟨map (- ·)⟩

def scale (s : SymmetricDyad α) (factor : α) : SymmetricDyad α := s.map (· * factor)

def shrink (s : SymmetricDyad α) (divisor : α) : SymmetricDyad α := s.map (· / divisor)

def apply (s : SymmetricDyad α) (v : Vector3 α) : Vector3 α :=
  ⟨s.xx * v.x + s.xy * v.y + s.xz * v.z,
    s.yx * v.x + s.yy * v.y + s.yz * v.z,
    s.zx * v.x + s.zy * v.y + s.zz * v.z⟩

def trace (s : SymmetricDyad α) : α := s.xx + s.yy + s.zz

def determinant (s : SymmetricDyad α) : α :=
  s.xx * (s.yy * s.zz - s.yz * s.yz) - s.xy * (s.xy * s.zz - s.yz * s.xz)
    + s.xz * (s.xy * s.yz - s.yy * s.xz)

def adjugate (s : SymmetricDyad α) : SymmetricDyad α where
  xx := s.yy * s.zz - s.yz * s.yz
  xy := s.xz * s.yz - s.xy * s.zz
  xz := s.xy * s.yz - s.xz * s.yy
  yy := s.xx * s.zz - s.xz * s.xz
  yz := s.xy * s.xz - s.xx * s.yz
  zz := s.xx * s.yy - s.xy * s.xy

def inverse? [BEq α] (s : SymmetricDyad α) : Option (SymmetricDyad α) :=
  if s.determinant == 0.0 then none else some (s.adjugate.shrink s.determinant)

def deviatoric (s : SymmetricDyad α) : SymmetricDyad α := s - identity.scale (s.trace / 3.0)

/-- Three halves of the deviatoric part contracted with itself. -/
def vonMisesSquared (s : SymmetricDyad α) : α :=
  let d := s.deviatoric
  1.5 * (d.xx * d.xx + d.yy * d.yy + d.zz * d.zz
    + 2.0 * (d.xy * d.xy + d.xz * d.xz + d.yz * d.yz))

def vonMises [HasSqrt α] (s : SymmetricDyad α) : α := HasSqrt.sqrt s.vonMisesSquared

end SymmetricDyad

end Metrology

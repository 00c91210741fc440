namespace Metrology

class HasSqrt (α : Type) where
  sqrt : α → α

instance : HasSqrt Float := ⟨Float.sqrt⟩

def order? {α : Type} [BEq α] [LT α] [DecidableLT α] (a b : α) : Option Ordering :=
  if a < b then some .lt
  else if a == b then some .eq
  else if b < a then some .gt
  else none

inductive Axis where
  | x
  | y
  | z
  deriving Repr, DecidableEq

structure Vector3 (α : Type) where
  x : α
  y : α
  z : α
  deriving Repr, DecidableEq

namespace Vector3

variable {α β γ : Type}

def map (f : α → β) (a : Vector3 α) : Vector3 β := ⟨f a.x, f a.y, f a.z⟩

def zipWith (f : α → β → γ) (a : Vector3 α) (b : Vector3 β) : Vector3 γ :=
  ⟨f a.x b.x, f a.y b.y, f a.z b.z⟩

def toList (a : Vector3 α) : List α := [a.x, a.y, a.z]

def ofList? : List α → Option (Vector3 α)
  | [x, y, z] => some ⟨x, y, z⟩
  | _ => none

def replicate (a : α) : Vector3 α := ⟨a, a, a⟩

def along (a : Vector3 α) : Axis → α
  | .x => a.x
  | .y => a.y
  | .z => a.z

def set (a : Vector3 α) (axis : Axis) (value : α) : Vector3 α :=
  match axis with
  | .x => ⟨value, a.y, a.z⟩
  | .y => ⟨a.x, value, a.z⟩
  | .z => ⟨a.x, a.y, value⟩

def get? (a : Vector3 α) (index : Nat) : Option α := a.toList[index]?

variable [Add α] [Sub α] [Mul α] [Div α] [Neg α] [OfScientific α]

def zero : Vector3 α := replicate 0.0

instance : Add (Vector3 α) := ⟨zipWith (· + ·)⟩

instance : Sub (Vector3 α) := ⟨zipWith (· - ·)⟩

instance : Neg (Vector3 α) := ⟨map (- ·)⟩

def scale (a : Vector3 α) (factor : α) : Vector3 α := a.map (· * factor)

def shrink (a : Vector3 α) (divisor : α) : Vector3 α := a.map (· / divisor)

def dot (a b : Vector3 α) : α := a.x * b.x + a.y * b.y + a.z * b.z

def cross (a b : Vector3 α) : Vector3 α :=
  ⟨a.y * b.z - a.z * b.y, a.z * b.x - a.x * b.z, a.x * b.y - a.y * b.x⟩

def magnitudeSquared (a : Vector3 α) : α := a.dot a

def magnitude [HasSqrt α] (a : Vector3 α) : α := HasSqrt.sqrt a.magnitudeSquared

/-- The vector of length one in the same direction. The zero vector has no direction and stays zero. -/
def normalized [HasSqrt α] [BEq α] (a : Vector3 α) : Vector3 α :=
  if a.magnitude == 0.0 then zero else a.shrink a.magnitude

/-- Keeps a number within `-1` and `1`. What is ordered with neither stays as it is. -/
def clampToUnit [LT α] [DecidableLT α] (value : α) : α :=
  if value < -1.0 then -1.0 else if 1.0 < value then 1.0 else value

def cosine [HasSqrt α] [LT α] [DecidableLT α] (a b : Vector3 α) : α :=
  clampToUnit (a.dot b / (a.magnitude * b.magnitude))

end Vector3

def Vector3.angleTo (a b : Vector3 Float) : Float := (a.cosine b).acos

end Metrology

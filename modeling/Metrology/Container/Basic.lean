import Metrology.Container.Dyad

/-!
The four shapes of value, and the operations that every shape has.

Units are isotropic: a conversion applies the same function to every component. `map` is therefore all
that the conversion engine needs of a container.
-/

namespace Metrology

inductive Shape where
  | scalar
  | vector
  | dyad
  | symmetricDyad
  deriving Repr, DecidableEq

inductive Container (α : Type) : Shape → Type where
  | scalar (a : α) : Container α .scalar
  | vector (v : Vector3 α) : Container α .vector
  | dyad (d : Dyad α) : Container α .dyad
  | symmetricDyad (s : SymmetricDyad α) : Container α .symmetricDyad

namespace Container

variable {α β γ : Type} {s : Shape}

def toNumber : Container α .scalar → α
  | scalar a => a

def toVector : Container α .vector → Vector3 α
  | vector v => v

def toDyad : Container α .dyad → Dyad α
  | dyad d => d

def toSymmetricDyad : Container α .symmetricDyad → SymmetricDyad α
  | symmetricDyad s => s

def map (f : α → β) : Container α s → Container β s
  | scalar a => scalar (f a)
  | vector v => vector (v.map f)
  | dyad d => dyad (d.map f)
  | symmetricDyad t => symmetricDyad (t.map f)

def zipWith (f : α → β → γ) : Container α s → Container β s → Container γ s
  | scalar a, scalar b => scalar (f a b)
  | vector v, vector w => vector (v.zipWith f w)
  | dyad d, dyad e => dyad (d.zipWith f e)
  | symmetricDyad t, symmetricDyad u => symmetricDyad (t.zipWith f u)

def toList : Container α s → List α
  | scalar a => [a]
  | vector v => v.toList
  | dyad d => d.toList
  | symmetricDyad t => t.toList

def entries (c : Container α s) : Array α := c.toList.toArray

def replicate (a : α) : (s : Shape) → Container α s
  | .scalar => scalar a
  | .vector => vector (.replicate a)
  | .dyad => dyad (.replicate a)
  | .symmetricDyad => symmetricDyad (.replicate a)

def ofList? : (s : Shape) → List α → Option (Container α s)
  | .scalar, [a] => some (scalar a)
  | .scalar, _ => none
  | .vector, components => (Vector3.ofList? components).map vector
  | .dyad, components => (Dyad.ofList? components).map dyad
  | .symmetricDyad, components => (SymmetricDyad.ofList? components).map symmetricDyad

section

variable [Add α] [Sub α] [Mul α] [Div α] [Neg α] [OfScientific α]

def zero (s : Shape) : Container α s := replicate 0.0 s

instance : Add (Container α s) := ⟨zipWith (· + ·)⟩

instance : Sub (Container α s) := ⟨zipWith (· - ·)⟩

instance : Neg (Container α s) := ⟨map (- ·)⟩

def scale (c : Container α s) (factor : α) : Container α s := c.map (· * factor)

def shrink (c : Container α s) (divisor : α) : Container α s := c.map (· / divisor)

end

def agrees [BEq α] (a b : Container α s) : Bool := (a.zipWith (· == ·) b).toList.all id

/-- Lexicographic order of the components: the first pair that is not equal decides, and where it is
unordered the containers are. -/
def order? [BEq α] [LT α] [DecidableLT α] (a b : Container α s) : Option Ordering :=
  (a.zipWith Metrology.order? b).toList.foldr
    (fun first rest => if first = some .eq then rest else first) (some .eq)

end Container

def hashOfNumber (x : Float) : UInt64 := if x == 0.0 then 0 else x.toBits

/-- The hash of a scalar is that of its number; the components of the other shapes are combined in
order, modulo `2 ^ 64`. -/
def Container.hashValue {s : Shape} : Container Float s → UInt64
  | .scalar a => hashOfNumber a
  | c => c.toList.foldl (fun hash x => hash * 31 + hashOfNumber x) 17

end Metrology

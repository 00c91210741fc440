import Metrology.Measurement.Basic

/-!
Operations that change a value: arithmetic, which families with zeros of their own do not offer, and
replacement, which every family does.
-/

namespace Metrology

inductive Arithmetic (β α : Type) where
  | add (operand : β)
  | sub (operand : β)
  | neg
  | scale (factor : α)
  | shrink (divisor : α)

namespace Arithmetic

variable {β γ α : Type}

def map (f : β → γ) : Arithmetic β α → Arithmetic γ α
  | add operand => add (f operand)
  | sub operand => sub (f operand)
  | neg => neg
  | scale factor => scale factor
  | shrink divisor => shrink divisor

variable [Add α] [Sub α] [Mul α] [Div α] [Neg α]

def run {s : Shape} (operation : Arithmetic (Container α s) α) (c : Container α s) : Container α s :=
  match operation with
  | add operand => c + operand
  | sub operand => c - operand
  | neg => -c
  | scale factor => c.scale factor
  | shrink divisor => c.shrink divisor

end Arithmetic

inductive Replacement (α : Type) (s : Shape) where
  | zero
  | set (c : Container α s)
  /-- Adds plain components to the stored ones. -/
  | adjust (c : Container α s)

def Replacement.run {α : Type} {s : Shape} [Add α] [OfScientific α] (r : Replacement α s)
    (c : Container α s) : Container α s :=
  match r with
  | zero => .replicate 0.0 s
  | set d => d
  | adjust d => c + d

inductive Operation (f : Family) (s : Shape) (α : Type) where
  | arithmetic (a : Arithmetic (Measurement f s α) α)
  | replacement (r : Replacement α s)

namespace Measurement

variable {f : Family} {s : Shape} {α : Type}

variable [Add α] [Sub α] [Mul α] [Div α] [Neg α] [OfScientific α]

def perform? (q : Measurement f s α) : Operation f s α → Option (Measurement f s α)
  | .arithmetic a => if f.isLinear then some ⟨(a.map Measurement.value).run q.value⟩ else none
  | .replacement r => some ⟨r.run q.value⟩

/-- A run of operations, in which those that are not available leave the value as it is. -/
def run (q : Measurement f s α) (operations : List (Operation f s α)) : Measurement f s α :=
  operations.foldl (fun q operation => (q.perform? operation).getD q) q

end Measurement

end Metrology

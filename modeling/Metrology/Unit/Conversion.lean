import Metrology.Unit.Factor

namespace Metrology

inductive Step where
  | add (amount : Factor)
  | sub (amount : Factor)
  | mul (factor : Factor)
  | div (divisor : Factor)
  deriving Repr, DecidableEq

inductive Conversion where
  /-- One unit is `factor` standard units. -/
  | scale (factor : Factor)
  /-- `divisor` units are one standard unit. -/
  | per (divisor : Factor)
  /-- The steps to the standard unit and the steps back, for a scale with a zero of its own. -/
  | affine (there back : List Step)
  deriving Repr, DecidableEq

variable {α : Type} [Add α] [Sub α] [Mul α] [Div α] [OfScientific α] [HasPi α]

def Step.run : Step → α → α
  | add amount, value => value + amount.eval
  | sub amount, value => value - amount.eval
  | mul factor, value => value * factor.eval
  | div divisor, value => value / divisor.eval

def Step.runAll (steps : List Step) (value : α) : α := steps.foldl (fun value step => step.run value) value

namespace Conversion

def toStandard (rule : Conversion) (value : α) : α :=
  match rule with
  | scale factor => value * factor.eval
  | per divisor => value / divisor.eval
  | affine there _ => Step.runAll there value

def fromStandard (rule : Conversion) (value : α) : α :=
  match rule with
  | scale factor => value / factor.eval
  | per divisor => value * divisor.eval
  | affine _ back => Step.runAll back value

end Conversion

end Metrology

import Metrology.Quantity.Relation

/-!
Which operators there are between two types of value, the type of their result and how they combine the
components. Where there is no rule, the operator does not exist.
-/

namespace Metrology

structure Rule (lhs rhs : ValueType) where
  result : ValueType
  combination : Combination lhs.shape rhs.shape result.shape

namespace Rule

def linear? (op : Operator) (a b : ValueType) : Option (Rule a b) :=
  if same : a = b then
    if a.isLinear then
      match op with
      | .add => some ⟨a, same ▸ .sum⟩
      | .subtract => some ⟨a, same ▸ .difference⟩
      | _ => none
    else none
  else none

def scaling? (op : Operator) (a b : ValueType) : Option (Rule a b) :=
  match op, b with
  | .multiply, .plain .scalar => if a.isLinear then some ⟨a, .scaled⟩ else none
  | .divide, .plain .scalar => if a.isLinear then some ⟨a, .shrunk⟩ else none
  | _, _ => none

def multiple? (op : Operator) (a b : ValueType) : Option (Rule a b) :=
  match op, a with
  | .multiply, .plain .scalar => if b.isLinear then some ⟨b, .multiple⟩ else none
  | _, _ => none

def ratio? (op : Operator) (a b : ValueType) : Option (Rule a b) :=
  match op, a, b with
  | .divide, .measured (.scalar j), .measured (.scalar k) => if j = k then some ⟨.number, .shrunk⟩ else none
  | _, _, _ => none

def absolute? (op : Operator) (a b : ValueType) : Option (Rule a b) :=
  match op, a, b with
  | .subtract, .measured (.scalar .temperature), .measured (.scalar .temperature) =>
    some ⟨.temperatureDifference, .difference⟩
  | .add, .measured (.scalar .temperature), .measured (.scalar .temperatureDifference) =>
    some ⟨.temperature, .sum⟩
  | .add, .measured (.scalar .temperatureDifference), .measured (.scalar .temperature) =>
    some ⟨.temperature, .sum⟩
  | .subtract, .measured (.scalar .temperature), .measured (.scalar .temperatureDifference) =>
    some ⟨.temperature, .difference⟩
  | .subtract, .measured (.vector .position), .measured (.vector .position) =>
    some ⟨.displacement, .difference⟩
  | .add, .measured (.vector .position), .measured (.vector .displacement) => some ⟨.position, .sum⟩
  | .add, .measured (.vector .displacement), .measured (.vector .position) => some ⟨.position, .sum⟩
  | .subtract, .measured (.vector .position), .measured (.vector .displacement) =>
    some ⟨.position, .difference⟩
  | _, _, _ => none

def reciprocal? (op : Operator) (a b : ValueType) : Option (Rule a b) :=
  match op, a, b with
  | .divide, .plain .scalar, .measured (.scalar .time) => some ⟨.measured (.scalar .frequency), .shrunk⟩
  | .divide, .plain .scalar, .measured (.scalar .frequency) => some ⟨.measured (.scalar .time), .shrunk⟩
  | _, _, _ => none

def tensor? (op : Operator) (a b : ValueType) : Option (Rule a b) :=
  match op, a, b with
  | .multiply, .plain .dyad, .plain .vector => some ⟨.plain .vector, .dyadOnVector⟩
  | .multiply, .plain .dyad, .plain .dyad => some ⟨.plain .dyad, .dyadProduct⟩
  | .multiply, .plain .symmetricDyad, .plain .vector => some ⟨.plain .vector, .symmetricOnVector⟩
  | .multiply, .plain .symmetricDyad, .plain .symmetricDyad => some ⟨.plain .dyad, .symmetricProduct⟩
  | .multiply, .measured (.symmetricDyad .stress), .pure .direction =>
    some ⟨.measured (.vector .traction), .symmetricOnVector⟩
  | _, _, _ => none

def between {a b c d : ValueType} : a = c → b = d → Rule a b → Rule c d
  | rfl, rfl, rule => rule

def ofRelation? (op : Operator) (a b : ValueType) (r : Relation) : Option (Rule a b) :=
  if same : r.operator = op ∧ r.lhs = a ∧ r.rhs = b then
    some (between same.2.1 same.2.2 ⟨r.result, r.combination⟩)
  else none

def related? (op : Operator) (a b : ValueType) : Option (Rule a b) :=
  relations.findSome? (ofRelation? op a b)

def find? (op : Operator) (a b : ValueType) : Option (Rule a b) :=
  linear? op a b <|> scaling? op a b <|> multiple? op a b <|> ratio? op a b <|> absolute? op a b <|>
    reciprocal? op a b <|> tensor? op a b <|> related? op a b

def keepsLeft? {a b : ValueType} (rule : Rule a b) : Option (Combination a.shape b.shape a.shape) :=
  if same : rule.result = a then some (rule.combination.into (congrArg ValueType.shape same)) else none

/-- How a value of the first type can be changed in place by one of the second: by sums, differences and
scalings that keep its type. -/
def assign? (op : Operator) (a b : ValueType) : Option (Combination a.shape b.shape a.shape) :=
  (linear? op a b <|> scaling? op a b <|> absolute? op a b).bind keepsLeft?

end Rule

end Metrology

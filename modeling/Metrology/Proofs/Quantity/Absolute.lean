import Metrology.Proofs.Measurement.Affine
import Metrology.Proofs.Measurement.Availability
import Metrology.Proofs.System.Calculation

namespace Metrology

namespace AbsoluteKind

def type (k : AbsoluteKind) : ValueType := .measured k.kind

def stepType : AbsoluteKind → ValueType
  | temperature => .temperatureDifference
  | position => .displacement

/-- The operators that move a point by a step: operator, operands and result. -/
def moves (k : AbsoluteKind) : List (Operator × ValueType × ValueType × ValueType) := [
  (.add, k.type, k.stepType, k.type),
  (.add, k.stepType, k.type, k.type),
  (.subtract, k.type, k.stepType, k.type)
]

/-- The operators that compare two points: by the step between them, and scalars also by their ratio. -/
def comparisons : AbsoluteKind → List (Operator × ValueType × ValueType × ValueType)
  | temperature => [
      (.subtract, .temperature, .temperature, .temperatureDifference),
      (.divide, .temperature, .temperature, .number)]
  | position => [(.subtract, .position, .position, .displacement)]

theorem isLinear_type (k : AbsoluteKind) : k.type.isLinear = false := by
  cases k <;> rfl

theorem isNegatable_type (k : AbsoluteKind) : k.type.isNegatable = false := by
  cases k <;> decide

theorem result_ne_of_mem_comparisons (k : AbsoluteKind) : ∀ law ∈ k.comparisons, law.2.2.2 ≠ k.type := by
  cases k <;> decide

end AbsoluteKind

namespace Rule

variable {op : Operator} {a b : ValueType} {rule : Rule a b}

def KeepsPoints (op : Operator) (rule : Rule a b) : Prop :=
  ∀ k : AbsoluteKind, a = k.type ∨ b = k.type ∨ rule.result = k.type →
    (op, a, b, rule.result) ∈ k.moves ++ k.comparisons

theorem keepsPoints_of_no_point
    (none : ∀ k : AbsoluteKind, a ≠ k.type ∧ b ≠ k.type ∧ rule.result ≠ k.type) : rule.KeepsPoints op := by
  intro k point
  obtain ⟨left, right, result⟩ := none k
  rcases point with h | h | h
  · exact absurd h left
  · exact absurd h right
  · exact absurd h result

theorem ne_type_of_isLinear {t : ValueType} (linear : t.isLinear = true) (k : AbsoluteKind) : t ≠ k.type := by
  rintro rfl
  rw [k.isLinear_type] at linear
  exact Bool.false_ne_true linear

theorem number_ne_type (k : AbsoluteKind) : ValueType.plain .scalar ≠ k.type := nofun

theorem linear?_keepsPoints (found : linear? op a b = some rule) : rule.KeepsPoints op := by
  unfold linear? at found
  split at found
  · next same =>
    subst same
    split at found
    · next linear =>
      have result : rule.result = a := by
        cases op <;> cases found <;> rfl
      apply keepsPoints_of_no_point
      intro k
      rw [result]
      exact ⟨ne_type_of_isLinear linear k, ne_type_of_isLinear linear k, ne_type_of_isLinear linear k⟩
    · cases found
  · cases found

theorem scaling?_keepsPoints (found : scaling? op a b = some rule) : rule.KeepsPoints op := by
  unfold scaling? at found
  split at found
  · split at found
    · next linear =>
      cases found
      exact keepsPoints_of_no_point fun k =>
        ⟨ne_type_of_isLinear linear k, number_ne_type k, ne_type_of_isLinear linear k⟩
    · cases found
  · split at found
    · next linear =>
      cases found
      exact keepsPoints_of_no_point fun k =>
        ⟨ne_type_of_isLinear linear k, number_ne_type k, ne_type_of_isLinear linear k⟩
    · cases found
  · cases found

theorem multiple?_keepsPoints (found : multiple? op a b = some rule) : rule.KeepsPoints op := by
  unfold multiple? at found
  split at found
  · split at found
    · next linear =>
      cases found
      exact keepsPoints_of_no_point fun k =>
        ⟨number_ne_type k, ne_type_of_isLinear linear k, ne_type_of_isLinear linear k⟩
    · cases found
  · cases found

theorem ratio?_keepsPoints (found : ratio? op a b = some rule) : rule.KeepsPoints op := by
  unfold ratio? at found
  split at found
  · next j i =>
    split at found
    · next same =>
      subst same
      cases found
      intro k point
      have scalar : ValueType.measured (.scalar j) = k.type := by
        rcases point with h | h | h
        · exact h
        · exact h
        · exact absurd h (number_ne_type k)
      cases k with
      | temperature =>
          cases scalar
          decide
      | position => cases scalar
    · cases found
  · cases found

theorem absolute?_keepsPoints (found : absolute? op a b = some rule) : rule.KeepsPoints op := by
  unfold absolute? at found
  split at found <;> cases found <;> intro k <;> cases k <;> decide

theorem reciprocal?_keepsPoints (found : reciprocal? op a b = some rule) : rule.KeepsPoints op := by
  unfold reciprocal? at found
  split at found <;> cases found <;> intro k <;> cases k <;> decide

theorem tensor?_keepsPoints (found : tensor? op a b = some rule) : rule.KeepsPoints op := by
  unfold tensor? at found
  split at found <;> cases found <;> intro k <;> cases k <;> decide

theorem relations_without_points (k : AbsoluteKind) :
    ∀ r ∈ relations, r.lhs ≠ k.type ∧ r.rhs ≠ k.type ∧ r.result ≠ k.type := by
  cases k <;> decide +kernel

theorem related?_keepsPoints (found : related? op a b = some rule) : rule.KeepsPoints op := by
  obtain ⟨r, member, found⟩ := List.exists_of_findSome?_eq_some found
  unfold ofRelation? at found
  split at found
  · next same =>
    obtain ⟨rfl, rfl, rfl⟩ := same
    cases found
    exact keepsPoints_of_no_point fun k => relations_without_points k r member
  · cases found

theorem find?_keepsPoints (found : find? op a b = some rule) : rule.KeepsPoints op := by
  rcases find?_cases found with h | h | h | h | h | h | h | h
  · exact linear?_keepsPoints h
  · exact scaling?_keepsPoints h
  · exact multiple?_keepsPoints h
  · exact ratio?_keepsPoints h
  · exact absolute?_keepsPoints h
  · exact reciprocal?_keepsPoints h
  · exact tensor?_keepsPoints h
  · exact related?_keepsPoints h

theorem find?_of_mem (k : AbsoluteKind) :
    ∀ law ∈ k.moves ++ k.comparisons,
      (find? law.1 law.2.1 law.2.2.1).map Rule.result = some law.2.2.2 := by
  cases k <;> decide +kernel

theorem assign?_of_mem (k : AbsoluteKind) :
    ∀ law ∈ k.moves, law.2.1 = k.type → (assign? law.1 law.2.1 law.2.2.1).isSome = true := by
  cases k <;> decide +kernel

theorem mem_moves_of_result {k : AbsoluteKind} (found : find? op a b = some rule)
    (result : rule.result = k.type) : (op, a, b, k.type) ∈ k.moves := by
  have law := find?_keepsPoints found k (Or.inr (Or.inr result))
  rw [result] at law
  exact (List.mem_append.mp law).resolve_right fun compared => k.result_ne_of_mem_comparisons _ compared rfl

theorem exists_rule_iff (k : AbsoluteKind) (op : Operator) (a b : ValueType) :
    (∃ rule : Rule a b, find? op a b = some rule ∧ rule.result = k.type) ↔ (op, a, b, k.type) ∈ k.moves := by
  constructor
  · rintro ⟨rule, found, result⟩
    exact mem_moves_of_result found result
  · intro law
    exact Option.map_eq_some_iff.mp (find?_of_mem k _ (List.mem_append_left _ law))

theorem mem_moves_of_assign? {k : AbsoluteKind} {combination : Combination k.type.shape b.shape k.type.shape}
    (found : assign? op k.type b = some combination) : (op, k.type, b, k.type) ∈ k.moves := by
  obtain ⟨rule, found, kept⟩ := Option.bind_eq_some_iff.mp found
  have result : rule.result = k.type := by
    unfold keepsLeft? at kept
    split at kept
    · next same => exact same
    · cases kept
  have keeps : rule.KeepsPoints op := by
    simp only [Option.orElse_eq_orElse, Option.orElse_eq_or, Option.or_eq_some_iff] at found
    rcases found with h | ⟨-, h | ⟨-, h⟩⟩
    · exact linear?_keepsPoints h
    · exact scaling?_keepsPoints h
    · exact absolute?_keepsPoints h
  have law := keeps k (Or.inl rfl)
  rw [result] at law
  exact (List.mem_append.mp law).resolve_right fun compared => k.result_ne_of_mem_comparisons _ compared rfl

end Rule

namespace Value

variable (k : AbsoluteKind) (op : Operator) (x y : Value Float)

theorem combine?_type_iff :
    (∃ v, combine? op x y = some v ∧ v.type = k.type) ↔ (op, x.type, y.type, k.type) ∈ k.moves := by
  rw [← Rule.exists_rule_iff]
  constructor
  · rintro ⟨v, combined, type⟩
    obtain ⟨rule, found, rfl⟩ := Option.map_eq_some_iff.mp combined
    exact ⟨rule, found, type⟩
  · rintro ⟨rule, found, result⟩
    exact ⟨_, Option.map_eq_some_iff.mpr ⟨rule, found, rfl⟩, result⟩

theorem mem_laws_of_combine? {v : Value Float} (combined : combine? op x y = some v)
    (point : x.type = k.type ∨ y.type = k.type) :
    (op, x.type, y.type, v.type) ∈ k.moves ++ k.comparisons := by
  obtain ⟨rule, found, rfl⟩ := Option.map_eq_some_iff.mp combined
  exact Rule.find?_keepsPoints found k (point.imp_right Or.inl)

theorem assign?_type_iff :
    (∃ v, assign? op x y = some v ∧ v.type = k.type) ↔
      x.type = k.type ∧ (op, x.type, y.type, k.type) ∈ k.moves := by
  obtain ⟨a, c⟩ := x
  constructor
  · rintro ⟨v, assigned, type⟩
    obtain ⟨combination, found, rfl⟩ := Option.map_eq_some_iff.mp assigned
    cases type
    exact ⟨rfl, Rule.mem_moves_of_assign? found⟩
  · rintro ⟨type, law⟩
    obtain ⟨combination, found⟩ := Option.isSome_iff_exists.mp (Rule.assign?_of_mem k _ law type)
    exact ⟨_, Option.map_eq_some_iff.mpr ⟨combination, found, rfl⟩, type⟩

theorem neg?_type_ne {v : Value Float} (negated : x.neg? = some v) : v.type ≠ k.type := by
  unfold neg? at negated
  split at negated
  · next negatable =>
    cases negated
    intro type
    change x.type = k.type at type
    rw [type, k.isNegatable_type] at negatable
    exact Bool.false_ne_true negatable
  · cases negated

end Value

inductive Calculation.IsWalk {α : Type} (k : AbsoluteKind) : Calculation α → Prop
  | start (c : Container α k.type.shape) : IsWalk k (.given k.type c)
  | forward {e d : Calculation α} : IsWalk k e → d.type? = some k.stepType → IsWalk k (.applied .add e d)
  | onto {e d : Calculation α} : IsWalk k e → d.type? = some k.stepType → IsWalk k (.applied .add d e)
  | backward {e d : Calculation α} :
      IsWalk k e → d.type? = some k.stepType → IsWalk k (.applied .subtract e d)

namespace Calculation

variable {α : Type} {k : AbsoluteKind} {e : Calculation α}

theorem type?_applied {op : Operator} {a b : Calculation α} {s t : ValueType} (left : a.type? = some s)
    (right : b.type? = some t) : (applied op a b).type? = (Rule.find? op s t).map Rule.result := by
  rw [type?, left, right]
  rfl

theorem IsWalk.type? (walk : e.IsWalk k) : e.type? = some k.type := by
  have laws := Rule.find?_of_mem k
  simp only [AbsoluteKind.moves, List.cons_append, List.forall_mem_cons] at laws
  induction walk with
  | start c => rfl
  | forward _ step ih => exact (type?_applied ih step).trans laws.1
  | onto _ step ih => exact (type?_applied step ih).trans laws.2.1
  | backward _ step ih => exact (type?_applied ih step).trans laws.2.2.1

theorem isWalk_of_type? (typed : e.type? = some k.type) : e.IsWalk k := by
  induction e with
  | given t c =>
      cases typed
      exact .start c
  | negated e ih =>
      have negatable := (Option.filter_eq_some_iff.mp typed).2
      rw [k.isNegatable_type] at negatable
      cases negatable
  | applied op a b iha ihb =>
      obtain ⟨s, left, rest⟩ := Option.bind_eq_some_iff.mp typed
      obtain ⟨t, right, rest⟩ := Option.bind_eq_some_iff.mp rest
      obtain ⟨rule, found, result⟩ := Option.map_eq_some_iff.mp rest
      have law := Rule.mem_moves_of_result found result
      simp only [AbsoluteKind.moves, List.mem_cons, Prod.mk.injEq, List.not_mem_nil, or_false, and_true] at law
      rcases law with ⟨rfl, rfl, rfl⟩ | ⟨rfl, rfl, rfl⟩ | ⟨rfl, rfl, rfl⟩
      · exact .forward (iha left) right
      · exact .onto (ihb right) left
      · exact .backward (iha left) right

end Calculation

/-- Temperatures refuse every sum, difference, negation and scaling and behave as if nobody had asked; all other
families refuse nothing. Between types, a point results from moving a point by a step and from nothing else. -/
theorem absolute_never_summed_or_scaled :
    (∀ (s : Shape) (q : Measurement .temperature s Float) (turns : List (Turn .temperature s)),
      (q.answers turns).map Option.isNone = turns.map Turn.isArithmetic ∧
      q.answers (turns.filter fun turn => !turn.isArithmetic) = (q.answers turns).filter Option.isSome ∧
      q.after (turns.filter fun turn => !turn.isArithmetic) = q.after turns) ∧
    (∀ (s : Shape) (q changed : Measurement .temperature s Float) (operation : Operation .temperature s Float),
      q.perform? operation = some changed →
        ∃ r, operation = .replacement r ∧ changed.value = r.run q.value) ∧
    (∀ f : Family, f ≠ .temperature → ∀ (s : Shape) (q : Measurement f s Float) (turns : List (Turn f s)),
      ∀ answer ∈ q.answers turns, answer.isSome = true) ∧
    (∀ (k : AbsoluteKind) (op : Operator) (x y : Value Float),
      ((∃ v, Value.combine? op x y = some v ∧ v.type = k.type) ↔
        (op, x.type, y.type, k.type) ∈ k.moves) ∧
      ((∃ v, Value.assign? op x y = some v ∧ v.type = k.type) ↔
        x.type = k.type ∧ (op, x.type, y.type, k.type) ∈ k.moves) ∧
      (∀ v, x.neg? = some v → v.type ≠ k.type) ∧
      (∀ v, Value.combine? op x y = some v → x.type = k.type ∨ y.type = k.type →
        (op, x.type, y.type, v.type) ∈ k.moves ++ k.comparisons)) ∧
    (∀ (k : AbsoluteKind) (e : Calculation Float), e.type? = some k.type ↔ e.IsWalk k) := by
  refine ⟨?_, ?_, ?_, ?_, ?_⟩
  · intro s q turns
    exact ⟨Measurement.answers_eq_none_iff rfl q turns, Measurement.run_without_arithmetic rfl q turns⟩
  · intro s q changed operation performed
    exact Measurement.exists_replacement_of_perform? rfl performed
  · intro f other s q turns
    have linear : f.isLinear = true := by
      cases f with
      | temperature => exact absurd rfl other
      | _ => rfl
    exact Measurement.isSome_of_mem_answers linear q turns
  · intro k op x y
    exact ⟨Value.combine?_type_iff k op x y, Value.assign?_type_iff k op x y,
      fun v => Value.neg?_type_ne k x, fun v => Value.mem_laws_of_combine? k op x y⟩
  · intro k e
    exact ⟨Calculation.isWalk_of_type?, Calculation.IsWalk.type?⟩

theorem absolute_never_summed_or_scaled_kelvins :
    let noon : Measurement .temperature .scalar Float := ⟨.scalar 300⟩
    let turns : List (Turn .temperature .scalar) := [
      .change (.arithmetic (.scale 2)), .ask (.equality noon), .change (.replacement (.set (.scalar 310))),
      .change (.arithmetic (.add noon)), .ask .hash]
    let warm : Value Float := ⟨.temperature, .scalar 300⟩
    let cold : Value Float := ⟨.temperature, .scalar 280⟩
    let rise : Value Float := ⟨.temperatureDifference, .scalar (300 - 280)⟩
    let length : Measurement .length .scalar Float := ⟨.scalar 3⟩
    let depth : Value Float := ⟨.measured (.scalar .length), .scalar 3⟩
    (noon.answers turns).map Option.isNone = [true, false, false, true, false] ∧
    noon.after turns = noon.after [.change (.replacement (.set (.scalar 310)))] ∧
    (noon.perform? (.replacement (.set (.scalar 310))) = some ⟨.scalar 310⟩ ∧
      ∃ r : Replacement Float .scalar, Operation.replacement (f := .temperature) (.set (.scalar 310)) =
        .replacement r ∧ Container.scalar 310 = r.run noon.value) ∧
    (Family.length ≠ .temperature ∧
      some (.container (-.scalar 3)) ∈ length.answers [.change (.arithmetic .neg)] ∧
      (some (Answer.container (-.scalar (3 : Float)))).isSome = true) ∧
    (Value.combine? .subtract warm cold = some rise ∧ warm.type = AbsoluteKind.temperature.type ∧
      (.subtract, warm.type, cold.type, rise.type) ∈
        AbsoluteKind.temperature.moves ++ AbsoluteKind.temperature.comparisons) ∧
    (depth.neg? = some ⟨depth.type, -.scalar 3⟩ ∧ depth.type ≠ AbsoluteKind.temperature.type) := by
  intro noon turns warm cold rise length depth
  obtain ⟨runs, changes, others, operators, -⟩ := absolute_never_summed_or_scaled
  have different : Family.length ≠ .temperature := by decide
  have laws := operators .temperature .subtract
  have negated : depth.neg? = some ⟨depth.type, -.scalar 3⟩ := rfl
  refine ⟨(runs .scalar noon turns).1, (runs .scalar noon turns).2.2.symm, ⟨rfl, ?_⟩,
    ⟨different, List.mem_cons_self, ?_⟩, ⟨rfl, rfl, ?_⟩, ⟨negated, ?_⟩⟩
  · exact changes .scalar noon ⟨.scalar 310⟩ _ rfl
  · exact others .length different .scalar length [.change (.arithmetic .neg)] _ List.mem_cons_self
  · exact (laws warm cold).2.2.2 rise rfl (Or.inl rfl)
  · exact (laws depth cold).2.2.1 ⟨depth.type, -.scalar 3⟩ negated

end Metrology

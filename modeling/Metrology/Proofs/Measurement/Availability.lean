import Metrology.Measurement.Operation
import Metrology.Measurement.Basic

namespace Metrology

inductive Question (f : Family) (s : Shape) where
  | reading (u : f.Unit)
  | equality (other : Measurement f s Float)
  | comparison (other : Measurement f s Float)
  | hash
  | texts (unit? : Option f.Unit) (precision? : Option Precision)

inductive Answer (s : Shape) where
  | container (c : Container Float s)
  | flag (b : Bool)
  | order (o : Option Ordering)
  | hash (h : UInt64)
  | texts (formats : Formats)

inductive Turn (f : Family) (s : Shape) where
  | change (operation : Operation f s Float)
  | ask (question : Question f s)

variable {f : Family} {s : Shape}

def Operation.isArithmetic : Operation f s Float → Bool
  | .arithmetic _ => true
  | .replacement _ => false

namespace Turn

def isArithmetic : Turn f s → Bool
  | change operation => operation.isArithmetic
  | ask _ => false

def operation? : Turn f s → Option (Operation f s Float)
  | change operation => some operation
  | ask _ => none

end Turn

namespace Measurement

def answer (q : Measurement f s Float) : Question f s → Answer s
  | .reading u => .container (q.valueIn u)
  | .equality other => .flag (q.agrees other)
  | .comparison other => .order (q.order? other)
  | .hash => .hash q.hashValue
  | .texts unit? precision? => .texts (q.formats unit? precision?)

/-- What is answered turn by turn: a change answers the new stored value, or nothing if it is refused. -/
def answers (q : Measurement f s Float) : List (Turn f s) → List (Option (Answer s))
  | [] => []
  | .change operation :: turns =>
    ((q.perform? operation).map fun changed => .container changed.value) :: (q.run [operation]).answers turns
  | .ask question :: turns => some (q.answer question) :: q.answers turns

def after (q : Measurement f s Float) (turns : List (Turn f s)) : Measurement f s Float :=
  q.run (turns.filterMap Turn.operation?)

theorem after_change (q : Measurement f s Float) (operation : Operation f s Float) (turns : List (Turn f s)) :
    q.after (.change operation :: turns) = (q.run [operation]).after turns := rfl

variable {q : Measurement f s Float} {operation : Operation f s Float}

theorem perform?_eq_none (absolute : f.isLinear = false) (arithmetic : operation.isArithmetic = true) :
    q.perform? operation = none := by
  cases operation with
  | arithmetic a => rw [perform?, absolute, if_neg Bool.false_ne_true]
  | replacement r => cases arithmetic

theorem run_refused (refused : q.perform? operation = none) : q.run [operation] = q := by
  rw [run, List.foldl_cons, refused, List.foldl_nil, Option.getD_none]

theorem isSome_perform?_of_replacement (replacement : operation.isArithmetic = false) :
    (q.perform? operation).isSome = true := by
  cases operation with
  | arithmetic a => cases replacement
  | replacement r => rfl

theorem isSome_perform?_of_linear (linear : f.isLinear = true) : (q.perform? operation).isSome = true := by
  cases operation with
  | arithmetic a =>
      rw [perform?, if_pos linear]
      rfl
  | replacement r => rfl

/-- Where there is no arithmetic, a measurement is changed by replacements only. -/
theorem exists_replacement_of_perform? (absolute : f.isLinear = false) {changed : Measurement f s Float}
    (performed : q.perform? operation = some changed) :
    ∃ r, operation = .replacement r ∧ changed.value = r.run q.value := by
  cases operation with
  | arithmetic a =>
      rw [perform?_eq_none absolute rfl] at performed
      cases performed
  | replacement r =>
      cases performed
      exact ⟨r, rfl, rfl⟩

theorem answers_eq_none_iff (absolute : f.isLinear = false) (q : Measurement f s Float)
    (turns : List (Turn f s)) :
    (q.answers turns).map Option.isNone = turns.map Turn.isArithmetic := by
  induction turns generalizing q with
  | nil => rfl
  | cons turn turns ih =>
      cases turn with
      | ask question => exact congrArg (false :: ·) (ih q)
      | change operation =>
          rw [answers, List.map_cons, List.map_cons, ih, Turn.isArithmetic, Option.isNone_map]
          cases sort : operation.isArithmetic with
          | true => rw [perform?_eq_none absolute sort, Option.isNone_none]
          | false => rw [Option.isNone_eq_false_iff.mpr (isSome_perform?_of_replacement sort)]

/-- Without the turns that are refused, a run gives the other answers and leaves the same measurement. -/
theorem run_without_arithmetic (absolute : f.isLinear = false) (q : Measurement f s Float)
    (turns : List (Turn f s)) :
    q.answers (turns.filter fun turn => !turn.isArithmetic) = (q.answers turns).filter Option.isSome ∧
      q.after (turns.filter fun turn => !turn.isArithmetic) = q.after turns := by
  -- A refused turn leaves the measurement as it is, so the rest of the run goes on from the same one.
  induction turns generalizing q with
  | nil => exact ⟨rfl, rfl⟩
  | cons turn turns ih =>
      cases turn with
      | ask question =>
          obtain ⟨same, last⟩ := ih q
          exact ⟨congrArg (some (q.answer question) :: ·) same, last⟩
      | change operation =>
          cases sort : operation.isArithmetic with
          | true =>
              have refused := perform?_eq_none (q := q) absolute sort
              obtain ⟨same, last⟩ := ih q
              rw [List.filter_cons_of_neg (by simp [Turn.isArithmetic, sort]), answers, refused,
                after_change, run_refused refused, List.filter_cons_of_neg (by simp)]
              exact ⟨same, last⟩
          | false =>
              have answered := isSome_perform?_of_replacement (q := q) sort
              obtain ⟨same, last⟩ := ih (q.run [operation])
              rw [List.filter_cons_of_pos (by simp [Turn.isArithmetic, sort]), answers, answers, after_change,
                after_change, List.filter_cons_of_pos (by rwa [Option.isSome_map]), same]
              exact ⟨rfl, last⟩

theorem isSome_of_mem_answers (linear : f.isLinear = true) (q : Measurement f s Float)
    (turns : List (Turn f s)) : ∀ answer ∈ q.answers turns, answer.isSome = true := by
  induction turns generalizing q with
  | nil => exact nofun
  | cons turn turns ih =>
      cases turn with
      | ask question => exact List.forall_mem_cons.mpr ⟨rfl, ih q⟩
      | change operation =>
          refine List.forall_mem_cons.mpr ⟨?_, ih _⟩
          rw [Option.isSome_map]
          exact isSome_perform?_of_linear linear

end Measurement

end Metrology

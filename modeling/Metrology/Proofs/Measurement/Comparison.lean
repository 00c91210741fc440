import Mathlib.Order.Compare
import Metrology.Proofs.Conversion.Order

namespace Metrology

theorem order?_eq_compare {α : Type} [LinearOrder α] (a b : α) : order? a b = some (compare a b) := by
  unfold order?
  rcases lt_trichotomy a b with less | same | more
  · rw [if_pos less, compare_lt_iff_lt.mpr less]
  · subst same
    simp
  · rw [if_neg more.asymm, if_pos more, compare_gt_iff_gt.mpr more]
    simp [more.ne']

namespace Container

variable {α β : Type} {s : Shape}

def decideFirst (orders : List (Option Ordering)) : Option Ordering :=
  orders.foldr (fun first rest => if first = some .eq then rest else first) (some .eq)

theorem order?_eq_decideFirst [BEq α] [LT α] [DecidableLT α] (a b : Container α s) :
    a.order? b = decideFirst (a.toList.zipWith Metrology.order? b.toList) := by
  rw [order?, toList_zipWith]
  rfl

variable [LinearOrder α]

theorem agrees_iff (a b : Container α s) : a.agrees b = true ↔ a.toList = b.toList := by
  cases a <;> cases b <;>
    simp [agrees, zipWith, toList, Vector3.zipWith, Vector3.toList, Dyad.zipWith, Dyad.toList,
      SymmetricDyad.zipWith, SymmetricDyad.toList]

theorem decideFirst_spec {xs ys : List α} (same : xs.length = ys.length) :
    (decideFirst (xs.zipWith Metrology.order? ys) = some .lt ↔ List.Lex (· < ·) xs ys) ∧
    (decideFirst (xs.zipWith Metrology.order? ys) = some .eq ↔ xs = ys) ∧
    (decideFirst (xs.zipWith Metrology.order? ys) = some .gt ↔ List.Lex (· < ·) ys xs) ∧
    decideFirst (xs.zipWith Metrology.order? ys) ≠ none := by
  induction xs generalizing ys with
  | nil =>
      cases ys with
      | nil => simp [decideFirst]
      | cons y ys => cases same
  | cons x xs ih =>
      cases ys with
      | nil => cases same
      | cons y ys =>
          have rest := ih (Nat.succ.inj same)
          have split : decideFirst ((x :: xs).zipWith Metrology.order? (y :: ys)) =
              if compare x y = .eq then decideFirst (xs.zipWith Metrology.order? ys)
              else some (compare x y) := by
            simp [decideFirst, order?_eq_compare]
          rw [split, List.cons_lex_cons_iff, List.cons_lex_cons_iff, List.cons.injEq]
          rcases lt_trichotomy x y with less | equal | more
          · simp [compare_lt_iff_lt.mpr less, less, less.asymm, less.ne, less.ne']
          · subst equal
            simpa using rest
          · simp [compare_gt_iff_gt.mpr more, more, more.asymm, more.ne, more.ne']

theorem order?_scalar (c : Container α .scalar) (y : α) :
    c.order? (.scalar y) = some (compare c.toNumber y) := by
  obtain ⟨x⟩ := c
  have single : (Container.scalar x).order? (.scalar y) =
      if compare x y = .eq then some .eq else some (compare x y) := by
    simp [order?, zipWith, toList, order?_eq_compare]
  rw [single]
  split
  · next same => rw [toNumber, same]
  · rfl

variable [LinearOrder β] {g : α → β}

theorem agrees_map (rising : StrictMono g) (a b : Container α s) :
    (a.map g).agrees (b.map g) = a.agrees b := by
  rw [Bool.eq_iff_iff, agrees_iff, agrees_iff, toList_map, toList_map]
  exact (List.map_injective_iff.mpr rising.injective).eq_iff

theorem order?_map (rising : StrictMono g) (a b : Container α s) :
    (a.map g).order? (b.map g) = a.order? b := by
  have pairs : (fun x y => Metrology.order? (g x) (g y)) = Metrology.order? := by
    funext x y
    rw [order?_eq_compare, order?_eq_compare, ← cmp_eq_compare, ← cmp_eq_compare, rising.cmp_map_eq]
  rw [order?, order?, zipWith_map_map, pairs]

end Container

namespace Measurement

variable {f : Family} {s : Shape} {α : Type} [Field α] [LinearOrder α] [IsStrictOrderedRing α] [HasPi α]

theorem agrees_ofUnit (pi_pos : (0 : α) < HasPi.pi) (u w : f.Unit) (c d : Container α s) :
    (ofUnit c u).agrees (ofUnit d w) = (u.convert w c).agrees d := by
  rw [← ofUnit_convert pi_pos.ne' c u w, agrees, value_ofUnit, value_ofUnit]
  exact Container.agrees_map (w.strictMono_toStandard pi_pos) _ d

theorem order?_ofUnit (pi_pos : (0 : α) < HasPi.pi) (u w : f.Unit) (c d : Container α s) :
    (ofUnit c u).order? (ofUnit d w) = (u.convert w c).order? d := by
  rw [← ofUnit_convert pi_pos.ne' c u w, order?, value_ofUnit, value_ofUnit]
  exact Container.order?_map (w.strictMono_toStandard pi_pos) _ d

theorem agrees_valueIn (pi_pos : (0 : α) < HasPi.pi) (u : f.Unit) (q r : Measurement f s α) :
    (q.valueIn u).agrees (r.valueIn u) = q.agrees r := by
  rw [valueIn_eq_map, valueIn_eq_map]
  exact Container.agrees_map (u.strictMono_fromStandard pi_pos) q.value r.value

theorem order?_valueIn (pi_pos : (0 : α) < HasPi.pi) (u : f.Unit) (q r : Measurement f s α) :
    (q.valueIn u).order? (r.valueIn u) = q.order? r := by
  rw [valueIn_eq_map, valueIn_eq_map]
  exact Container.order?_map (u.strictMono_fromStandard pi_pos) q.value r.value

end Measurement

variable {f : Family} {s : Shape} {α : Type} [Field α] [LinearOrder α] [IsStrictOrderedRing α] [HasPi α]

open Measurement in
/-- Two quantities compare as their numbers do once the first is converted to the unit of the second: conversions are
strictly rising, so scalars are ordered like their numbers and other shapes lexicographically, and equality asks for
every component. -/
theorem comparison_unit_independent (pi_pos : (0 : α) < HasPi.pi) (u w : f.Unit) :
    (∀ x y : α,
      ((ofUnit (.scalar x) u).agrees (ofUnit (.scalar y) w) = true ↔ (u.convert w (.scalar x)).toNumber = y) ∧
      (ofUnit (.scalar x) u).order? (ofUnit (.scalar y) w) =
        some (compare (u.convert w (.scalar x)).toNumber y)) ∧
    StrictMono (u.toStandard : α → α) ∧ StrictMono (u.fromStandard : α → α) ∧
    (∀ c d : Container α s, (ofUnit c u).agrees (ofUnit d u) = c.agrees d ∧
      (ofUnit c u).order? (ofUnit d u) = c.order? d) ∧
    (∀ q r : Measurement f s α, (q.valueIn u).agrees (r.valueIn u) = q.agrees r ∧
      (q.valueIn u).order? (r.valueIn u) = q.order? r) ∧
    (∀ c d : Container α s,
      ((ofUnit c u).agrees (ofUnit d w) = true ↔
        ∀ index : Nat, (u.convert w c).toList[index]? = d.toList[index]?) ∧
      ((ofUnit c u).order? (ofUnit d w) = some .lt ↔ List.Lex (· < ·) (u.convert w c).toList d.toList) ∧
      ((ofUnit c u).order? (ofUnit d w) = some .eq ↔ (u.convert w c).toList = d.toList) ∧
      ((ofUnit c u).order? (ofUnit d w) = some .gt ↔ List.Lex (· < ·) d.toList (u.convert w c).toList) ∧
      (ofUnit c u).order? (ofUnit d w) ≠ none) := by
  refine ⟨?_, u.strictMono_toStandard pi_pos, u.strictMono_fromStandard pi_pos, ?_, ?_, ?_⟩
  · intro x y
    rw [agrees_ofUnit pi_pos, order?_ofUnit pi_pos, Container.order?_scalar, Container.agrees_iff]
    obtain ⟨z⟩ := u.convert w (.scalar x)
    simp [Container.toList, Container.toNumber]
  · intro c d
    rw [agrees_ofUnit pi_pos, order?_ofUnit pi_pos, Family.Unit.convert_self pi_pos.ne']
    exact ⟨rfl, rfl⟩
  · intro q r
    exact ⟨agrees_valueIn pi_pos u q r, order?_valueIn pi_pos u q r⟩
  · intro c d
    rw [agrees_ofUnit pi_pos, order?_ofUnit pi_pos, Container.agrees_iff, Container.order?_eq_decideFirst]
    exact ⟨List.ext_getElem?_iff, Container.decideFirst_spec (Container.length_toList_eq _ d)⟩

theorem comparison_unit_independent_temperature :
    (0 : ℚ) < HasPi.pi ∧
    (Measurement.ofUnit (f := .temperature) (.scalar (68 : ℚ)) ⟨⟨3, by decide⟩⟩).order?
      (.ofUnit (.scalar 21) ⟨⟨1, by decide⟩⟩) = some .lt := by
  refine ⟨rational_pi_pos, ?_⟩
  rw [((comparison_unit_independent (s := .scalar) rational_pi_pos _ _).1 68 21).2]
  decide +kernel

end Metrology

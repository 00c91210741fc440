import Mathlib
import Metrology.Calculator.Method
import Metrology.Proofs.Binary64.Order
import Metrology.Proofs.Measurement.Comparison

namespace Metrology

/-- The first position at which two lists hold doubles that are not equal, and these doubles. -/
structure DifferFirst (xs ys : List Float) (index : Nat) (x y : Float) : Prop where
  left : xs[index]? = some x
  right : ys[index]? = some y
  unequal : (x == y) = false
  before : ∀ earlier < index, ∀ u ∈ xs[earlier]?, ∀ v ∈ ys[earlier]?, (u == v) = true

/-- What is asked of the equality and the order of values that are made of doubles. A component that is no number is
not equal to itself, so that values with such a component are not either, and one of them makes values unordered
only where the comparison comes to it. -/
structure IsSoundOrder {β : Type} (components : β → List Float) (equal : β → β → Bool)
    (order? : β → β → Option Ordering) : Prop where
  eq_iff : ∀ a b, order? a b = some .eq ↔ equal a b = true
  lt_iff_gt : ∀ a b, order? a b = some .lt ↔ order? b a = some .gt
  lt_irrefl : ∀ a, order? a a ≠ some .lt
  lt_trans : ∀ a b c, order? a b = some .lt → order? b c = some .lt → order? a c = some .lt
  decided : ∀ a b index x y, DifferFirst (components a) (components b) index x y →
    order? a b = Metrology.order? x y
  none_iff : ∀ a b, order? a b = none ↔ ∃ index x y,
    DifferFirst (components a) (components b) index x y ∧ (x.isNaN = true ∨ y.isNaN = true)
  total : ∀ a b, (∀ x ∈ components a, x.isNaN = false) → (∀ y ∈ components b, y.isNaN = false) →
    order? a b ≠ none
  symm : ∀ a b, equal a b = true → equal b a = true
  trans : ∀ a b c, equal a b = true → equal b c = true → equal a c = true
  not_refl_iff : ∀ a, equal a a = false ↔ ∃ x ∈ components a, x.isNaN = true

def listOrder? (xs ys : List Float) : Option Ordering := Container.decideFirst (xs.zipWith order? ys)

variable {xs ys zs : List Float} {x y u v : Float} {index : Nat}

theorem listOrder?_cons_of_eq (level : order? x y = some .eq) : listOrder? (x :: xs) (y :: ys) = listOrder? xs ys :=
  if_pos level

theorem listOrder?_cons_of_ne (apart : order? x y ≠ some .eq) : listOrder? (x :: xs) (y :: ys) = order? x y :=
  if_neg apart

theorem listOrder?_eq_iff (same : xs.length = ys.length) :
    listOrder? xs ys = some .eq ↔ ∀ equal ∈ xs.zipWith (· == ·) ys, equal = true := by
  induction xs generalizing ys with
  | nil =>
      obtain rfl := List.length_eq_zero_iff.mp same.symm
      exact iff_of_true rfl nofun
  | cons x xs ih =>
      obtain ⟨y, ys, rfl⟩ := List.exists_cons_of_length_eq_add_one same.symm
      rw [List.zipWith_cons_cons, List.forall_mem_cons, Binary64.beq_iff_order?]
      by_cases level : order? x y = some .eq
      · rw [listOrder?_cons_of_eq level, ih (Nat.succ.inj same)]
        exact (and_iff_right level).symm
      · rw [listOrder?_cons_of_ne level]
        exact iff_of_false level fun equal => level equal.1

theorem listOrder?_swap (same : xs.length = ys.length) : (listOrder? xs ys).map .swap = listOrder? ys xs := by
  induction xs generalizing ys with
  | nil =>
      obtain rfl := List.length_eq_zero_iff.mp same.symm
      rfl
  | cons x xs ih =>
      obtain ⟨y, ys, rfl⟩ := List.exists_cons_of_length_eq_add_one same.symm
      have turned := Binary64.order?_swap x y
      by_cases level : order? x y = some .eq
      · have level' : order? y x = some .eq := by rw [← turned, level]; rfl
        rw [listOrder?_cons_of_eq level, listOrder?_cons_of_eq level', ih (Nat.succ.inj same)]
      · have level' : order? y x ≠ some .eq := by
          rwa [ne_eq, ← Binary64.beq_iff_order?, BEq.comm, Binary64.beq_iff_order?]
        rw [listOrder?_cons_of_ne level, listOrder?_cons_of_ne level', turned]

theorem eq_lt_of_rising {o : Ordering} {head : Option Ordering} (found : head = some o) (rising : o ≠ .gt)
    (apart : head ≠ some .eq) : head = some .lt ∧ o = .lt := by
  cases o with
  | lt => exact ⟨found, rfl⟩
  | eq => exact absurd found apart
  | gt => exact absurd rfl rising

theorem then_lt_of_rising {o : Ordering} (rising : o ≠ .gt) : o.then .lt = .lt := by
  cases o with
  | lt => rfl
  | eq => rfl
  | gt => exact absurd rfl rising

theorem listOrder?_cons_of_lt (less : order? x y = some .lt) : listOrder? (x :: xs) (y :: ys) = some .lt := by
  rw [listOrder?_cons_of_ne (by rw [less]; nofun), less]

/-- Steps that do not go down add up, as they do for single doubles. Two lists need not differ first where the next
two do, and of these positions the earlier one decides. -/
theorem listOrder?_then {o p : Ordering} (same : xs.length = ys.length) (same' : ys.length = zs.length)
    (first : listOrder? xs ys = some o) (second : listOrder? ys zs = some p)
    (rising : o ≠ .gt) (rising' : p ≠ .gt) : listOrder? xs zs = some (o.then p) := by
  induction xs generalizing ys zs with
  | nil =>
      obtain rfl := List.length_eq_zero_iff.mp same.symm
      cases first
      exact second
  | cons x xs ih =>
      obtain ⟨y, ys, rfl⟩ := List.exists_cons_of_length_eq_add_one same.symm
      obtain ⟨z, zs, rfl⟩ := List.exists_cons_of_length_eq_add_one same'.symm
      -- Unless both pairs of heads are equal, one of them goes up and with it the first head to the third.
      by_cases level : order? x y = some .eq <;> by_cases level' : order? y z = some .eq
      · rw [listOrder?_cons_of_eq level] at first
        rw [listOrder?_cons_of_eq level'] at second
        rw [listOrder?_cons_of_eq (Binary64.order?_then level level' nofun nofun)]
        exact ih (Nat.succ.inj same) (Nat.succ.inj same') first second
      · rw [listOrder?_cons_of_ne level'] at second
        obtain ⟨less, rfl⟩ := eq_lt_of_rising second rising' level'
        rw [listOrder?_cons_of_lt (Binary64.order?_then level less nofun nofun), then_lt_of_rising rising]
      · rw [listOrder?_cons_of_ne level] at first
        obtain ⟨less, rfl⟩ := eq_lt_of_rising first rising level
        rw [listOrder?_cons_of_lt (Binary64.order?_then less level' nofun nofun)]
        rfl
      · rw [listOrder?_cons_of_ne level] at first
        rw [listOrder?_cons_of_ne level'] at second
        obtain ⟨less, rfl⟩ := eq_lt_of_rising first rising level
        rw [listOrder?_cons_of_lt (Binary64.order?_then less second nofun rising')]
        rfl

theorem differFirst_zero_iff :
    DifferFirst (x :: xs) (y :: ys) 0 u v ↔ x = u ∧ y = v ∧ (x == y) = false := by
  constructor
  · rintro ⟨left, right, unequal, -⟩
    cases left
    cases right
    exact ⟨rfl, rfl, unequal⟩
  · rintro ⟨rfl, rfl, unequal⟩
    exact ⟨rfl, rfl, unequal, nofun⟩

theorem differFirst_succ_iff :
    DifferFirst (x :: xs) (y :: ys) (index + 1) u v ↔ (x == y) = true ∧ DifferFirst xs ys index u v := by
  constructor
  · rintro ⟨left, right, unequal, before⟩
    refine ⟨before 0 (Nat.succ_pos index) x rfl y rfl, left, right, unequal, ?_⟩
    exact fun earlier less => before (earlier + 1) (Nat.succ_lt_succ less)
  · rintro ⟨equal, left, right, unequal, before⟩
    refine ⟨left, right, unequal, ?_⟩
    rintro (_ | earlier) less
    · rintro _ ⟨⟩ _ ⟨⟩
      exact equal
    · exact before earlier (Nat.lt_of_succ_lt_succ less)

theorem listOrder?_of_differFirst (same : xs.length = ys.length) (differ : DifferFirst xs ys index u v) :
    listOrder? xs ys = order? u v := by
  induction xs generalizing ys index with
  | nil => cases differ.left
  | cons x xs ih =>
      obtain ⟨y, ys, rfl⟩ := List.exists_cons_of_length_eq_add_one same.symm
      cases index with
      | zero =>
          obtain ⟨rfl, rfl, unequal⟩ := differFirst_zero_iff.mp differ
          apply listOrder?_cons_of_ne
          rw [ne_eq, ← Binary64.beq_iff_order?, unequal]
          exact Bool.false_ne_true
      | succ index =>
          obtain ⟨equal, differ⟩ := differFirst_succ_iff.mp differ
          rw [listOrder?_cons_of_eq ((Binary64.beq_iff_order? x y).mp equal), ih (Nat.succ.inj same) differ]

theorem exists_differFirst (same : xs.length = ys.length) (apart : listOrder? xs ys ≠ some .eq) :
    ∃ index u v, DifferFirst xs ys index u v := by
  induction xs generalizing ys with
  | nil =>
      obtain rfl := List.length_eq_zero_iff.mp same.symm
      exact absurd rfl apart
  | cons x xs ih =>
      obtain ⟨y, ys, rfl⟩ := List.exists_cons_of_length_eq_add_one same.symm
      cases equal : x == y with
      | true =>
          rw [listOrder?_cons_of_eq ((Binary64.beq_iff_order? x y).mp equal)] at apart
          obtain ⟨index, u, v, differ⟩ := ih (Nat.succ.inj same) apart
          exact ⟨index + 1, u, v, differFirst_succ_iff.mpr ⟨equal, differ⟩⟩
      | false => exact ⟨0, x, y, differFirst_zero_iff.mpr ⟨rfl, rfl, equal⟩⟩

namespace Container

variable {s : Shape}

theorem order?_eq_listOrder? (a b : Container Float s) : a.order? b = listOrder? a.toList b.toList :=
  order?_eq_decideFirst a b

theorem order?_eq_eq_iff (a b : Container Float s) : a.order? b = some .eq ↔ a.agrees b = true := by
  rw [order?_eq_listOrder?, listOrder?_eq_iff (length_toList_eq a b), agrees, toList_zipWith, List.all_eq_true]
  rfl

theorem order?_swap (a b : Container Float s) : (a.order? b).map .swap = b.order? a := by
  rw [order?_eq_listOrder?, order?_eq_listOrder?, listOrder?_swap (length_toList_eq a b)]

theorem order?_then {a b c : Container Float s} {o p : Ordering} (first : a.order? b = some o)
    (second : b.order? c = some p) (rising : o ≠ .gt) (rising' : p ≠ .gt) : a.order? c = some (o.then p) := by
  rw [order?_eq_listOrder?] at *
  exact listOrder?_then (length_toList_eq a b) (length_toList_eq b c) first second rising rising'

theorem order?_of_differFirst {a b : Container Float s} {index : Nat} {x y : Float}
    (differ : DifferFirst a.toList b.toList index x y) : a.order? b = Metrology.order? x y := by
  rw [order?_eq_listOrder?, listOrder?_of_differFirst (length_toList_eq a b) differ]

theorem order?_eq_none_iff (a b : Container Float s) :
    a.order? b = none ↔ ∃ index x y,
      DifferFirst a.toList b.toList index x y ∧ (x.isNaN = true ∨ y.isNaN = true) := by
  constructor
  · intro unordered
    have apart : listOrder? a.toList b.toList ≠ some .eq := by
      rw [← order?_eq_listOrder?, unordered]
      nofun
    obtain ⟨index, x, y, differ⟩ := exists_differFirst (length_toList_eq a b) apart
    rw [order?_of_differFirst differ] at unordered
    exact ⟨index, x, y, differ, (Binary64.order?_eq_none_iff x y).mp unordered⟩
  · rintro ⟨index, x, y, differ, nan⟩
    rw [order?_of_differFirst differ]
    exact (Binary64.order?_eq_none_iff x y).mpr nan

theorem agrees_self_eq_false_iff (a : Container Float s) :
    a.agrees a = false ↔ ∃ x ∈ a.toList, x.isNaN = true := by
  rw [agrees, toList_zipWith, List.zipWith_self, List.all_map, List.all_eq_false]
  simp

theorem order?_eq_lt_iff (a b : Container Float s) : a.order? b = some .lt ↔ b.order? a = some .gt := by
  rw [← order?_swap a b]
  rcases a.order? b with _ | _ | _ | _ <;> decide

theorem order?_self_ne_lt (a : Container Float s) : a.order? a ≠ some .lt := by
  intro less
  have more := (order?_eq_lt_iff a a).mp less
  rw [less] at more
  cases more

theorem order?_ne_none {a b : Container Float s} (left : ∀ x ∈ a.toList, x.isNaN = false)
    (right : ∀ y ∈ b.toList, y.isNaN = false) : a.order? b ≠ none := by
  intro unordered
  obtain ⟨index, x, y, differ, nan⟩ := (order?_eq_none_iff a b).mp unordered
  rw [left x (List.mem_of_getElem? differ.left), right y (List.mem_of_getElem? differ.right)] at nan
  exact nan.elim Bool.false_ne_true Bool.false_ne_true

theorem agrees_symm {a b : Container Float s} (same : a.agrees b = true) : b.agrees a = true := by
  rw [← order?_eq_eq_iff] at same ⊢
  rw [← order?_swap, same]
  rfl

theorem agrees_trans {a b c : Container Float s} (same : a.agrees b = true) (same' : b.agrees c = true) :
    a.agrees c = true := by
  rw [← order?_eq_eq_iff] at same same' ⊢
  exact order?_then same same' nofun nofun

end Container

theorem isSoundOrder_of_container {β : Type} {s : Shape} (stored : β → Container Float s) :
    IsSoundOrder (fun a => (stored a).toList) (fun a b => (stored a).agrees (stored b))
      (fun a b => (stored a).order? (stored b)) where
  eq_iff _ _ := Container.order?_eq_eq_iff _ _
  lt_iff_gt _ _ := Container.order?_eq_lt_iff _ _
  lt_irrefl _ := Container.order?_self_ne_lt _
  lt_trans _ _ _ first second := Container.order?_then first second nofun nofun
  decided _ _ _ _ _ differ := Container.order?_of_differFirst differ
  none_iff _ _ := Container.order?_eq_none_iff _ _
  total _ _ left right := Container.order?_ne_none left right
  symm _ _ same := Container.agrees_symm same
  trans _ _ _ same same' := Container.agrees_trans same same'
  not_refl_iff _ := Container.agrees_self_eq_false_iff _

namespace Calculator

variable {t : ValueType}

theorem sameType?_self (other : t ≠ .number) (c d : Container Float t.shape) :
    sameType? ⟨t, c⟩ ⟨t, d⟩ = some d := by
  simp [sameType?, other]

theorem call_equals (other : t ≠ .number) (c d : Container Float t.shape) :
    call ⟨t, c⟩ (.equals ⟨t, d⟩) = .ok (.flag (c.agrees d)) := by
  have asked : call ⟨t, c⟩ (.equals ⟨t, d⟩) =
      (orRefuse .unsupported (sameType? ⟨t, c⟩ ⟨t, d⟩)).map fun e => .flag (c.agrees e) := rfl
  rw [asked, sameType?_self other]
  rfl

theorem call_compare (other : t ≠ .number) (c d : Container Float t.shape) :
    call ⟨t, c⟩ (.compare ⟨t, d⟩) = .ok (.order (c.order? d)) := by
  have asked : call ⟨t, c⟩ (.compare ⟨t, d⟩) =
      (orRefuse .unsupported (sameType? ⟨t, c⟩ ⟨t, d⟩)).map fun e => .order (c.order? e) := rfl
  rw [asked, sameType?_self other]
  rfl

end Calculator

/-- Containers of all shapes, quantities of all families, dimensionless values, and what a calculator answers on
values of any kind, directions among them. Plain numbers are ordered as containers of a single one. -/
theorem doubles_soundly_ordered :
    (∀ s : Shape, IsSoundOrder (fun c : Container Float s => c.toList) Container.agrees Container.order?) ∧
    (∀ (f : Family) (s : Shape), IsSoundOrder (fun q : Measurement f s Float => q.value.toList)
      Measurement.agrees Measurement.order?) ∧
    (∀ s : Shape, IsSoundOrder (fun q : Dimensionless s Float => q.value.toList)
      Dimensionless.agrees Dimensionless.order?) ∧
    (∀ t : ValueType, t ≠ .number → ∃ (equal : Container Float t.shape → Container Float t.shape → Bool)
      (order? : Container Float t.shape → Container Float t.shape → Option Ordering),
      IsSoundOrder (fun c => c.toList) equal order? ∧ ∀ c d : Container Float t.shape,
        Calculator.call ⟨t, c⟩ (.equals ⟨t, d⟩) = .ok (.flag (equal c d)) ∧
        Calculator.call ⟨t, c⟩ (.compare ⟨t, d⟩) = .ok (.order (order? c d))) := by
  refine ⟨?_, ?_, ?_, ?_⟩
  · intro s
    exact isSoundOrder_of_container fun c => c
  · intro f s
    exact isSoundOrder_of_container Measurement.value
  · intro s
    exact isSoundOrder_of_container Dimensionless.value
  · intro t other
    refine ⟨Container.agrees, Container.order?, isSoundOrder_of_container fun c => c, ?_⟩
    intro c d
    exact ⟨Calculator.call_equals other c d, Calculator.call_compare other c d⟩

theorem doubles_soundly_ordered_late_nan :
    (Container.vector ⟨-0.0, 1.0, 0.0 / 0.0⟩).order? (.vector ⟨0.0, 2.0, 5.0⟩) = some .lt ∧
    (Container.vector ⟨0.0, 2.0, 5.0⟩).order? (.vector ⟨1.0 / 0.0, 0.0 / 0.0, 0.0⟩) = some .lt ∧
    (Container.vector ⟨-0.0, 1.0, 0.0 / 0.0⟩).order? (.vector ⟨1.0 / 0.0, 0.0 / 0.0, 0.0⟩) = some .lt ∧
    (Container.vector ⟨1.0, 0.0 / 0.0, 0.0⟩).order? (.vector ⟨1.0, 2.0, 0.0⟩) = none ∧
    ValueType.direction ≠ .number ∧ ∃ order : Option Ordering,
      Calculator.call ⟨.direction, .vector ⟨1.0, 0.0, 0.0⟩⟩ (.compare ⟨.direction, .vector ⟨0.0, 1.0, 0.0⟩⟩) =
        .ok (.order order) ∧ order ≠ none := by
  obtain ⟨containers, -, -, values⟩ := doubles_soundly_ordered
  have other : ValueType.direction ≠ .number := by decide
  have first : (Container.vector ⟨-0.0, 1.0, 0.0 / 0.0⟩).order? (.vector ⟨0.0, 2.0, 5.0⟩) = some .lt := by
    decide +kernel
  have second : (Container.vector ⟨0.0, 2.0, 5.0⟩).order? (.vector ⟨1.0 / 0.0, 0.0 / 0.0, 0.0⟩) = some .lt := by
    decide +kernel
  have reached : DifferFirst [1.0, 0.0 / 0.0, 0.0] [1.0, 2.0, 0.0] 1 (0.0 / 0.0) 2.0 :=
    differFirst_succ_iff.mpr ⟨by decide +kernel, differFirst_zero_iff.mpr ⟨rfl, rfl, by decide +kernel⟩⟩
  refine ⟨first, second, (containers .vector).lt_trans _ _ _ first second, ?_, other, ?_⟩
  · exact ((containers .vector).none_iff _ _).mpr ⟨1, _, _, reached, .inl (by decide +kernel)⟩
  · obtain ⟨_, order?, sound, answers⟩ := values .direction other
    refine ⟨_, (answers _ _).2, sound.total _ _ ?_ ?_⟩
    · decide +kernel
    · decide +kernel

end Metrology

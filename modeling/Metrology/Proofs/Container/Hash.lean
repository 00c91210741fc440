import Mathlib
import Metrology.Calculator.Method
import Metrology.Proofs.Container

namespace Metrology

theorem eq_or_zero_of_beq {x y : Float} (equal : (x == y) = true) :
    x = y ∨ (x == 0.0) = true ∧ (y == 0.0) = true := by
  rcases (Float.beq_iff_ne_nan_and_eq.mp equal).2.2 with same | ⟨rfl, rfl⟩ | ⟨rfl, rfl⟩
  · exact .inl same
  · exact .inr (by decide)
  · exact .inr (by decide)

theorem hashOfNumber_congr {x y : Float} (equal : (x == y) = true) : hashOfNumber x = hashOfNumber y := by
  rcases eq_or_zero_of_beq equal with rfl | ⟨left, right⟩
  · rfl
  · rw [hashOfNumber, hashOfNumber, if_pos left, if_pos right]

theorem toBits_ne_zero {x : Float} (nonzero : ¬(x == 0.0) = true) : x.toBits ≠ 0 := by
  intro blank
  have zero : x = 0.0 := Float.toBits_inj.mp (blank.trans (by decide))
  rw [zero] at nonzero
  exact nonzero (by decide)

theorem beq_of_hashOfNumber_eq {x y : Float} (number : x.isNaN = false)
    (same : hashOfNumber x = hashOfNumber y) : (x == y) = true := by
  simp only [hashOfNumber] at same
  split at same
  · next left =>
    split at same
    · next right => exact BEq.trans left (BEq.symm right)
    · next right => exact absurd same.symm (toBits_ne_zero right)
  · next left =>
    split at same
    · exact absurd same (toBits_ne_zero left)
    · have identical : x = y := Float.toBits_inj.mp same
      rw [← identical, Float.beq_self_iff]
      simpa using number

def extendHash (hash : UInt64) (x : Float) : UInt64 := hash * 31 + hashOfNumber x

/-- An odd number has an inverse modulo a power of two, so that no step loses what came before it. -/
theorem extendHash_injective (x : Float) : Function.Injective (extendHash · x) := by
  intro g h same
  have inverse : (31 * 17256631552825064415 : UInt64) = 1 := by decide
  have product : g * 31 = h * 31 := (UInt64.add_left_inj _).mp same
  calc g = g * (31 * 17256631552825064415) := by rw [inverse, UInt64.mul_one]
    _ = h * (31 * 17256631552825064415) := by rw [← UInt64.mul_assoc, product, UInt64.mul_assoc]
    _ = h := by rw [inverse, UInt64.mul_one]

theorem foldl_extendHash_injective (xs : List Float) :
    Function.Injective fun start => xs.foldl extendHash start := by
  induction xs with
  | nil => exact Function.injective_id
  | cons x xs ih => exact ih.comp (extendHash_injective x)

theorem foldl_extendHash_congr {xs ys : List Float} (length : xs.length = ys.length)
    (equal : ∀ b ∈ xs.zipWith (· == ·) ys, b = true) (start : UInt64) :
    xs.foldl extendHash start = ys.foldl extendHash start := by
  induction xs generalizing ys start with
  | nil => cases ys with
    | nil => rfl
    | cons y ys => cases length
  | cons x xs ih => cases ys with
    | nil => cases length
    | cons y ys =>
        simp only [List.zipWith_cons_cons, List.forall_mem_cons] at equal
        have first : extendHash start x = extendHash start y :=
          congrArg (start * 31 + ·) (hashOfNumber_congr equal.1)
        rw [List.foldl_cons, List.foldl_cons, first]
        exact ih (Nat.succ.inj length) equal.2 _

theorem foldl_extendHash_ne {xs ys : List Float} (length : xs.length = ys.length)
    (numbers : ∀ x ∈ xs, x.isNaN = false) (different : (xs.zipWith (· == ·) ys).count false = 1)
    (start : UInt64) : xs.foldl extendHash start ≠ ys.foldl extendHash start := by
  induction xs generalizing ys start with
  | nil => simp at different
  | cons x xs ih => cases ys with
    | nil => cases length
    | cons y ys =>
        simp only [List.zipWith_cons_cons, List.forall_mem_cons] at numbers different
        cases equal : x == y with
        | true =>
            have first : extendHash start x = extendHash start y :=
              congrArg (start * 31 + ·) (hashOfNumber_congr equal)
            rw [List.foldl_cons, List.foldl_cons, first]
            exact ih (Nat.succ.inj length) numbers.2 (by simpa [equal] using different) _
        | false =>
            -- From here on nothing differs, so equal hashes would come from equal ones after this number.
            have rest : ∀ b ∈ xs.zipWith (· == ·) ys, b = true := by
              have none : (xs.zipWith (· == ·) ys).count false = 0 := by simpa [equal] using different
              intro b member
              cases b with
              | true => rfl
              | false => exact absurd member (List.count_eq_zero.mp none)
            intro same
            rw [List.foldl_cons, List.foldl_cons,
              foldl_extendHash_congr (Nat.succ.inj length) rest (extendHash start x)] at same
            have first : extendHash start x = extendHash start y := foldl_extendHash_injective ys same
            have hashes : hashOfNumber x = hashOfNumber y := (UInt64.add_right_inj _).mp first
            rw [beq_of_hashOfNumber_eq numbers.1 hashes] at equal
            cases equal

namespace Container

variable {s : Shape}

theorem hashValue_eq_foldl (c : Container Float s) (several : s ≠ .scalar) :
    c.hashValue = c.toList.foldl extendHash 17 := by
  cases c with
  | scalar a => exact absurd rfl several
  | vector v => rfl
  | dyad d => rfl
  | symmetricDyad t => rfl

theorem hashValue_congr {a b : Container Float s} (equal : a.agrees b = true) :
    a.hashValue = b.hashValue := by
  simp only [agrees, List.all_eq_true, id_eq] at equal
  by_cases several : s = .scalar
  · subst several
    cases a with | scalar x => cases b with | scalar y =>
      exact hashOfNumber_congr (equal _ List.mem_cons_self)
  · rw [toList_zipWith] at equal
    rw [hashValue_eq_foldl a several, hashValue_eq_foldl b several]
    exact foldl_extendHash_congr (length_toList_eq a b) equal 17

theorem hashValue_ne {a b : Container Float s} (numbers : ∀ x ∈ a.toList, x.isNaN = false)
    (different : (a.zipWith (· == ·) b).toList.count false = 1) : a.hashValue ≠ b.hashValue := by
  by_cases several : s = .scalar
  · subst several
    cases a with | scalar x => cases b with | scalar y =>
      intro same
      have equal : (x == y) = true := beq_of_hashOfNumber_eq (numbers x List.mem_cons_self) same
      simp [zipWith, toList, equal] at different
  · rw [toList_zipWith] at different
    rw [hashValue_eq_foldl a several, hashValue_eq_foldl b several]
    exact foldl_extendHash_ne (length_toList_eq a b) numbers different 17

end Container

namespace Calculator

theorem sameType?_eq_some {v w : Value Float} {c : Container Float v.type.shape}
    (found : sameType? v w = some c) : w = ⟨v.type, c⟩ := by
  unfold sameType? at found
  split at found
  · cases found
  · split at found
    · next same =>
      obtain ⟨t, a⟩ := v
      obtain ⟨t', b⟩ := w
      cases same
      cases found
      rfl
    · cases found

theorem call_hash_congr {v w : Value Float} (equal : call v (.equals w) = .ok (.flag true)) :
    call v .hash = call w .hash := by
  have asked : call v (.equals w) =
      (orRefuse .unsupported (sameType? v w)).map fun c => .flag (v.container.agrees c) := rfl
  rw [asked] at equal
  cases found : sameType? v w with
  | none =>
    rw [found] at equal
    cases equal
  | some c =>
    rw [found] at equal
    have flag : Reply.flag (v.container.agrees c) = .flag true := Except.ok.inj equal
    have agree : v.container.agrees c = true := Reply.flag.inj flag
    rw [sameType?_eq_some found]
    exact congrArg (fun hash => Except.ok (Reply.hash hash)) (Container.hashValue_congr agree)

end Calculator

/-- Equal values have one hash, whatever shape, type or units they have, and so do calls of the calculator. Scalars
with one hash are equal, and a change in a single component changes the hash, as no step of it loses what came
before. -/
theorem hash_agrees_with_equality :
    (∀ (s : Shape) (a b : Container Float s), a.agrees b = true → a.hashValue = b.hashValue) ∧
    (∀ (f : Family) (s : Shape) (a b : Measurement f s Float),
      a.agrees b = true → a.hashValue = b.hashValue) ∧
    (∀ (f : Family) (s : Shape) (c d : Container Float s) (u w : f.Unit),
      (Measurement.ofUnit c u).agrees (.ofUnit d w) = true →
        (Measurement.ofUnit c u).hashValue = (Measurement.ofUnit d w).hashValue) ∧
    (∀ (s : Shape) (a b : Dimensionless s Float), a.agrees b = true → a.hashValue = b.hashValue) ∧
    (∀ v w : Value Float, Calculator.call v (.equals w) = .ok (.flag true) →
      Calculator.call v .hash = Calculator.call w .hash) ∧
    (∀ x y : Float, x.isNaN = false → y.isNaN = false →
      (Container.scalar x).hashValue = (Container.scalar y).hashValue → (x == y) = true) ∧
    (∀ (s : Shape) (a b : Container Float s), (∀ x ∈ a.toList, x.isNaN = false) →
      (∀ x ∈ b.toList, x.isNaN = false) → (a.zipWith (· == ·) b).toList.count false = 1 →
        a.hashValue ≠ b.hashValue) := by
  refine ⟨?_, ?_, ?_, ?_, ?_, ?_, ?_⟩
  · intro s a b equal
    exact Container.hashValue_congr equal
  · intro f s a b equal
    exact Container.hashValue_congr equal
  · intro f s c d u w equal
    exact Container.hashValue_congr equal
  · intro s a b equal
    exact Container.hashValue_congr equal
  · intro v w equal
    exact Calculator.call_hash_congr equal
  · intro x y number _ same
    exact beq_of_hashOfNumber_eq number same
  · intro s a b numbers _ different
    exact Container.hashValue_ne numbers different

theorem hash_agrees_with_equality_lengths :
    (Measurement.ofUnit (.scalar 2.0) ⟨⟨1, by decide⟩⟩ : Measurement .length .scalar Float).hashValue =
      (Measurement.ofUnit (.scalar 2000.0) ⟨⟨4, by decide⟩⟩ : Measurement .length .scalar Float).hashValue ∧
    (Container.vector ⟨-0.0, 2.0, 3.0⟩).hashValue = (Container.vector ⟨0.0, 2.0, 3.0⟩).hashValue ∧
    (Container.vector ⟨1.0, 2.0, 3.0⟩).hashValue ≠ (Container.vector ⟨1.0, 2.0, 4.0⟩).hashValue ∧
    ((2.5 : Float) == 2.5) = true := by
  obtain ⟨containers, -, given, -, -, scalars, apart⟩ := hash_agrees_with_equality
  refine ⟨given .length .scalar _ _ _ _ ?_, containers .vector _ _ ?_, apart .vector _ _ ?_ ?_ ?_, ?_⟩
  · decide +kernel
  · decide +kernel
  · decide +kernel
  · decide +kernel
  · decide +kernel
  · exact scalars 2.5 2.5 (by decide +kernel) (by decide +kernel) rfl

end Metrology

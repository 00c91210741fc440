import Metrology.Container.Basic

namespace Metrology.Container

variable {α β γ δ ε : Type} {s : Shape}

theorem toList_map (g : α → β) (c : Container α s) : (c.map g).toList = c.toList.map g := by
  cases c <;> rfl

theorem toList_zipWith (k : α → β → γ) (a : Container α s) (b : Container β s) :
    (a.zipWith k b).toList = a.toList.zipWith k b.toList := by
  cases a <;> cases b <;> rfl

theorem length_toList_eq (a : Container α s) (b : Container β s) : a.toList.length = b.toList.length := by
  cases a <;> cases b <;> rfl

theorem map_replicate (g : α → β) (a : α) : (replicate a s).map g = replicate (g a) s := by
  cases s <;> rfl

theorem map_map (g : α → β) (h : β → γ) (c : Container α s) :
    (c.map g).map h = c.map fun x => h (g x) := by
  cases c <;> rfl

theorem map_congr {g h : α → β} (same : ∀ x, g x = h x) (c : Container α s) : c.map g = c.map h := by
  rw [funext same]

theorem map_eq_self {g : α → α} (fixed : ∀ x, g x = x) (c : Container α s) : c.map g = c := by
  rw [funext fixed]
  cases c <;> rfl

theorem zipWith_map_map (k : γ → δ → ε) (g : α → γ) (h : β → δ) (a : Container α s) (b : Container β s) :
    (a.map g).zipWith k (b.map h) = a.zipWith (fun x y => k (g x) (h y)) b := by
  cases a <;> cases b <;> rfl

theorem map_zipWith_eq (g : γ → δ) (k : α → β → γ) (a : Container α s) (b : Container β s) :
    (a.zipWith k b).map g = a.zipWith (fun x y => g (k x y)) b := by
  cases a <;> cases b <;> rfl

theorem map_zipWith {g : α → α → α} {h : α → β} {k : β → β → β}
    (distributes : ∀ x y, h (g x y) = k (h x) (h y)) (a b : Container α s) :
    (a.zipWith g b).map h = (a.map h).zipWith k (b.map h) := by
  rw [map_zipWith_eq, zipWith_map_map]
  exact congrArg (fun op => a.zipWith op b) (funext fun x => funext (distributes x))

variable {k : α → α → α}

theorem zipWith_assoc (assoc : ∀ x y z, k (k x y) z = k x (k y z)) (a b c : Container α s) :
    (a.zipWith k b).zipWith k c = a.zipWith k (b.zipWith k c) := by
  cases a <;> cases b <;> cases c <;>
    simp only [zipWith, Vector3.zipWith, Dyad.zipWith, SymmetricDyad.zipWith, assoc]

theorem zipWith_comm (comm : ∀ x y, k x y = k y x) (a b : Container α s) : a.zipWith k b = b.zipWith k a := by
  have turned : b.zipWith k a = a.zipWith (fun x y => k y x) b := by
    cases a <;> cases b <;> rfl
  rw [turned]
  exact congrArg (fun op => a.zipWith op b) (funext fun x => funext (comm x))

theorem replicate_zipWith {z : α} (neutral : ∀ x, k z x = x) (a : Container α s) :
    (replicate z s).zipWith k a = a := by
  cases a <;>
    simp only [replicate, zipWith, Vector3.replicate, Vector3.zipWith, Dyad.replicate, Dyad.zipWith,
      SymmetricDyad.replicate, SymmetricDyad.zipWith, neutral]

theorem map_zipWith_self {g : α → α} {z : α} (cancel : ∀ x, k (g x) x = z) (a : Container α s) :
    (a.map g).zipWith k a = replicate z s := by
  cases a <;>
    simp only [replicate, map, zipWith, Vector3.replicate, Vector3.map, Vector3.zipWith, Dyad.replicate,
      Dyad.map, Dyad.zipWith, SymmetricDyad.replicate, SymmetricDyad.map, SymmetricDyad.zipWith, cancel]

end Metrology.Container

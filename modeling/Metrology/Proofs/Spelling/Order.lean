import Metrology.Proofs.Spelling.Rows

namespace Metrology.Spelling

variable {β : Type} {entries others : List (List Char × β)}

theorem Consistent.perm (consistent : Consistent entries) (order : others.Perm entries) :
    Consistent others := by
  intro a inside b within
  exact consistent a (order.mem_iff.mp inside) b (order.mem_iff.mp within)

theorem firstUnder?_eq_some_iff (consistent : Consistent entries) (key : List Char) (value : β) :
    firstUnder? entries key = some value ↔ ∃ entry ∈ entries, normalize entry.1 = key ∧ entry.2 = value := by
  constructor
  · exact exists_of_firstUnder?
  · rintro ⟨entry, member, rfl, rfl⟩
    exact firstUnder?_of_mem consistent member

theorem firstUnder?_perm (consistent : Consistent entries) (order : others.Perm entries) (key : List Char) :
    firstUnder? others key = firstUnder? entries key := by
  apply Option.ext
  intro value
  rw [firstUnder?_eq_some_iff consistent, firstUnder?_eq_some_iff (consistent.perm order)]
  simp only [order.mem_iff]

variable [DecidableEq β]

theorem candidates_perm (order : others.Perm entries) (foldedKey : List Char) :
    candidates others foldedKey = candidates entries foldedKey :=
  List.toFinset_eq_of_perm _ _ ((order.filter _).map Prod.snd)

theorem Table.search_congr {text : List Char}
    (first : firstUnder? others (normalize text) = firstUnder? entries (normalize text))
    (values : candidates others (fold (normalize text)) = candidates entries (fold (normalize text))) :
    (ofEntries others).search text = (ofEntries entries).search text := by
  cases found : firstUnder? entries (normalize text) with
  | some value => rw [search_of_first found, search_of_first (first.trans found)]
  | none =>
      have there := search_of_not_first found
      have here := search_of_not_first (first.trans found)
      rw [values] at here
      rcases there with ⟨there, empty⟩ | ⟨value, there, single⟩ | ⟨there, several⟩
      · simp [empty] at here
        rw [here, there]
      · simp [single] at here
        rw [here, there]
      · rcases here with ⟨here, empty⟩ | ⟨value, here, single⟩ | ⟨here, -⟩
        · simp [empty] at several
        · simp [single] at several
        · rw [here, there]

end Metrology.Spelling

namespace Metrology

open Spelling

namespace Named

variable {β : Type} [DecidableEq β]

/-- No row stands behind another: whatever text has the key of a row names the value of that row. -/
def FindsEveryRow (named : Named β) : Prop :=
  ∀ row ∈ named.rows, ∀ input : String, normalize input.toList = normalize row.1.toList →
    named.parse? input = some row.2

/-- The rows in any other order give every text the same outcome. -/
def IsOrderFree (named : Named β) : Prop :=
  ∀ rows : List (String × β), rows.Perm named.rows → ∀ input : String,
    ({ named with rows } : Named β).search input = named.search input

theorem findsEveryRow_of_consistent {named : Named β} (consistent : Consistent named.entries) :
    named.FindsEveryRow :=
  fun _ member _ same => parse?_of_mem_rows consistent member same

theorem isOrderFree_of_consistent {named : Named β} (consistent : Consistent named.entries) :
    named.IsOrderFree := by
  intro rows order input
  have entered : (rows.map fun row => (row.1.toList, row.2)).Perm named.entries := order.map _
  exact Table.search_congr (firstUnder?_perm consistent entered _) (candidates_perm entered _)

end Named

theorem UnitSystem.rows_consistent : Consistent UnitSystem.named.entries := by
  apply consistent_of_keyNumbers
  decide

theorem Precision.rows_consistent : Consistent Precision.named.entries := by
  apply consistent_of_keyNumbers
  decide

theorem UnitSystem.parse?_abbreviation (system : UnitSystem) :
    UnitSystem.named.parse? system.abbreviation = some system := by
  have member : (system.abbreviation, system) ∈ UnitSystem.named.rows := by
    cases system <;> simp [UnitSystem.named, UnitSystem.all]
  exact Named.parse?_of_mem_rows UnitSystem.rows_consistent member rfl

/-- In none of the tables does a row stand behind another one, and none depends on the order of its rows. -/
theorem rows_unshadowed :
    (∀ f : Family, f.named.FindsEveryRow ∧ f.named.IsOrderFree ∧
      ∀ u : f.Unit, f.named.parse? u.abbreviation = some u) ∧
    (UnitSystem.named.FindsEveryRow ∧ UnitSystem.named.IsOrderFree ∧
      ∀ system : UnitSystem, UnitSystem.named.parse? system.abbreviation = some system) ∧
    (Precision.named.FindsEveryRow ∧ Precision.named.IsOrderFree) := by
  refine ⟨fun f => ⟨?_, ?_, Family.parse?_abbreviation⟩, ⟨?_, ?_, UnitSystem.parse?_abbreviation⟩, ?_, ?_⟩
  · exact Named.findsEveryRow_of_consistent f.rows_consistent
  · exact Named.isOrderFree_of_consistent f.rows_consistent
  · exact Named.findsEveryRow_of_consistent UnitSystem.rows_consistent
  · exact Named.isOrderFree_of_consistent UnitSystem.rows_consistent
  · exact Named.findsEveryRow_of_consistent Precision.rows_consistent
  · exact Named.isOrderFree_of_consistent Precision.rows_consistent

theorem rows_unshadowed_energy :
    (∃ row ∈ Family.energy.named.rows, row = ("N·m", Family.energy.standard) ∧
      normalize " N × m ".toList = normalize row.1.toList) ∧
    Family.energy.named.parse? " N × m " = some Family.energy.standard ∧
    Family.energy.named.rows.reverse.Perm Family.energy.named.rows ∧
    ({ Family.energy.named with rows := Family.energy.named.rows.reverse } : Named Family.energy.Unit).search
      " N × m " = Family.energy.named.search " N × m " := by
  have member : ("N·m", Family.energy.standard) ∈ Family.energy.named.rows := by decide
  have same : normalize " N × m ".toList = normalize "N·m".toList := by decide
  have reversed : Family.energy.named.rows.reverse.Perm Family.energy.named.rows := List.reverse_perm _
  obtain ⟨found, orderFree, -⟩ := rows_unshadowed.1 .energy
  exact ⟨⟨_, member, rfl, same⟩, found _ member _ same, reversed, orderFree _ reversed _⟩

end Metrology

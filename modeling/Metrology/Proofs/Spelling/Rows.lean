import Mathlib.Data.List.Pairwise
import Metrology.Proofs.Spelling.Lookup

namespace Metrology.Spelling

variable {β : Type}

def Consistent (entries : List (List Char × β)) : Prop :=
  ∀ a ∈ entries, ∀ b ∈ entries, normalize a.1 = normalize b.1 → a.2 = b.2

theorem firstUnder?_of_mem {entries : List (List Char × β)} (consistent : Consistent entries)
    {entry : List Char × β} (member : entry ∈ entries) :
    firstUnder? entries (normalize entry.1) = some entry.2 := by
  have found : (entries.find? fun other => normalize other.1 == normalize entry.1).isSome = true := by
    rw [List.find?_isSome]
    exact ⟨entry, member, by simp⟩
  obtain ⟨first, first_found⟩ := Option.isSome_iff_exists.mp found
  have key : normalize first.1 = normalize entry.1 := by simpa using List.find?_some first_found
  rw [firstUnder?, first_found, Option.map_some]
  exact congrArg some (consistent first (List.mem_of_find?_eq_some first_found) entry member key)

def isPlain (c : Char) : Bool := Nat.blt 0x20 c.toNat && Nat.blt c.toNat 0x7f && !Nat.beq c.toNat 0x5e

theorem keyOf_of_isPlain {c : Char} (plain : isPlain c = true) : keyOf c = [c] := by
  simp only [isPlain, Bool.and_eq_true, Bool.not_eq_true', Nat.blt_eq] at plain
  obtain ⟨⟨above, below⟩, caret⟩ := plain
  have visible : Text.isBlank c = false := by
    simp [Text.isBlank, Text.blankRanges]
    omega
  unfold keyOf
  rw [visible]
  simp only [Bool.false_eq_true, if_false]
  split <;> simp_all +decide

/-- A key as a number whose digits are its characters. -/
def keyNumber (text : List Char) : Nat :=
  (text.flatMap fun c => if isPlain c then [c] else keyOf c).foldl (fun n c => n * 0x110000 + c.toNat) 0

theorem keyNumber_congr {a b : List Char} (same : normalize a = normalize b) : keyNumber a = keyNumber b := by
  have short : ∀ c, (if isPlain c then [c] else keyOf c) = keyOf c := by
    intro c
    split
    · next plain => exact (keyOf_of_isPlain plain).symm
    · rfl
  simp only [keyNumber, short]
  exact congrArg (List.foldl (fun n (c : Char) => n * 0x110000 + c.toNat) 0) same

/-- It is enough that the numbers of the keys differ wherever the values do. -/
theorem consistent_of_keyNumbers {entries : List (List Char × β)}
    (apart : (entries.map fun entry => (keyNumber entry.1, entry.2)).Pairwise fun a b =>
      a.1 ≠ b.1 ∨ a.2 = b.2) : Consistent entries := by
  let agree (a b : List Char × β) : Prop := keyNumber a.1 ≠ keyNumber b.1 ∨ a.2 = b.2
  have symmetric : Std.Symm agree := ⟨fun a b => Or.imp Ne.symm Eq.symm⟩
  have pairs : entries.Pairwise agree := List.pairwise_map.mp apart
  intro a inside b within same
  have reflexive : ∀ x ∈ entries, agree x x := fun x _ => Or.inr rfl
  have holds : agree a b := List.Pairwise.forall_of_forall reflexive pairs inside within
  exact holds.resolve_left fun differ => differ (keyNumber_congr same)

end Metrology.Spelling

namespace Metrology.Named

open Spelling

theorem parse?_of_mem_rows {β : Type} [DecidableEq β] {named : Named β}
    (consistent : Consistent named.entries) {row : String × β} (member : row ∈ named.rows) {input : String}
    (same : normalize input.toList = normalize row.1.toList) : named.parse? input = some row.2 := by
  have first := firstUnder?_of_mem consistent
    (List.mem_map.mpr ⟨row, member, rfl⟩ : (row.1.toList, row.2) ∈ named.entries)
  rw [← same] at first
  exact parse?_of_search (Table.search_of_first first)

end Metrology.Named

namespace Metrology.Family

open Spelling

theorem rows_consistent (f : Family) : Consistent f.named.entries := by
  apply consistent_of_keyNumbers
  cases f <;> decide +kernel

theorem mem_units {f : Family} (u : f.Unit) : u ∈ f.units :=
  List.mem_map.mpr ⟨u.place, List.mem_finRange u.place, rfl⟩

theorem parse?_of_mem_rows {f : Family} {row : String × f.Unit} (member : row ∈ f.named.rows)
    {input : String} (same : normalize input.toList = normalize row.1.toList) :
    f.named.parse? input = some row.2 :=
  Named.parse?_of_mem_rows f.rows_consistent member same

theorem parse?_abbreviation {f : Family} (u : f.Unit) : f.named.parse? u.abbreviation = some u := by
  have member : (u.abbreviation, u) ∈ f.named.rows :=
    List.mem_flatMap.mpr ⟨u, mem_units u, by simp⟩
  exact parse?_of_mem_rows member rfl

end Metrology.Family

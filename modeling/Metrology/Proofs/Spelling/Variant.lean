import Metrology.Proofs.Spelling.Lookup

namespace Metrology.Spelling

/-- Texts whose keys agree once case is disregarded. -/
def IsVariant (s t : List Char) : Prop := fold (normalize s) = fold (normalize t)

instance (s t : List Char) : Decidable (IsVariant s t) := inferInstanceAs (Decidable (_ = _))

namespace Table

variable {β : Type} {s t : List Char}

def HasKey (table : Table β) (text : List Char) : Prop := (find? table.exact (normalize text)).isSome = true

instance (table : Table β) (text : List Char) : Decidable (table.HasKey text) :=
  inferInstanceAs (Decidable (_ = _))

theorem find?_exact_of_not_hasKey {table : Table β} (missing : ¬table.HasKey s) :
    find? table.exact (normalize s) = none := by
  simpa [HasKey] using missing

theorem search_eq_of_not_hasKey {table : Table β} (variant : IsVariant s t) (left : ¬table.HasKey s)
    (right : ¬table.HasKey t) : table.search s = table.search t := by
  have same : fold (normalize s) = fold (normalize t) := variant
  simp only [search, find?_exact_of_not_hasKey left, find?_exact_of_not_hasKey right, same]

variable [DecidableEq β] {entries : List (List Char × β)} {value : β}

theorem firstUnder?_of_not_hasKey (missing : ¬(ofEntries entries).HasKey s) :
    firstUnder? entries (normalize s) = none := by
  rw [← (indexes_ofEntries entries).exact]
  exact find?_exact_of_not_hasKey missing

theorem candidates_of_lookup (missing : ¬(ofEntries entries).HasKey s)
    (found : (ofEntries entries).lookup s = some value) :
    candidates entries (fold (normalize s)) = {value} := by
  rcases search_of_not_first (firstUnder?_of_not_hasKey missing) with
    ⟨none, -⟩ | ⟨only, one, single⟩ | ⟨many, -⟩
  · rw [lookup_of_search none] at found
    cases found
  · rw [lookup_of_search one] at found
    cases found
    exact single
  · rw [lookup_of_search many] at found
    cases found

theorem lookup_of_variant (variant : IsVariant s t) (missing : ¬(ofEntries entries).HasKey s)
    (found : (ofEntries entries).lookup s = some value) : (ofEntries entries).lookup t = some value := by
  apply lookup_of_candidates
  rw [← show fold (normalize s) = _ from variant]
  exact candidates_of_lookup missing found

theorem hasKey_of_lookup_ne {other : β} (variant : IsVariant s t)
    (left : (ofEntries entries).lookup s = some value) (right : (ofEntries entries).lookup t = some other)
    (differ : value ≠ other) : (ofEntries entries).HasKey s := by
  by_contra missing
  rw [lookup_of_variant variant missing left] at right
  exact differ (Option.some.inj right)

/-- Where two values share a folded key, a text with that key alone is refused. -/
theorem search_ambiguous {other : β} (missing : ¬(ofEntries entries).HasKey s)
    (left : value ∈ candidates entries (fold (normalize s)))
    (right : other ∈ candidates entries (fold (normalize s))) (differ : value ≠ other) :
    ∃ count, 2 ≤ count ∧ (ofEntries entries).search s = .ambiguous count := by
  have two : 1 < (candidates entries (fold (normalize s))).card :=
    Finset.one_lt_card.mpr ⟨value, left, other, right, differ⟩
  rcases search_of_not_first (firstUnder?_of_not_hasKey missing) with
    ⟨-, empty⟩ | ⟨only, -, single⟩ | ⟨many, -⟩
  · simp [empty] at two
  · simp [single] at two
  · exact ⟨_, two, many⟩

end Table

open Table

/-- Texts that differ in case only. If neither is an entry, they mean the same; what one of them names without
being an entry, the other names too; and if they name different values, both are entries and all others of
the kind are ambiguous. -/
theorem case_variants_never_disagree {β : Type} [DecidableEq β] (entries : List (List Char × β))
    (s t : List Char) (variant : IsVariant s t) :
    let table := ofEntries entries
    (¬table.HasKey s → ¬table.HasKey t → table.lookup s = table.lookup t) ∧
    (∀ value, ¬table.HasKey s → table.lookup s = some value → table.lookup t = some value) ∧
    (∀ value other, table.lookup s = some value → table.lookup t = some other → value ≠ other →
      table.HasKey s ∧ table.HasKey t ∧
      ∀ u, IsVariant u s → ¬table.HasKey u →
        table.lookup u = none ∧ ∃ count, 2 ≤ count ∧ table.search u = .ambiguous count) := by
  intro table
  refine ⟨?_, ?_, ?_⟩
  · intro left right
    exact congrArg Outcome.toOption (search_eq_of_not_hasKey variant left right)
  · intro value missing found
    exact lookup_of_variant variant missing found
  · intro value other left right differ
    refine ⟨hasKey_of_lookup_ne variant left right differ,
      hasKey_of_lookup_ne (Eq.symm variant) right left differ.symm, ?_⟩
    intro u same missing
    have first := mem_candidates_of_lookup left
    have second := mem_candidates_of_lookup right
    rw [← show fold (normalize u) = _ from same] at first
    rw [← show fold (normalize u) = _ from Eq.trans same variant] at second
    obtain ⟨count, two, ambiguous⟩ := search_ambiguous missing first second differ
    exact ⟨lookup_of_search ambiguous, count, two, ambiguous⟩

theorem case_variants_never_disagree_watts :
    let table := ofEntries Family.power.named.entries
    ∃ watt milliwatt megawatt : Family.power.Unit,
      [watt, milliwatt, megawatt].map Family.Unit.name = ["Watt", "Milliwatt", "Megawatt"] ∧
      IsVariant "WATTS".toList "watts".toList ∧ ¬table.HasKey "WATTS".toList ∧
      table.lookup "WATTS".toList = some watt ∧ table.lookup "watts".toList = some watt ∧
      IsVariant "mW".toList "MW".toList ∧ table.lookup "mW".toList = some milliwatt ∧
      table.lookup "MW".toList = some megawatt ∧ milliwatt ≠ megawatt ∧
      IsVariant "mw".toList "mW".toList ∧ ¬table.HasKey "mw".toList ∧
      table.lookup "mw".toList = none := by
  intro table
  let watt : Family.power.Unit := ⟨⟨3, by decide⟩⟩
  let milliwatt : Family.power.Unit := ⟨⟨4, by decide⟩⟩
  let megawatt : Family.power.Unit := ⟨⟨1, by decide⟩⟩
  have names : [watt, milliwatt, megawatt].map Family.Unit.name = ["Watt", "Milliwatt", "Megawatt"] := by
    decide
  have capitals : IsVariant "WATTS".toList "watts".toList := by decide
  have missing : ¬table.HasKey "WATTS".toList := by decide +kernel
  have watts : table.lookup "WATTS".toList = some watt := by decide +kernel
  have symbols : IsVariant "mW".toList "MW".toList := by decide
  have small : table.lookup "mW".toList = some milliwatt := by decide +kernel
  have large : table.lookup "MW".toList = some megawatt := by decide +kernel
  have apart : milliwatt ≠ megawatt := by decide
  have lowered : IsVariant "mw".toList "mW".toList := by decide
  have absent : ¬table.HasKey "mw".toList := by decide +kernel
  have found := (case_variants_never_disagree _ _ _ capitals).2.1 watt missing watts
  obtain ⟨-, -, refused⟩ := (case_variants_never_disagree _ _ _ symbols).2.2 _ _ small large apart
  exact ⟨watt, milliwatt, megawatt, names, capitals, missing, watts, found, symbols, small, large, apart,
    lowered, absent, (refused _ lowered absent).1⟩

end Metrology.Spelling

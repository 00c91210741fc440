import Mathlib.Data.Finset.Card
import Metrology.Unit.Spelling

namespace Metrology.Spelling

variable {β : Type}

def firstUnder? (entries : List (List Char × β)) (key : List Char) : Option β :=
  (entries.find? fun entry => normalize entry.1 == key).map Prod.snd

/-- The values of the entries whose key is the given one once case is folded. -/
def candidates [DecidableEq β] (entries : List (List Char × β)) (foldedKey : List Char) : Finset β :=
  ((entries.filter fun entry => fold (normalize entry.1) == foldedKey).map Prod.snd).toFinset

theorem firstUnder?_concat (entries : List (List Char × β)) (entry : List Char × β) (key : List Char) :
    firstUnder? (entries ++ [entry]) key =
      (firstUnder? entries key).or (if normalize entry.1 = key then some entry.2 else none) := by
  by_cases same : normalize entry.1 = key <;>
    simp [firstUnder?, List.find?_append, same]

theorem exists_of_firstUnder? {entries : List (List Char × β)} {key : List Char} {value : β}
    (found : firstUnder? entries key = some value) :
    ∃ entry ∈ entries, normalize entry.1 = key ∧ entry.2 = value := by
  obtain ⟨entry, first, named⟩ := Option.map_eq_some_iff.mp found
  exact ⟨entry, List.mem_of_find?_eq_some first, by simpa using List.find?_some first, named⟩

theorem candidates_concat [DecidableEq β] (entries : List (List Char × β)) (entry : List Char × β)
    (foldedKey : List Char) :
    candidates (entries ++ [entry]) foldedKey =
      if fold (normalize entry.1) = foldedKey then insert entry.2 (candidates entries foldedKey)
      else candidates entries foldedKey := by
  rw [candidates, List.filter_append, List.map_append, List.toFinset_append, ← candidates]
  by_cases same : fold (normalize entry.1) = foldedKey
  · simp [same, Finset.union_comm _ {entry.2}]
  · simp [same]

namespace Table

theorem find?_enterFirst (index : List (List Char × β)) (key other : List Char) (value : β) :
    find? (enterFirst index key value) other =
      (find? index other).or (if key = other then some value else none) := by
  unfold enterFirst
  split
  · next known =>
      obtain ⟨earlier, found⟩ := Option.isSome_iff_exists.mp known
      by_cases same : key = other
      · rw [← same, found, Option.some_or]
      · rw [if_neg same, Option.or_none]
  · rw [find?, List.lookup_append]
    by_cases same : key = other
    · simp [find?, same]
    · have apart : (other == key) = false := by simpa using Ne.symm same
      simp [find?, List.lookup_cons, same, apart]

variable [DecidableEq β]

def adjoin (values : List β) (value : β) : List β :=
  if values.contains value then values else values ++ [value]

theorem adjoin_ne_nil (values : List β) (value : β) : adjoin values value ≠ [] := by
  unfold adjoin
  split
  · next known => exact List.ne_nil_of_mem (List.contains_iff_mem.mp known)
  · simp

theorem nodup_adjoin {values : List β} (distinct : values.Nodup) (value : β) :
    (adjoin values value).Nodup := by
  unfold adjoin
  split
  · exact distinct
  · next unknown =>
      rw [List.contains_iff_mem] at unknown
      exact List.nodup_append.mpr ⟨distinct, by simp, by grind⟩

theorem toFinset_adjoin (values : List β) (value : β) :
    (adjoin values value).toFinset = insert value values.toFinset := by
  unfold adjoin
  split
  · next known =>
      have member : value ∈ values.toFinset := by simpa using known
      rw [Finset.insert_eq_of_mem member]
  · ext other
    simp

theorem find?_enterDistinct (index : List (List Char × List β)) (key other : List Char) (value : β) :
    find? (enterDistinct index key value) other =
      if other = key then some (adjoin ((find? index key).getD []) value) else find? index other := by
  induction index with
  | nil =>
      by_cases same : other = key
      · simp [enterDistinct, find?, adjoin, same]
      · have apart : (other == key) = false := by simpa using same
        simp [enterDistinct, find?, List.lookup_cons, same, apart]
  | cons first rest ih =>
      obtain ⟨known, values⟩ := first
      by_cases here : key = known
      · subst here
        by_cases same : other = key
        · simp [enterDistinct, find?, adjoin, same]
        · have apart : (other == key) = false := by simpa using same
          simp [enterDistinct, find?, List.lookup_cons, same, apart]
      · have elsewhere : (key == known) = false := by simpa using here
        by_cases there : other = known
        · have different : other ≠ key := by rw [there]; exact Ne.symm here
          simp [enterDistinct, find?, elsewhere, there, Ne.symm here]
        · have apart : (other == known) = false := by simpa using there
          simpa [enterDistinct, find?, List.lookup_cons, elsewhere, apart] using ih

/-- What the two indexes of a table hold when it was made from the given entries. -/
structure Indexes (table : Table β) (entries : List (List Char × β)) : Prop where
  exact : ∀ key, find? table.exact key = firstUnder? entries key
  folded : ∀ foldedKey values, find? table.folded foldedKey = some values →
    values ≠ [] ∧ values.Nodup ∧ values.toFinset = candidates entries foldedKey
  unfolded : ∀ foldedKey, find? table.folded foldedKey = none → candidates entries foldedKey = ∅

theorem indexes_empty : Indexes (empty : Table β) [] where
  exact _ := rfl
  folded _ _ found := by cases found
  unfolded _ _ := rfl

theorem Indexes.valuesUnder {table : Table β} {entries : List (List Char × β)}
    (holds : Indexes table entries) (foldedKey : List Char) :
    ((find? table.folded foldedKey).getD []).Nodup ∧
      ((find? table.folded foldedKey).getD []).toFinset = candidates entries foldedKey := by
  cases before : find? table.folded foldedKey with
  | none => exact ⟨List.nodup_nil, (holds.unfolded _ before).symm⟩
  | some values => exact (holds.folded _ _ before).2

theorem Indexes.enter {table : Table β} {entries : List (List Char × β)} (holds : Indexes table entries)
    (entry : List Char × β) : Indexes (table.enter entry) (entries ++ [entry]) where
  exact key := by
    rw [firstUnder?_concat, ← holds.exact]
    exact find?_enterFirst table.exact _ key entry.2
  folded foldedKey values found := by
    simp only [Table.enter, find?_enterDistinct] at found
    rw [candidates_concat]
    split at found
    · next same =>
        cases found
        obtain ⟨distinct, set⟩ := holds.valuesUnder (fold (normalize entry.1))
        rw [if_pos same.symm, toFinset_adjoin, set, same]
        exact ⟨adjoin_ne_nil _ _, nodup_adjoin distinct _, rfl⟩
    · next other =>
        rw [if_neg (Ne.symm other)]
        exact holds.folded _ _ found
  unfolded foldedKey found := by
    simp only [Table.enter, find?_enterDistinct] at found
    rw [candidates_concat]
    split at found
    · cases found
    · next other =>
        rw [if_neg (Ne.symm other)]
        exact holds.unfolded _ found

theorem indexes_ofEntries (entries : List (List Char × β)) : Indexes (ofEntries entries) entries := by
  induction entries using List.reverseRecOn with
  | nil => exact indexes_empty
  | append_singleton entries entry ih =>
      rw [ofEntries, List.foldl_append]
      exact ih.enter entry

variable {entries : List (List Char × β)} {text : List Char}

theorem search_of_first {value : β} (first : firstUnder? entries (normalize text) = some value) :
    (ofEntries entries).search text = .found value := by
  have found := (indexes_ofEntries entries).exact (normalize text)
  simp only [search, found, first]

theorem search_of_not_first (missing : firstUnder? entries (normalize text) = none) :
    ((ofEntries entries).search text = .unrecognised ∧ candidates entries (fold (normalize text)) = ∅) ∨
    (∃ value, (ofEntries entries).search text = .found value ∧
      candidates entries (fold (normalize text)) = {value}) ∨
    ((ofEntries entries).search text = .ambiguous (candidates entries (fold (normalize text))).card ∧
      2 ≤ (candidates entries (fold (normalize text))).card) := by
  have holds := indexes_ofEntries entries
  have exactly : find? (ofEntries entries).exact (normalize text) = none := by rw [holds.exact, missing]
  cases found : find? (ofEntries entries).folded (fold (normalize text)) with
  | none =>
      left
      exact ⟨by simp only [search, exactly, found], holds.unfolded _ found⟩
  | some values =>
      right
      obtain ⟨nonempty, distinct, set⟩ := holds.folded _ _ found
      have count : (candidates entries (fold (normalize text))).card = values.length := by
        rw [← set, List.toFinset_card_of_nodup distinct]
      match values with
      | [] => exact absurd rfl nonempty
      | [value] => exact Or.inl ⟨value, by simp only [search, exactly, found], by rw [← set]; rfl⟩
      | first :: second :: rest =>
          right
          rw [count]
          exact ⟨by simp only [search, exactly, found], by simp⟩

/-- What stands under a key stands under its folded key too. -/
theorem mem_candidates_of_first {key : List Char} {value : β}
    (first : firstUnder? entries key = some value) : value ∈ candidates entries (fold key) := by
  obtain ⟨entry, member, under, names⟩ := exists_of_firstUnder? first
  rw [candidates, List.mem_toFinset, List.mem_map]
  exact ⟨entry, List.mem_filter.mpr ⟨member, by rw [under, beq_self_eq_true]⟩, names⟩

theorem lookup_of_search {outcome : Outcome β} (found : (ofEntries entries).search text = outcome) :
    (ofEntries entries).lookup text = outcome.toOption :=
  congrArg Outcome.toOption found

theorem mem_candidates_of_lookup {value : β} (named : (ofEntries entries).lookup text = some value) :
    value ∈ candidates entries (fold (normalize text)) := by
  cases first : firstUnder? entries (normalize text) with
  | some found =>
      rw [lookup_of_search (search_of_first first)] at named
      cases named
      exact mem_candidates_of_first first
  | none =>
      rcases search_of_not_first first with ⟨found, -⟩ | ⟨only, found, single⟩ | ⟨found, -⟩
      · rw [lookup_of_search found] at named
        cases named
      · rw [lookup_of_search found] at named
        cases named
        rw [single]
        exact Finset.mem_singleton_self _
      · rw [lookup_of_search found] at named
        cases named

theorem lookup_of_candidates {value : β} (single : candidates entries (fold (normalize text)) = {value}) :
    (ofEntries entries).lookup text = some value := by
  cases first : firstUnder? entries (normalize text) with
  | some found =>
      have member := mem_candidates_of_first first
      rw [single, Finset.mem_singleton] at member
      rw [lookup_of_search (search_of_first first), member]
      rfl
  | none =>
      rcases search_of_not_first first with ⟨-, empty⟩ | ⟨only, found, alone⟩ | ⟨-, several⟩
      · simp [single] at empty
      · rw [single, Finset.singleton_inj] at alone
        rw [lookup_of_search found, alone]
        rfl
      · simp [single] at several

end Table

end Metrology.Spelling

namespace Metrology.Named

open Spelling

variable {α β : Type} [DecidableEq β]

theorem parse?_of_search {named : Named β} {input : String} {outcome : Outcome β}
    (found : (Table.ofEntries named.entries).search input.toList = outcome) :
    named.parse? input = outcome.toOption := by
  rw [parse?, search, spellings, found]

theorem events_of_search {named : Named β} {input : String} {outcome : Outcome β}
    (found : (Table.ofEntries named.entries).search input.toList = outcome) :
    (named.events input : List (Event α)) = outcome.events named.table input := by
  rw [events, search, spellings, found]

/-- Nothing but the entries of a table decides what a text means and what is reported about it. -/
theorem lookup_determined_by_entries (named : Named β) (input : String) :
    let key := normalize input.toList
    let values := candidates named.entries (fold key)
    let report : List (Event α) := named.events input
    (∀ value, firstUnder? named.entries key = some value → named.parse? input = some value) ∧
    (firstUnder? named.entries key = none →
      (∀ value, values = {value} → named.parse? input = some value) ∧
      (values = ∅ ∨ 2 ≤ values.card → named.parse? input = none)) ∧
    (named.parse? input ≠ none → report = []) ∧
    (named.parse? input = none →
      (values.Nonempty → 2 ≤ values.card ∧ report = [.ambiguous named.table input values.card] ∧
        report.map Event.message = ["ambiguous spelling"]) ∧
      (values = ∅ → report = [.unrecognised named.table input] ∧
        report.map Event.message = ["unrecognised spelling"])) := by
  intro key values report
  cases first : firstUnder? named.entries key with
  | some value =>
      have found := Table.search_of_first first
      have parsed : named.parse? input = some value := parse?_of_search found
      have silent : report = [] := events_of_search found
      simp [parsed, silent]
  | none =>
      -- The candidates are none, one or several, and the folded index tells these cases apart.
      rcases Table.search_of_not_first first with ⟨found, empty⟩ | ⟨value, found, single⟩ | ⟨found, several⟩
      · have parsed : named.parse? input = none := parse?_of_search found
        have told : report = [.unrecognised named.table input] := events_of_search found
        have nothing : values = ∅ := empty
        simp [parsed, told, nothing, Event.message]
      · have parsed : named.parse? input = some value := parse?_of_search found
        have silent : report = [] := events_of_search found
        have sole : values = {value} := single
        simp [parsed, silent, sole]
      · have parsed : named.parse? input = none := parse?_of_search found
        have told : report = [.ambiguous named.table input values.card] := events_of_search found
        have two : 2 ≤ values.card := several
        have apart : ∀ value, values ≠ {value} := by
          intro value single
          simp [single] at two
        have inhabited : values ≠ ∅ := by
          intro empty
          simp [empty] at two
        simp [parsed, told, two, apart, inhabited, Event.message]

end Metrology.Named

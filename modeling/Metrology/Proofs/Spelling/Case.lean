import Metrology.Proofs.Spelling.Rows
import Metrology.Proofs.Text.LowerCase

namespace Metrology.Spelling

open Text

def rewrittenPoints : List Nat :=
  blankRanges.flatMap (fun range => List.range' range.1 (range.2 + 1 - range.1)) ++
    ['·', '⋅', '×', '²', '³', '^', '\u00b5', '\u03bc', '°', 'º'].map Char.toNat

theorem keyOf_eq_self {c : Char} (kept : c.toNat ∉ rewrittenPoints) : keyOf c = [c] := by
  rw [rewrittenPoints, List.mem_append, not_or] at kept
  have visible : isBlank c = false := by
    rw [isBlank, List.any_eq_false]
    intro range listed inside
    rw [decide_eq_true_eq] at inside
    apply kept.1
    rw [List.mem_flatMap]
    exact ⟨range, listed, List.mem_range'_1.mpr (by omega)⟩
  unfold keyOf
  rw [visible]
  simp only [Bool.false_eq_true, if_false]
  split <;> first
    | rfl
    | exact absurd (by decide) kept.2

/-- A letter that is moved to lower case is its own key, and so is the small letter unless it is the micro
sign's. -/
theorem caseRuns_kept :
    caseRuns.all (fun run => rewrittenPoints.all fun point => !run.covers point &&
      (!run.covers (point - run.shift).toNat || Nat.beq (point - run.shift).toNat 0x39c)) = true := by
  decide +kernel

/-- Keys and lower case may be taken in either order for every character but the capital of the micro sign. -/
theorem keyOf_lower_comm {c : Char} (other : c ≠ '\u039c') :
    ((lower c).flatMap keyOf).flatMap lower = (keyOf c).flatMap lower := by
  rcases lower_cases c with same | rfl | ⟨run, listed, inside, moved⟩
  · rw [same, List.flatMap_singleton]
  · decide
  · have valid := caseRuns_valid run listed
    have point := CaseRun.toNat_ofNat_of_image valid (CaseRun.image_covers valid inside)
    generalize Char.ofNat (c.toNat + run.shift).toNat = d at moved point
    have kept := List.all_eq_true.mp caseRuns_kept run listed
    simp only [List.all_eq_true, Bool.and_eq_true, Bool.or_eq_true, Bool.not_eq_true', Nat.beq_eq] at kept
    have capital : keyOf c = [c] := by
      apply keyOf_eq_self
      intro rewritten
      exact absurd inside (by simp [(kept _ rewritten).1])
    have small : keyOf d = [d] := by
      apply keyOf_eq_self
      intro rewritten
      have back : ((d.toNat : Int) - run.shift).toNat = c.toNat := by
        simp only [CaseRun.isValid, Bool.and_eq_true, decide_eq_true_eq] at valid
        have low := (CaseRun.covers_iff.mp inside).1
        omega
      rcases (kept _ rewritten).2 with outside | micro
      · rw [back, inside] at outside
        cases outside
      · rw [back] at micro
        exact other (Char.ext (UInt32.toNat_inj.mp micro))
    have lowered : lower d = [d] := lower_of_mem_lower (c := c) (by rw [moved]; exact List.mem_singleton_self d)
    rw [capital, List.flatMap_singleton, moved, List.flatMap_singleton, small, List.flatMap_singleton, lowered]

theorem eq_sigma_of_mem_keyOf {c : Char} (member : 'Σ' ∈ keyOf c) : c = 'Σ' := by
  unfold keyOf at member
  split at member
  · cases member
  · split at member <;> first
      | exact (List.mem_singleton.mp member).symm
      | exact absurd member (by decide)

theorem fold_eq_flatMap {key : List Char} (plain : 'Σ' ∉ key) : fold key = key.flatMap lower :=
  lowerAfter_eq_flatMap [] plain

theorem sigma_notMem_normalize {text : List Char} (plain : 'Σ' ∉ text) : 'Σ' ∉ normalize text := by
  intro member
  obtain ⟨c, inside, spelled⟩ := List.mem_flatMap.mp member
  rw [eq_sigma_of_mem_keyOf spelled] at inside
  exact plain inside

theorem sigma_notMem_lower (c : Char) : 'Σ' ∉ lower c := by
  intro member
  exact absurd (lower_of_mem_lower member) (by decide)

/-- A text and its lower case have the same key when case is disregarded. -/
theorem fold_normalize_lower {text : List Char} (sigma : 'Σ' ∉ text) (micro : '\u039c' ∉ text) :
    fold (normalize (text.flatMap lower)) = fold (normalize text) := by
  have lowered : 'Σ' ∉ text.flatMap lower := by
    intro member
    obtain ⟨c, -, spelled⟩ := List.mem_flatMap.mp member
    exact sigma_notMem_lower c spelled
  rw [fold_eq_flatMap (sigma_notMem_normalize lowered), fold_eq_flatMap (sigma_notMem_normalize sigma)]
  simp only [normalize, List.flatMap_assoc]
  apply List.flatMap_congr
  intro c inside
  have other : c ≠ '\u039c' := by
    rintro rfl
    exact micro inside
  rw [← List.flatMap_assoc]
  exact keyOf_lower_comm other

/-- The characters of the rows: those of Latin-1, the capital delta, the small mu, the primes and the
subscript zero. -/
def isSpelled (c : Char) : Bool :=
  Nat.blt c.toNat 0x100 || [0x394, 0x3bc, 0x2032, 0x2033, 0x2080].any (Nat.beq c.toNat)

def isForeign (c : Char) : Bool := c == 'σ' || c == 'ς' || c == '\u03bc'

theorem not_isForeign_of_isSpelled {c d : Char} (spelled : isSpelled c = true)
    (member : d ∈ (keyOf c).flatMap lower) : isForeign d = false := by
  have latin : ∀ point < 0x100, ((keyOf (Char.ofNat point)).flatMap lower).all fun d => !isForeign d := by
    decide +kernel
  have others : ∀ point ∈ [0x394, 0x3bc, 0x2032, 0x2033, 0x2080],
      ((keyOf (Char.ofNat point)).flatMap lower).all fun d => !isForeign d := by
    decide
  have none_foreign : ((keyOf c).flatMap lower).all fun d => !isForeign d := by
    rw [← Char.ofNat_toNat c]
    simp only [isSpelled, Bool.or_eq_true, Nat.blt_eq, List.any_eq_true, Nat.beq_eq] at spelled
    rcases spelled with low | ⟨point, listed, same⟩
    · exact latin _ low
    · rw [same]
      exact others _ listed
  simpa using List.all_eq_true.mp none_foreign d member

theorem not_isForeign_of_mem_fold {text : List Char} (spelled : ∀ c ∈ text, isSpelled c = true) {d : Char}
    (member : d ∈ fold (normalize text)) : isForeign d = false := by
  have plain : 'Σ' ∉ text := by
    intro inside
    exact absurd (spelled _ inside) (by decide)
  rw [fold_eq_flatMap (sigma_notMem_normalize plain), normalize, List.flatMap_assoc] at member
  obtain ⟨c, inside, lowered⟩ := List.mem_flatMap.mp member
  exact not_isForeign_of_isSpelled (spelled c inside) lowered

theorem mem_fold_normalize {text : List Char} {c d : Char} (member : c ∈ text) (kept : keyOf c = [c])
    (plain : c ≠ 'Σ') (lowered : d ∈ lower c) : d ∈ fold (normalize text) := by
  have inside : c ∈ normalize text := List.mem_flatMap.mpr ⟨c, member, by simp [kept]⟩
  exact mem_lowerAfter [] inside plain lowered

/-- A text in lower case: each character on its own, or with a sigma at the end of a word in its final
form. -/
def IsLowered (lowered text : List Char) : Prop := lowered = lowerAll text ∨ lowered = text.flatMap lower

theorem IsLowered.eq_flatMap {lowered text : List Char} (small : IsLowered lowered text)
    (sigma : 'Σ' ∉ text) : lowered = text.flatMap lower := by
  rcases small with rfl | rfl
  · exact lowerAfter_eq_flatMap [] sigma
  · rfl

theorem IsLowered.exists_sigma_mem_fold {lowered text : List Char} (small : IsLowered lowered text)
    (member : 'Σ' ∈ text) : ∃ c ∈ fold (normalize lowered), isForeign c = true := by
  have spelled : 'σ' ∈ lowered ∨ 'ς' ∈ lowered := by
    rcases small with rfl | rfl
    · exact exists_sigma_mem_lowerAfter [] member
    · exact Or.inl (List.mem_flatMap.mpr ⟨'Σ', member, by decide⟩)
  rcases spelled with inside | inside
  · exact ⟨'σ', mem_fold_normalize inside (by decide) (by decide) (by decide), rfl⟩
  · exact ⟨'ς', mem_fold_normalize inside (by decide) (by decide) (by decide), rfl⟩

end Metrology.Spelling

namespace Metrology.Named

open Spelling

variable {β : Type} [DecidableEq β] {named : Named β}

theorem mem_candidates {foldedKey : List Char} {value : β} :
    value ∈ candidates named.entries foldedKey ↔
      ∃ row ∈ named.rows, fold (normalize row.1.toList) = foldedKey ∧ row.2 = value := by
  simp [candidates, entries]

theorem mem_candidates_of_parse? {input : String} {value : β} (parsed : named.parse? input = some value) :
    value ∈ candidates named.entries (fold (normalize input.toList)) :=
  Table.mem_candidates_of_lookup parsed

theorem parse?_of_candidates {input : String} {value : β}
    (single : candidates named.entries (fold (normalize input.toList)) = {value}) :
    named.parse? input = some value :=
  Table.lookup_of_candidates single

end Metrology.Named

namespace Metrology.Family

open Spelling Text

theorem rows_spelled (f : Family) :
    f.units.all (fun u => (u.abbreviation :: u.row.spellings).all fun text => text.toList.all isSpelled) =
      true := by
  cases f <;> decide +kernel

theorem isSpelled_of_mem_rows {f : Family} {row : String × f.Unit} (listed : row ∈ f.named.rows) :
    ∀ c ∈ row.1.toList, isSpelled c = true := by
  obtain ⟨u, known, spelling⟩ := List.mem_flatMap.mp listed
  obtain ⟨text, one, rfl⟩ := List.mem_map.mp spelling
  exact List.all_eq_true.mp (List.all_eq_true.mp (List.all_eq_true.mp f.rows_spelled u known) text one)

theorem parse?_eq_none_of_foreign {f : Family} {input : String} {c : Char}
    (member : c ∈ fold (normalize input.toList)) (foreign : isForeign c = true) :
    f.named.parse? input = none := by
  cases parsed : f.named.parse? input with
  | none => rfl
  | some u =>
      obtain ⟨row, listed, same, -⟩ := Named.mem_candidates.mp (Named.mem_candidates_of_parse? parsed)
      rw [← same] at member
      have own := not_isForeign_of_mem_fold (isSpelled_of_mem_rows listed) member
      rw [own] at foreign
      cases foreign

/-- A text with the capital that the micro sign has in Greek names no unit, whatever its small letter is
taken for. -/
theorem parse?_eq_none_of_capital_mu {f : Family} {input : String} (member : '\u039c' ∈ input.toList) :
    f.named.parse? input = none :=
  parse?_eq_none_of_foreign (c := '\u03bc')
    (mem_fold_normalize member (by decide) (by decide) (by decide)) rfl

/-- A text whose lower case names a unit, and no other unit up to case, names that unit itself, unless it has
the capital of the micro sign: then it names none. -/
theorem parse?_of_lowered {f : Family} {text lowered : String} {u : f.Unit}
    (small : IsLowered lowered.toList text.toList) (parsed : f.named.parse? lowered = some u)
    (sole : ∀ row ∈ f.named.rows, fold (normalize row.1.toList) = fold (normalize lowered.toList) →
      row.2 = u) :
    f.named.parse? text = if '\u039c' ∈ text.toList then none else some u := by
  split
  · next micro => exact parse?_eq_none_of_capital_mu micro
  · next micro =>
      have sigma : 'Σ' ∉ text.toList := by
        intro member
        obtain ⟨c, inside, foreign⟩ := small.exists_sigma_mem_fold member
        rw [parse?_eq_none_of_foreign inside foreign] at parsed
        cases parsed
      have same : fold (normalize lowered.toList) = fold (normalize text.toList) := by
        rw [small.eq_flatMap sigma, fold_normalize_lower sigma micro]
      have single : candidates f.named.entries (fold (normalize lowered.toList)) = {u} := by
        apply Finset.eq_singleton_iff_unique_mem.mpr
        refine ⟨Named.mem_candidates_of_parse? parsed, ?_⟩
        intro other member
        obtain ⟨row, listed, under, rfl⟩ := Named.mem_candidates.mp member
        exact sole row listed under
      exact Named.parse?_of_candidates (same ▸ single)

theorem parse?_of_lowered_milliamperes :
    ∃ u : electricCurrent.Unit, u.name = "Milliampere" ∧
      IsLowered "milliamperes".toList "MILLIAMPERES".toList ∧
      electricCurrent.named.parse? "milliamperes" = some u ∧
      (∀ row ∈ electricCurrent.named.rows,
        fold (normalize row.1.toList) = fold (normalize "milliamperes".toList) → row.2 = u) ∧
      electricCurrent.named.parse? "MILLIAMPERES" = some u := by
  let milliampere : electricCurrent.Unit := ⟨⟨2, by decide⟩⟩
  have small : IsLowered "milliamperes".toList "MILLIAMPERES".toList := Or.inl (by decide)
  have parsed : electricCurrent.named.parse? "milliamperes" = some milliampere := by decide
  have sole : ∀ row ∈ electricCurrent.named.rows,
      fold (normalize row.1.toList) = fold (normalize "milliamperes".toList) → row.2 = milliampere := by
    decide
  have named := parse?_of_lowered small parsed sole
  rw [if_neg (by decide)] at named
  exact ⟨milliampere, by decide, small, parsed, sole, named⟩

/-- The abbreviation of the microampere has no meaning in capitals, although its letters mean nothing but the
microampere in either case. -/
theorem microampere_unread_in_capitals :
    ∃ u : electricCurrent.Unit, u.name = "Microampere" ∧
      IsLowered "\u03bca".toList "\u039cA".toList ∧
      electricCurrent.named.parse? "\u03bca" = some u ∧
      (∀ row ∈ electricCurrent.named.rows,
        fold (normalize row.1.toList) = fold (normalize "\u03bca".toList) → row.2 = u) ∧
      electricCurrent.named.parse? "\u039cA" = none := by
  refine ⟨⟨⟨3, by decide⟩⟩, ?_, Or.inl ?_, ?_, ?_, parse?_eq_none_of_capital_mu ?_⟩ <;> decide

end Metrology.Family

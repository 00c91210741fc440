import Mathlib.Data.List.Basic
import Metrology.Text

/-!
Lower-casing character by character. What it makes is in lower case already, because no run of capital
letters is moved onto one of the runs.
-/

namespace Metrology.Text

namespace CaseRun

def image (run : CaseRun) : CaseRun :=
  ⟨(run.first + run.shift).toNat, (run.last + run.shift).toNat, run.step, 0⟩

def isValid (run : CaseRun) : Bool :=
  decide (0 ≤ run.first + run.shift) &&
    (Nat.blt run.image.last 0xd800 || (Nat.blt 0xdfff run.image.first && Nat.blt run.image.last 0x110000))

/-- Whether two runs are seen to have nothing in common: one ends before the other begins, they alternate, or
one is a single code point that the other leaves out. -/
def isApart (a b : CaseRun) : Bool :=
  Nat.blt b.last a.first || Nat.blt a.last b.first ||
    (Nat.beq a.step 2 && Nat.beq b.step 2 && Nat.beq ((a.first + b.first) % 2) 1) ||
    (Nat.beq a.first a.last && !b.covers a.first)

theorem covers_iff {run : CaseRun} {point : Nat} :
    run.covers point = true ↔
      run.first ≤ point ∧ point ≤ run.last ∧ (point - run.first) % run.step = 0 := by
  rw [covers, decide_eq_true_eq]

theorem covers_eq_false_of_isApart {a b : CaseRun} {point : Nat} (apart : a.isApart b = true)
    (inside : a.covers point = true) : b.covers point = false := by
  simp only [isApart, Bool.or_eq_true, Bool.and_eq_true, Nat.blt_eq, Nat.beq_eq, Bool.not_eq_true'] at apart
  obtain ⟨low, high, stepped⟩ := covers_iff.mp inside
  rcases apart with ((above | below) | ⟨⟨step, other⟩, odd⟩) | ⟨one, out⟩
  · rw [← Bool.not_eq_true, covers_iff]
    omega
  · rw [← Bool.not_eq_true, covers_iff]
    omega
  · rw [step] at stepped
    rw [← Bool.not_eq_true, covers_iff, other]
    omega
  · have same : a.first = point := by omega
    rwa [same] at out

theorem image_covers {run : CaseRun} (valid : run.isValid = true) {point : Nat}
    (inside : run.covers point = true) : run.image.covers (point + run.shift).toNat = true := by
  simp only [isValid, Bool.and_eq_true, decide_eq_true_eq] at valid
  obtain ⟨low, high, stepped⟩ := covers_iff.mp inside
  have offset : (point + run.shift).toNat - run.image.first = point - run.first := by
    simp only [image]
    omega
  rw [covers_iff, offset]
  simp only [image]
  omega

theorem toNat_ofNat_of_image {run : CaseRun} (valid : run.isValid = true) {point : Nat}
    (inside : run.image.covers point = true) : (Char.ofNat point).toNat = point := by
  simp only [isValid, Bool.and_eq_true, Bool.or_eq_true, Nat.blt_eq] at valid
  obtain ⟨low, high, -⟩ := covers_iff.mp inside
  have character : point.isValidChar := by
    unfold Nat.isValidChar
    omega
  rw [Char.ofNat, dif_pos character]
  rfl

end CaseRun

theorem caseRuns_valid : ∀ run ∈ caseRuns, run.isValid = true := by
  decide +kernel

/-- The dotted capital I, which is lower-cased on its own, counts as a run here. -/
theorem caseRuns_image_apart :
    caseRuns.all (fun run => (⟨0x130, 0x130, 1, 0⟩ :: caseRuns).all run.image.isApart) = true := by
  decide +kernel

theorem lower_eq_self {c : Char} (dotted : c ≠ '\u0130')
    (outside : ∀ run ∈ caseRuns, run.covers c.toNat = false) : lower c = [c] := by
  rw [lower, if_neg dotted]
  split
  · next run found =>
      rw [outside run (List.mem_of_find?_eq_some found)]
      rfl
  · rfl

theorem lower_cases (c : Char) :
    lower c = [c] ∨ c = '\u0130' ∨
      ∃ run ∈ caseRuns, run.covers c.toNat = true ∧ lower c = [Char.ofNat (c.toNat + run.shift).toNat] := by
  by_cases dotted : c = '\u0130'
  · exact Or.inr (Or.inl dotted)
  · rw [lower, if_neg dotted]
    split
    · next run found =>
        split
        · next inside => exact Or.inr (Or.inr ⟨run, List.mem_of_find?_eq_some found, inside, rfl⟩)
        · exact Or.inl rfl
    · exact Or.inl rfl

theorem lower_of_mem_lower {c d : Char} (member : d ∈ lower c) : lower d = [d] := by
  rcases lower_cases c with same | rfl | ⟨run, listed, inside, moved⟩
  · rw [same, List.mem_singleton] at member
    rw [member, same]
  · have spelled : d = 'i' ∨ d = '\u0307' := by simpa [lower] using member
    rcases spelled with rfl | rfl <;> decide +kernel
  · have valid := caseRuns_valid run listed
    have image := CaseRun.image_covers valid inside
    have point : d.toNat = (c.toNat + run.shift).toNat := by
      rw [moved, List.mem_singleton] at member
      rw [member, CaseRun.toNat_ofNat_of_image valid image]
    rw [← point] at image
    have apart := List.all_eq_true.mp caseRuns_image_apart run listed
    have others := fun other known =>
      CaseRun.covers_eq_false_of_isApart (List.all_eq_true.mp apart other known) image
    apply lower_eq_self
    · rintro rfl
      exact absurd (others _ List.mem_cons_self) (by decide)
    · exact fun other known => others other (List.mem_cons_of_mem _ known)

theorem lowerAfter_eq_flatMap (before : List Char) {text : List Char} (plain : 'Σ' ∉ text) :
    lowerAfter before text = text.flatMap lower := by
  induction text generalizing before with
  | nil => rfl
  | cons c text ih =>
      rw [List.mem_cons, not_or] at plain
      rw [lowerAfter, if_neg (Ne.symm plain.1), ih _ plain.2, List.flatMap_cons]

theorem mem_lowerAfter (before : List Char) {text : List Char} {c d : Char} (member : c ∈ text)
    (plain : c ≠ 'Σ') (lowered : d ∈ lower c) : d ∈ lowerAfter before text := by
  induction text generalizing before with
  | nil => cases member
  | cons first text ih =>
      rw [lowerAfter, List.mem_append]
      rcases List.mem_cons.mp member with rfl | later
      · exact Or.inl (by rwa [if_neg plain])
      · exact Or.inr (ih _ later)

theorem exists_sigma_mem_lowerAfter (before : List Char) {text : List Char} (member : 'Σ' ∈ text) :
    'σ' ∈ lowerAfter before text ∨ 'ς' ∈ lowerAfter before text := by
  induction text generalizing before with
  | nil => cases member
  | cons first text ih =>
      rw [lowerAfter, List.mem_append, List.mem_append]
      rcases List.mem_cons.mp member with rfl | later
      · simp only [if_true, lowerSigma, List.mem_singleton]
        split
        · exact Or.inr (Or.inl rfl)
        · exact Or.inl (Or.inl rfl)
      · exact (ih (first :: before) later).imp Or.inr Or.inr

end Metrology.Text

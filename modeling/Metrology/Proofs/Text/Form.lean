import Metrology.Proofs.Text.Alphabet

/-!
Texts with gaps for numbers: a text that fills the gaps can be split into the numbers again, since what
stands behind each gap starts with a character that occurs in no number.
-/

namespace Metrology.Text

structure Form where
  opening : List Char
  separators : List (List Char)
  closing : List Char

namespace Form

def filled (numbers separators : List (List Char)) : List Char :=
  (numbers.zipWith (· ++ ·) separators).flatten

def fill (form : Form) (numbers : List (List Char)) (name : List Char) : List Char :=
  form.opening ++ (filled numbers form.separators ++ (name ++ form.closing))

def readNumbers : List (List Char) → List Char → List (List Char) × List Char
  | [], text => ([], text)
  | separator :: separators, text =>
    let read := readNumbers separators ((text.dropWhile isNumberChar).drop separator.length)
    (text.takeWhile isNumberChar :: read.1, read.2)

def split (form : Form) (text : List Char) : List (List Char) × List Char :=
  let read := readNumbers form.separators (text.drop form.opening.length)
  (read.1, read.2.take (read.2.length - form.closing.length))

/-- Whether a number ends where the text behind it starts. -/
def endsNumber (separator : List Char) : Bool := separator.head?.any fun c => !isNumberChar c

theorem not_isNumberChar_of_endsNumber {separator : List Char} (ends : endsNumber separator = true)
    (rest : List Char) : ∀ c ∈ (separator ++ rest).head?, isNumberChar c = false := by
  cases separator with
  | nil => cases ends
  | cons first separator =>
      intro c head
      cases head
      simpa [endsNumber] using ends

theorem readNumbers_filled {numbers separators : List (List Char)}
    (length : numbers.length = separators.length)
    (letters : ∀ number ∈ numbers, ∀ c ∈ number, isNumberChar c = true)
    (ends : separators.all endsNumber = true) (rest : List Char) :
    readNumbers separators (filled numbers separators ++ rest) = (numbers, rest) := by
  induction numbers generalizing separators with
  | nil =>
      cases separators with
      | nil => rfl
      | cons separator separators => cases length
  | cons number numbers ih =>
      cases separators with
      | nil => cases length
      | cons separator separators =>
          simp only [List.all_cons, Bool.and_eq_true] at ends
          simp only [List.forall_mem_cons] at letters
          have text : filled (number :: numbers) (separator :: separators) ++ rest =
              number ++ (separator ++ (filled numbers separators ++ rest)) := by
            simp [filled]
          have closed := not_isNumberChar_of_endsNumber ends.1 (filled numbers separators ++ rest)
          rw [text, readNumbers, takeWhile_append_closed letters.1 closed,
            dropWhile_append_closed letters.1 closed, List.drop_left,
            ih (Nat.succ.inj length) letters.2 ends.2]

theorem split_fill {form : Form} {numbers : List (List Char)} {name : List Char}
    (length : numbers.length = form.separators.length)
    (letters : ∀ number ∈ numbers, ∀ c ∈ number, isNumberChar c = true)
    (ends : form.separators.all endsNumber = true) :
    form.split (form.fill numbers name) = (numbers, name) := by
  have read := readNumbers_filled length letters ends (name ++ form.closing)
  simp only [split, fill, List.drop_left, read]
  simp

end Form

end Metrology.Text

import Scanout.Json.Fault

/-!
# Readers

A reader takes a value off the front of a text and gives it together with what follows it, or tells
the first fault it meets.  Between the tokens of a text there may be blanks, which are four
characters and no others.

## Main definitions

* `Json.Reader` — a reader
* `Json.skipBlanks` — what follows the blanks at the front of a text
* `Json.readFirst` — a reader that goes by the first character of its value
* `Json.skipLetters` — reads given letters
-/

namespace Scanout.Json

/-- **A reader** takes a value off the front of a text and gives it with what follows it. -/
abbrev Reader (α : Type) := List Char → Except Fault (α × List Char)

/-- A text that two steps go through without a fault, each of them goes through without one. -/
theorem exists_ok_of_bind {α β : Type} {step : Except Fault α} {next : α → Except Fault β} {b : β} :
    step >>= next = .ok b → ∃ a, step = .ok a ∧ next a = .ok b :=
  match step with
  | .error _ => nofun
  | .ok a => fun h => ⟨a, rfl, h⟩

/-! ### Blanks -/

/-- **The characters that may stand between tokens.** -/
def isBlank (c : Char) : Bool := c == ' ' || c == '\t' || c == '\n' || c == '\r'

/-- What follows the blanks at the front of a text. -/
def skipBlanks (s : List Char) : List Char := s.dropWhile isBlank

theorem skipBlanks_length (s : List Char) : (skipBlanks s).length ≤ s.length :=
  (List.dropWhile_suffix isBlank).length_le

/-- The first character behind the blanks takes one from the length. -/
theorem length_of_skipBlanks {s rest : List Char} {c : Char} (h : skipBlanks s = c :: rest) :
    rest.length < s.length := by
  have := skipBlanks_length s
  simp only [h, List.length_cons] at this
  omega

/-- **Reads a value by its first character**, which blanks may precede. -/
def readFirst {α : Type} (read : Char → Reader α) : Reader α := fun s =>
  match skipBlanks s with
  | [] => .error .endInValue
  | c :: rest => read c rest

/-! ### Fixed words -/

/-- Reads the given letters. -/
def skipLetters : List Char → List Char → Except Fault (List Char)
  | [], s => .ok s
  | _ :: _, [] => .error .endInValue
  | letter :: letters, c :: rest =>
      if c = letter then skipLetters letters rest else .error .expectedIdent

theorem skipLetters_length {letters s rest : List Char} (h : skipLetters letters s = .ok rest) :
    rest.length ≤ s.length := by
  induction letters generalizing s with
  | nil =>
      cases h
      exact Nat.le_refl _
  | cons letter letters ih =>
      cases s with
      | nil => cases h
      | cons c tail =>
          simp only [skipLetters] at h
          split at h
          · have := ih h
            simp only [List.length_cons]
            omega
          · cases h

/-- What follows the first letter of the word for nothing. -/
def nullTail : List Char := ['u', 'l', 'l']

/-- What follows the first letter of the word for true. -/
def trueTail : List Char := ['r', 'u', 'e']

/-- What follows the first letter of the word for false. -/
def falseTail : List Char := ['a', 'l', 's', 'e']

end Scanout.Json

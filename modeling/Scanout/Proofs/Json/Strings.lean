import Scanout.Proofs.Json.Grammar

/-!
# Strings read back

A character of a string may be written in several ways, and whichever it is, the reader finds that
character, whatever stands behind it.  So a string is read character by character up to its closing
quote.  One of the ways is the one in which strings are written, so a written string is read back.

## Main results

* `Json.readCharacters_spellsOne` — one character, in any of its ways
* `Json.IsKey.exists_readString` — a whole string, in any of its ways
* `Json.isKey_writeString`, `Json.readString_written` — a written string
* `Json.IsString.exists_skipString` — a string that is only passed over
-/

namespace Scanout.Json

/-! ### Steps of the readers -/

theorem readCharacters_quote (rest : List Char) :
    readCharacters ('"' :: rest) = .ok ([], rest) := by
  rw [readCharacters]
  rfl

/-- An escape stands for one character. -/
theorem readCharacters_escape {s after characters rest : List Char} {c : Char}
    (escape : readEscape s = .ok (c, after)) (behind : readCharacters after = .ok (characters, rest)) :
    readCharacters ('\\' :: s) = .ok (c :: characters, rest) := by
  rw [readCharacters, if_neg (by decide), if_pos rfl]
  split
  · next fault failed =>
    rw [escape] at failed
    cases failed
  · next character tail read =>
    rw [escape] at read
    obtain ⟨rfl, rfl⟩ := Prod.mk.inj (Except.ok.inj read)
    rw [behind]

/-- A character that may stand in a string is none of the special ones. -/
theorem isPlain_iff {c : Char} :
    isPlain c = true ↔ c ≠ '"' ∧ c ≠ '\\' ∧ isControl c = false := by
  simp [isPlain, and_assoc]

/-- A character that may stand in a string stands for itself. -/
theorem readCharacters_plain {c : Char} {s characters rest : List Char} (plain : isPlain c = true)
    (behind : readCharacters s = .ok (characters, rest)) :
    readCharacters (c :: s) = .ok (c :: characters, rest) := by
  obtain ⟨noQuote, noEscape, noControl⟩ := isPlain_iff.mp plain
  rw [readCharacters, if_neg noQuote, if_neg noEscape, noControl, behind]
  rfl

theorem skipString_quote (rest : List Char) : skipString ('"' :: rest) = .ok rest := by
  rw [skipString]
  rfl

/-- An escape is passed over as a whole. -/
theorem skipString_escape {s after : List Char} (escape : skipEscape s = .ok after) :
    skipString ('\\' :: s) = skipString after := by
  rw [skipString, if_neg (by decide), if_pos rfl]
  split
  · next fault failed =>
    rw [escape] at failed
    cases failed
  · next tail skipped =>
    rw [escape] at skipped
    cases skipped
    rfl

theorem skipString_plain {c : Char} (s : List Char) (plain : isPlain c = true) :
    skipString (c :: s) = skipString s := by
  obtain ⟨noQuote, noEscape, noControl⟩ := isPlain_iff.mp plain
  rw [skipString, if_neg noQuote, if_neg noEscape, noControl]
  rfl

/-! ### Escapes -/

/-- **The four digits of a unit are read.** -/
theorem readUnit_append {digits : List Char} {n : Nat} (four : digits.length = 4)
    (value : Text.hexValue? digits = some n) (rest : List Char) :
    readUnit (digits ++ rest) = .ok (n, rest) := by
  match digits, four with
  | [a, b, c, d], _ =>
      show readUnit (a :: b :: c :: d :: rest) = _
      rw [readUnit, value]

/-- The letters of the grammar are those of the reader, and none of them announces a unit. -/
theorem shortEscape?_of_mem {letter c : Char} (listed : (letter, c) ∈ shortEscapes) :
    letter ≠ 'u' ∧ shortEscape? letter = some c := by
  simp only [shortEscapes, List.mem_cons, List.not_mem_nil, or_false, Prod.mk.injEq] at listed
  rcases listed with ⟨rfl, rfl⟩ | ⟨rfl, rfl⟩ | ⟨rfl, rfl⟩ | ⟨rfl, rfl⟩ | ⟨rfl, rfl⟩ |
    ⟨rfl, rfl⟩ | ⟨rfl, rfl⟩ | ⟨rfl, rfl⟩ <;> decide

theorem readEscape_short {letter c : Char} (listed : (letter, c) ∈ shortEscapes)
    (rest : List Char) : readEscape (letter :: rest) = .ok (c, rest) := by
  obtain ⟨noUnit, found⟩ := shortEscape?_of_mem listed
  rw [readEscape, if_neg noUnit, found]

/-- A unit that is no half stands for the character of its number. -/
theorem readEscape_unit {digits : List Char} {n : Nat} (four : digits.length = 4)
    (value : Text.hexValue? digits = some n) (noFirst : isFirstHalf n = false)
    (noSecond : isSecondHalf n = false) (rest : List Char) :
    readEscape ('u' :: (digits ++ rest)) = .ok (Char.ofNat n, rest) := by
  rw [readEscape, if_pos rfl, readUnit_append four value]
  show (if isSecondHalf n then _ else if isFirstHalf n then _ else _) = _
  rw [noSecond, noFirst]
  rfl

/-- The first halves and the second halves are apart. -/
theorem isSecondHalf_of_isFirstHalf {n : Nat} (first : isFirstHalf n = true) :
    isSecondHalf n = false := by
  simp only [isFirstHalf, isSecondHalf, Bool.and_eq_true, decide_eq_true_eq,
    Bool.and_eq_false_iff, decide_eq_false_iff_not] at first ⊢
  omega

/-- Two halves stand for the character that they make up. -/
theorem readEscape_halves {digits digits' : List Char} {first second : Nat}
    (four : digits.length = 4) (value : Text.hexValue? digits = some first)
    (isFirst : isFirstHalf first = true) (four' : digits'.length = 4)
    (value' : Text.hexValue? digits' = some second) (isSecond : isSecondHalf second = true)
    (rest : List Char) :
    readEscape ('u' :: (digits ++ '\\' :: 'u' :: (digits' ++ rest))) =
      .ok (joinHalves first second, rest) := by
  rw [readEscape, if_pos rfl, readUnit_append four value]
  show (if isSecondHalf first then _ else if isFirstHalf first then _ else _) = _
  rw [isSecondHalf_of_isFirstHalf isFirst, isFirst]
  show (readUnit (digits' ++ rest) >>= _) = _
  rw [readUnit_append four' value']
  show (if isSecondHalf second then _ else _) = _
  rw [isSecond]
  rfl

/-! ### Strings in any of their ways -/

/-- **A character is read in any of its ways**, in front of whatever is read behind it. -/
theorem readCharacters_spellsOne {c : Char} {part s characters rest : List Char}
    (spells : SpellsOne c part) (behind : readCharacters s = .ok (characters, rest)) :
    readCharacters (part ++ s) = .ok (c :: characters, rest) := by
  cases spells with
  | plain plain => exact readCharacters_plain plain behind
  | short listed => exact readCharacters_escape (readEscape_short listed s) behind
  | unit four value noFirst noSecond =>
      exact readCharacters_escape (readEscape_unit four value noFirst noSecond s) behind
  | @halves digits digits' first second four value isFirst four' value' isSecond =>
      rw [List.append_assoc]
      exact readCharacters_escape
        (readEscape_halves four value isFirst four' value' isSecond s) behind

/-- Characters are read up to the closing quote. -/
theorem readCharacters_spells {characters text : List Char} (spells : Spells characters text)
    (rest : List Char) : readCharacters (text ++ '"' :: rest) = .ok (characters, rest) := by
  induction spells with
  | nil => exact readCharacters_quote rest
  | cons one _ ih =>
      rw [List.append_assoc]
      exact readCharacters_spellsOne one ih

/-- **A string is read in any of its ways**: behind its opening quote the reader finds what it stands
for and stops after its closing quote. -/
theorem IsKey.exists_readString {name : String} {key : List Char} (is : IsKey name key) :
    ∃ text, key = '"' :: text ∧ ∀ rest, readString (text ++ rest) = .ok (name, rest) := by
  cases is with
  | @quoted text spells =>
      refine ⟨text ++ ['"'], rfl, fun rest => ?_⟩
      rw [List.append_assoc, readString, List.singleton_append, readCharacters_spells spells]
      show Except.ok (String.ofList name.toList, rest) = _
      rw [String.ofList_toList]

/-! ### Written strings -/

/-- The two digits of a control character denote its number. -/
theorem hexValue?_control :
    ∀ n < 0x20, Text.hexValue? ['0', '0', digitOf (n / 16), digitOf (n % 16)] = some n := by
  decide

/-- The escape of a control character stands for it. -/
theorem spellsOne_control {c : Char} (control : isControl c = true) :
    SpellsOne c ['\\', 'u', '0', '0', digitOf (c.toNat / 16), digitOf (c.toNat % 16)] := by
  have small : c.toNat < 0x20 := of_decide_eq_true control
  have spells : SpellsOne (Char.ofNat c.toNat) _ :=
    .unit rfl (hexValue?_control c.toNat small) ?_ ?_
  · rw [Char.ofNat_toNat] at spells
    exact spells
  · simp only [isFirstHalf, Bool.and_eq_false_iff, decide_eq_false_iff_not]
    omega
  · simp only [isSecondHalf, Bool.and_eq_false_iff, decide_eq_false_iff_not]
    omega

/-- **A character is written in one of its ways.** -/
theorem spellsOne_writeCharacter (c : Char) : SpellsOne c (writeCharacter c) := by
  by_cases special : c ∈ ['"', '\\', '\x08', '\x0c', '\n', '\r', '\t']
  · -- the seven characters with an escape of one letter
    simp only [List.mem_cons, List.not_mem_nil, or_false] at special
    rcases special with rfl | rfl | rfl | rfl | rfl | rfl | rfl <;>
      exact .short (by decide)
  · simp only [List.mem_cons, List.not_mem_nil, or_false, not_or] at special
    obtain ⟨noQuote, noBackslash, noBackspace, noFeed, noLine, noReturn, noTab⟩ := special
    rw [writeCharacter, if_neg noQuote, if_neg noBackslash, if_neg noBackspace, if_neg noFeed,
      if_neg noLine, if_neg noReturn, if_neg noTab]
    by_cases control : isControl c = true
    · rw [if_pos control]
      exact spellsOne_control control
    · rw [if_neg control]
      exact .plain (isPlain_iff.mpr ⟨noQuote, noBackslash, Bool.eq_false_iff.mpr control⟩)

/-- Characters are written in one of their ways. -/
theorem spells_flatMap (characters : List Char) :
    Spells characters (characters.flatMap writeCharacter) := by
  induction characters with
  | nil => exact .nil
  | cons c characters ih =>
      rw [List.flatMap_cons]
      exact .cons (spellsOne_writeCharacter c) ih

/-- **A string is written in one of its ways.** -/
theorem isKey_writeString (s : String) : IsKey s (writeString s) := .quoted (spells_flatMap s.toList)

/-- A written string begins with its opening quote. -/
theorem writeString_append (s : String) (rest : List Char) :
    writeString s ++ rest = '"' :: (s.toList.flatMap writeCharacter ++ '"' :: rest) := by
  rw [writeString, List.cons_append, List.append_assoc]
  rfl

/-- **A written string is read back**: behind its opening quote the reader finds it and stops after
its closing quote. -/
theorem readString_written (s : String) (rest : List Char) :
    readString (s.toList.flatMap writeCharacter ++ '"' :: rest) = .ok (s, rest) := by
  rw [readString, readCharacters_spells (spells_flatMap s.toList)]
  show Except.ok (String.ofList s.toList, rest) = _
  rw [String.ofList_toList]

/-! ### Strings that are only passed over -/

/-- A character is passed over as it is written. -/
theorem skipString_character {part : List Char} (is : IsCharacter part) (s : List Char) :
    skipString (part ++ s) = skipString s := by
  cases is with
  | plain plain => exact skipString_plain s plain
  | short listed =>
      obtain ⟨noUnit, found⟩ := shortEscape?_of_mem listed
      refine skipString_escape ?_
      show skipEscape (_ :: s) = _
      rw [skipEscape, if_neg noUnit, found]
  | unit four value =>
      refine skipString_escape ?_
      show skipEscape ('u' :: (_ ++ s)) = _
      rw [skipEscape, if_pos rfl, readUnit_append four value]
      rfl

/-- **A string of the grammar is passed over** behind its opening quote, up to its closing quote. -/
theorem IsString.exists_skipString {s : List Char} (is : IsString s) :
    ∃ text, s = '"' :: text ∧ ∀ rest, skipString (text ++ rest) = .ok rest := by
  cases is with
  | @quoted text are =>
      refine ⟨text ++ ['"'], rfl, fun rest => ?_⟩
      rw [List.append_assoc, List.singleton_append]
      induction are with
      | nil => exact skipString_quote rest
      | cons one _ ih =>
          rw [List.append_assoc, skipString_character one]
          exact ih

end Scanout.Json

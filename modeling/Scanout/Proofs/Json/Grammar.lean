import Scanout.Json.Skip

/-!
# The grammar of JSON

What a JSON text may be, apart from how it is read: numerals, strings, and values that nest.  Blanks
may stand around every value and around every key.  The items of a bracket, which are the elements of
a list or the members of an object, have a comma between each two.

## Main definitions

* `Json.IsNumeral`, `Json.IsString` — numerals and strings as they are written
* `Json.Phrase`, `Json.Derives` — the grammar of values
* `Json.Spells`, `Json.IsKey` — strings that can be read, with what they stand for

## Main results

* `Json.IsKey.isString` — a string that can be read is a string of the grammar

## Design notes

A string of the grammar may hold any four hexadecimal digits behind `u`.  What such a string stands
for is another matter: there the two halves of a character must come together.
-/

namespace Scanout.Json

/-- The character that opens a bracket. -/
def Bracket.opening : Bracket → Char
  | list => '['
  | object => '\x7b'

/-- **Text that is nothing but blanks.** -/
def Blanks (s : List Char) : Prop := ∀ c ∈ s, isBlank c = true

instance (s : List Char) : Decidable (Blanks s) :=
  List.decidableBAll (fun c => isBlank c = true) s

theorem blanks_nil : Blanks [] := nofun

/-! ### Numerals -/

/-- One digit or more. -/
def IsDigits (s : List Char) : Prop := s ≠ [] ∧ ∀ c ∈ s, c.isDigit = true

/-- The digits before the point, of which a zero in front is the only one. -/
def IsWhole (s : List Char) : Prop := IsDigits s ∧ (s.head? = some '0' → s = ['0'])

/-- The point and the digits behind it, if there are any. -/
inductive IsFraction : List Char → Prop
  | missing : IsFraction []
  | given {digits : List Char} : IsDigits digits → IsFraction ('.' :: digits)

/-- The exponent, if there is one. -/
inductive IsExponent : List Char → Prop
  | missing : IsExponent []
  | given {mark : Char} {sign digits : List Char} : mark ∈ ['e', 'E'] →
      sign ∈ [[], ['+'], ['-']] → IsDigits digits → IsExponent (mark :: (sign ++ digits))

/-- **A numeral as it is written.** -/
inductive IsNumeral : List Char → Prop
  | parts {minus whole fraction exponent : List Char} : minus ∈ [[], ['-']] → IsWhole whole →
      IsFraction fraction → IsExponent exponent →
      IsNumeral (minus ++ (whole ++ (fraction ++ exponent)))

/-! ### Strings -/

/-- The letters that may stand behind a backslash, with the characters that they stand for. -/
def shortEscapes : List (Char × Char) :=
  [('"', '"'), ('\\', '\\'), ('/', '/'), ('b', '\x08'), ('f', '\x0c'), ('n', '\n'), ('r', '\r'),
    ('t', '\t')]

/-- A character that may stand in a string as itself. -/
def isPlain (c : Char) : Bool := c != '"' && c != '\\' && !isControl c

/-- One character of a string as it is written. -/
inductive IsCharacter : List Char → Prop
  | plain {c : Char} : isPlain c = true → IsCharacter [c]
  | short {letter c : Char} : (letter, c) ∈ shortEscapes → IsCharacter ['\\', letter]
  | unit {digits : List Char} {n : Nat} : digits.length = 4 → Text.hexValue? digits = some n →
      IsCharacter ('\\' :: 'u' :: digits)

/-- Characters of a string as they are written, one behind the other. -/
inductive AreCharacters : List Char → Prop
  | nil : AreCharacters []
  | cons {part text : List Char} : IsCharacter part → AreCharacters text →
      AreCharacters (part ++ text)

/-- **A string as it is written**, between its quotes. -/
inductive IsString : List Char → Prop
  | quoted {text : List Char} : AreCharacters text → IsString ('"' :: (text ++ ['"']))

/-! ### Values -/

/-- What the grammar speaks of. -/
inductive Phrase where
  | value
  /-- An element of a list with the blanks around it, or a member of an object. -/
  | item (bracket : Bracket)
  /-- Items with a comma between each two. -/
  | items (bracket : Bracket)
  deriving DecidableEq, Repr

/-- **The grammar of values.** -/
inductive Derives : Phrase → List Char → Prop
  | word {s : List Char} : s ∈ ['n' :: nullTail, 't' :: trueTail, 'f' :: falseTail] →
      Derives .value s
  | numeral {s : List Char} : IsNumeral s → Derives .value s
  | string {s : List Char} : IsString s → Derives .value s
  | empty {bracket : Bracket} {blanks : List Char} : Blanks blanks →
      Derives .value (bracket.opening :: (blanks ++ [bracket.closing]))
  | filled {bracket : Bracket} {s : List Char} : Derives (.items bracket) s →
      Derives .value (bracket.opening :: (s ++ [bracket.closing]))
  | element {before s after : List Char} : Blanks before → Derives .value s → Blanks after →
      Derives (.item .list) (before ++ (s ++ after))
  | member {before key between s : List Char} : Blanks before → IsString key → Blanks between →
      Derives (.item .list) s → Derives (.item .object) (before ++ (key ++ (between ++ ':' :: s)))
  | last {bracket : Bracket} {s : List Char} : Derives (.item bracket) s →
      Derives (.items bracket) s
  | more {bracket : Bracket} {s others : List Char} : Derives (.item bracket) s →
      Derives (.items bracket) others → Derives (.items bracket) (s ++ ',' :: others)

/-! ### Strings that can be read -/

/-- **How a character may be written in a string**: as itself, by a letter, by its UTF-16 unit, or by
the two units of its halves. -/
inductive SpellsOne : Char → List Char → Prop
  | plain {c : Char} : isPlain c = true → SpellsOne c [c]
  | short {letter c : Char} : (letter, c) ∈ shortEscapes → SpellsOne c ['\\', letter]
  | unit {digits : List Char} {n : Nat} : digits.length = 4 → Text.hexValue? digits = some n →
      isFirstHalf n = false → isSecondHalf n = false →
      SpellsOne (Char.ofNat n) ('\\' :: 'u' :: digits)
  | halves {digits digits' : List Char} {first second : Nat} : digits.length = 4 →
      Text.hexValue? digits = some first → isFirstHalf first = true → digits'.length = 4 →
      Text.hexValue? digits' = some second → isSecondHalf second = true →
      SpellsOne (joinHalves first second) ('\\' :: 'u' :: digits ++ '\\' :: 'u' :: digits')

/-- **How characters may be written in a string**, one behind the other. -/
inductive Spells : List Char → List Char → Prop
  | nil : Spells [] []
  | cons {c : Char} {characters part text : List Char} : SpellsOne c part →
      Spells characters text → Spells (c :: characters) (part ++ text)

/-- **A string that stands for a given one**, between its quotes. -/
inductive IsKey (name : String) : List Char → Prop
  | quoted {text : List Char} : Spells name.toList text → IsKey name ('"' :: (text ++ ['"']))

/-- A way to write a character is one that a string may have. -/
theorem SpellsOne.areCharacters {c : Char} {part text : List Char} (spells : SpellsOne c part)
    (behind : AreCharacters text) : AreCharacters (part ++ text) := by
  cases spells with
  | plain plain => exact .cons (.plain plain) behind
  | short listed => exact .cons (.short listed) behind
  | unit four value _ _ => exact .cons (.unit four value) behind
  | halves four value _ four' value' _ =>
      rw [List.append_assoc]
      exact .cons (.unit four value) (.cons (.unit four' value') behind)

theorem Spells.areCharacters {characters text : List Char} (spells : Spells characters text) :
    AreCharacters text := by
  induction spells with
  | nil => exact .nil
  | cons one _ ih => exact one.areCharacters ih

/-- **A string that stands for something is a string of the grammar.** -/
theorem IsKey.isString {name : String} {key : List Char} (is : IsKey name key) : IsString key := by
  cases is with
  | quoted spells => exact .quoted spells.areCharacters

end Scanout.Json
